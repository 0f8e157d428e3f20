import Inlay.Host.Document

namespace Inlay.Render

structure Options where
  trigger : Text
  gfm : Bool
  allowRawHtml : Bool
deriving DecidableEq

namespace Options

def default : Options := ⟨Host.defaultTrigger, true, false⟩

def reading (o : Options) : Markdown.Options := ⟨o.gfm, o.allowRawHtml, true⟩

end Options
end Inlay.Render
