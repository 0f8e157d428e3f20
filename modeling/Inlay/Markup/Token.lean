import Inlay.Markup.Location

namespace Inlay.Markup

inductive Token.Kind
  | endOfInput
  | lineBreak
  | indent
  | component
  | property
  | text
  | number
  | flag
  | colon
  | quote
deriving DecidableEq

def Token.Kind.word : Token.Kind → String
  | .endOfInput => "end of input"
  | .lineBreak => "line break"
  | .indent => "indent"
  | .component => "component"
  | .property => "property"
  | .text => "text"
  | .number => "number"
  | .flag => "flag"
  | .colon => "colon"
  | .quote => "quote"

def Token.Kind.opensLine : Token.Kind → Bool
  | .lineBreak | .indent => true
  | _ => false

structure Token where
  kind : Token.Kind
  value : Text
  location : Location
deriving DecidableEq

end Inlay.Markup
