import Inlay.Text.Keyed
import Inlay.Text.Quoted

namespace Inlay.Render

structure Page where
  url : Text
  locale : Option Text
  metadata : Keyed Text

namespace Page

def ofUrl (url : Text) : Page := ⟨url, none, []⟩

def empty : Page := ofUrl []

end Page

/-- What a template can see: whether there are children and content for the slot, and the page. -/
structure View where
  hasChildren : Bool
  hasSlot : Bool
  page : Option Page

namespace Shown

def option (shown : α → Text) : Option α → Text
  | none => "None".toList
  | some a => "Some(".toList ++ shown a ++ [')']

def record (name : String) (fields : List (String × Text)) : Text :=
  let shown := fields.map fun field => field.1.toList ++ [':', ' '] ++ field.2
  name.toList ++ [' ', '\x7b', ' '] ++ [',', ' '].intercalate shown ++ [' ', '\x7d']

def table (t : Keyed Text) : Text :=
  let shown := t.map fun entry => entry.1.quoted ++ [':', ' '] ++ entry.2.quoted
  '\x7b' :: [',', ' '].intercalate shown ++ ['\x7d']

end Shown

def Page.shown (p : Page) : Text :=
  Shown.record "PageContext"
    [("url", p.url.quoted), ("locale", Shown.option Text.quoted p.locale),
      ("meta", Shown.table p.metadata)]

def View.shown (v : View) : Text :=
  Shown.record "RenderContext"
    [("children", (toString v.hasChildren).toList), ("slot", (toString v.hasSlot).toList),
      ("page", Shown.option Page.shown v.page)]

end Inlay.Render
