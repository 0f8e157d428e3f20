import Inlay.Render.Layout

namespace Inlay.Render

abbrev Catalog := Keyed Layout

namespace Catalog

def register (c : Catalog) (l : Layout) : Catalog := Keyed.put l.name.lower l c

def use? (c : Catalog) (name : Text) : Option Layout := Keyed.get? name.lower c

def layout (c : Catalog) (name : Text) : Except LookupFault Layout :=
  match c.use? name with
  | some l => .ok l
  | none => .error (.noLayout name)

def names (c : Catalog) : List Text := List.map (·.2.name) c

def replace (c : Catalog) (name : Text) (l : Layout) : Catalog := Keyed.put name.lower l c

end Catalog
end Inlay.Render
