import Inlay.Render.Template

namespace Inlay.Render

mutual

structure Layout where
  name : Text
  entries : List (Text × Entry)

structure Entry where
  name : Text
  template : Template
  inside : Layout

end

namespace Layout

def empty (name : Text) : Layout := ⟨name, []⟩

instance : Inhabited Layout := ⟨empty []⟩

def put (l : Layout) (e : Entry) : Layout := ⟨l.name, Keyed.put e.name.lower e l.entries⟩

def lookup? (l : Layout) (name : Text) : Option Entry := Keyed.get? name.lower l.entries

def get? (l : Layout) (name : Text) : Option Template := (l.lookup? name).map (·.template)

def contains (l : Layout) (name : Text) : Bool := (l.lookup? name).isSome

def space (l : Layout) (name : Text) : Except LookupFault Layout :=
  match l.lookup? name with
  | some e => .ok e.inside
  | none => .error (.noNamespace name l.name)

def list (l : Layout) : List Text := l.entries.map (·.2.name)

def size (l : Layout) : Nat := l.entries.length

def register (l : Layout) (name : Text) (t : Template) : Except RegisterFault Layout := do
  if name.trim.isEmpty then .error .emptyName
  t.schema.validate name
  return l.put ⟨name, t, .empty name⟩

def spaceAt (l : Layout) : List Text → Except LookupFault Layout
  | [] => .ok l
  | name :: path => do (← l.space name).spaceAt path

/-- A change to the layout inside some components, and what it answers; nothing if one of them does
not exist. -/
def edit (change : Layout → Layout × α) (l : Layout) : List Text → Option (Layout × α)
  | [] => some (change l)
  | name :: path => do
    let e ← l.lookup? name
    let (inside, a) ← edit change e.inside path
    let entries := Keyed.put name.lower { e with inside := inside } l.entries
    return (⟨l.name, entries⟩, a)

def shown (l : Layout) : Text :=
  Shown.record "Layout"
    [("name", l.name.quoted), ("components", '[' :: commas (l.list.map Text.quoted) ++ [']'])]

end Layout
end Inlay.Render
