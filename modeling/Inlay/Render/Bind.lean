import Inlay.Render.Props

namespace Inlay.Render

/-- The value of a property as it is written.  A component comes with what became of it, which is
looked at only where a field takes it. -/
inductive Supplied (γ : Type)
  | string (text : Text)
  | flag
  | component (made : Except Error γ)

namespace Supplied

variable {γ : Type}

def word : Supplied γ → String
  | string _ => "string"
  | flag => "boolean"
  | component _ => "component"

def coerce (markdown : Text → γ) (f : Field) (s : Supplied γ) : Except Error (Value γ) :=
  match f.kind, s with
  | .string, string text => .ok (.string text)
  | .boolean, flag => .ok (.boolean true)
  | .integer, string text =>
    match Number.integer? text.trim with
    | some number => .ok (.integer number)
    | none => .error (.bind (.number f.name f.kind.word text))
  | .float, string text =>
    match Number.float? text.trim with
    | some number => .ok (.float number)
    | none => .error (.bind (.number f.name f.kind.word text))
  | .component, string text => .ok (.component (markdown text))
  | .component, component made => made.map .component
  | kind, s => .error (.bind (.mismatch f.name kind.word s.word))

def asAttribute (name : Text) (s : Supplied γ) : Except Error (Text × Text) :=
  match s with
  | string text => .ok (name, text)
  | flag => .ok (name, "true".toList)
  | component _ => .error (.bind (.unsupported name s.word))

end Supplied

abbrev Supplies (γ : Type) := List (Text × Supplied γ)

namespace Supplies

variable {γ : Type}

def for? (supplies : Supplies γ) (f : Field) : Option (Supplied γ) :=
  (supplies.findRev? fun p => f.takes p.1).map (·.2)

def untaken (supplies : Supplies γ) (schema : Schema) : Supplies γ :=
  supplies.filter fun p => !schema.takes p.1

def bindFields (markdown : Text → γ) (supplies : Supplies γ) (props : Props γ) :
    Schema → Except Error (Props γ)
  | [] => .ok props
  | f :: r => do
    match supplies.for? f with
    | none => supplies.bindFields markdown props r
    | some s =>
      let v ← s.coerce markdown f
      supplies.bindFields markdown (props.put f.name v) r

def bind (markdown : Text → γ) (schema : Schema) (supplies : Supplies γ) :
    Except Error (Props γ) := do
  let props ← supplies.bindFields markdown [] schema
  let rest := supplies.untaken schema
  match schema.bag? with
  | some bag =>
    let pairs ← rest.mapM fun p => p.2.asAttribute p.1
    return props.put bag.name (.attributes pairs)
  | none =>
    if rest.isEmpty then return props
    else .error (.bind (.unknown (rest.map (·.1))))

end Supplies
end Inlay.Render
