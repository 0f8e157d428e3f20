import Inlay.Render.Layout
import Inlay.Render.Script

namespace Inlay.Render

structure Declaration where
  name : Text
  schema : Schema
  steps : Option (List Step)
  inside : List Declaration

def Script.ofSteps (name : Text) (schema : Schema) : Option (List Step) → Template
  | some steps => template schema steps
  | none => element name schema

namespace Layout

mutual

/-- With a component.  What cannot be registered is an error; what was registered before stays. -/
def declare (l : Layout) : Declaration → Layout × Except RegisterFault Unit
  | ⟨name, schema, steps, inside⟩ =>
    let t := Script.ofSteps name schema steps
    match l.register name t with
    | .error fault => (l, .error fault)
    | .ok _ =>
      let (own, result) := declareAll (.empty name) inside
      (l.put ⟨name, t, own⟩, result)

def declareAll (l : Layout) : List Declaration → Layout × Except RegisterFault Unit
  | [] => (l, .ok ())
  | d :: r =>
    match l.declare d with
    | (l, .ok ()) => declareAll l r
    | failed => failed

end

def ofDeclarations (name : Text) (components : List Declaration) : Except RegisterFault Layout :=
  let (l, result) := (Layout.empty name).declareAll components
  result.map fun _ => l

end Layout
end Inlay.Render
