import Inlay.Render.Bind
import Inlay.Render.Content

namespace Inlay.Render

def slotName : Text := "Slot".toList

def Scope.resolve (top : Layout) (scope : Scope) (name : Text) : Except LookupFault Entry :=
  match scope with
  | .top =>
    match top.lookup? name with
    | some e => .ok e
    | none => .error (.noComponent name)
  | .inside l =>
    match l.lookup? name with
    | some e => .ok e
    | none =>
      match top.lookup? name with
      | some e => .ok e
      | none => .error (.notInNamespace name l.name)

section

variable (home : Nat) (top : Layout)

mutual

/-- A component with its properties bound, and with the components among them made instances.  What
is below it stays markup. -/
def instantiate (scope : Scope) : Markup.Component → Except Error Content
  | ⟨name, properties, below, _⟩ =>
    if name = slotName then .ok .outlet
    else match scope.resolve top name with
      | .error fault => .error (.lookup fault)
      | .ok e =>
        let supplies := supplyAll (.inside e.inside) properties
        match supplies.bind (.markdown home) e.template.schema with
        | .error error => .error (.inside name error)
        | .ok props => .ok (.component home name e.template props below e.inside)

def supplyAll (scope : Scope) : List Markup.Property → Supplies Content
  | [] => []
  | ⟨name, value⟩ :: r => (name, supply scope value) :: supplyAll scope r

def supply (scope : Scope) : Markup.Value → Supplied Content
  | .string text => .string text
  | .flag => .flag
  | .component inner => .component (instantiate scope inner)

end

end

end Inlay.Render
