import Inlay.Markup.Location

namespace Inlay.Markup

mutual

structure Component where
  name : Text
  properties : List Property
  children : List Node
  location : Location

structure Property where
  name : Text
  value : Value

inductive Value
  | string (text : Text)
  | flag
  | component (inner : Component)

inductive Node
  | text (value : Text)
  | component (inner : Component)

end

def Node.text? : Node → Option Text
  | .text value => some value
  | .component _ => none

def Node.component? : Node → Option Component
  | .text _ => none
  | .component inner => some inner

def Value.kind : Value → String
  | .string _ => "string"
  | .flag => "boolean"
  | .component _ => "component"

def Value.string? : Value → Option Text
  | .string text => some text
  | _ => none

def Value.component? : Value → Option Component
  | .component inner => some inner
  | _ => none

/-- The value of the first property of a name, in either case of its ASCII letters. -/
def Component.property? (c : Component) (name : Text) : Option Value :=
  (c.properties.find? fun p => Text.sameAscii p.name name).map (·.value)

structure Document where
  nodes : List Node

end Inlay.Markup
