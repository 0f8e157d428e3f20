import Inlay.Render.Error
import Inlay.Text.Blank
import Inlay.Text.Lowercase

namespace Inlay.Render

inductive Kind
  | string
  | boolean
  | integer
  | float
  | component
  | attributes
deriving DecidableEq

def Kind.word : Kind → String
  | string => "string"
  | boolean => "boolean"
  | integer => "integer"
  | float => "float"
  | component => "component"
  | attributes => "attributes"

structure Field where
  name : Text
  kind : Kind
deriving DecidableEq

def Field.isBag (f : Field) : Bool := f.kind == .attributes

def Field.takes (f : Field) (name : Text) : Bool := !f.isBag && Text.sameAscii f.name name

abbrev Schema := List Field

namespace Schema

def bag? (schema : Schema) : Option Field := schema.find? Field.isBag

def takes (schema : Schema) (name : Text) : Bool := schema.any (·.takes name)

def checkNames (component : Text) (seen : List Text) : Schema → Except RegisterFault Unit
  | [] => .ok ()
  | f :: r =>
    if f.name.trim.isEmpty then .error (.emptyField component)
    else if seen.contains f.name.lower then .error (.duplicateField component f.name)
    else checkNames component (f.name.lower :: seen) r

/-- Whether a component may have these fields: names that are neither blank nor the same in lower
case, and one bag at most. -/
def validate (schema : Schema) (component : Text) : Except RegisterFault Unit := do
  checkNames component [] schema
  if 1 < (schema.filter Field.isBag).length then .error (.manyBags component)

end Schema
end Inlay.Render
