import Inlay.Markup.Token
import Inlay.Text.Quoted

namespace Inlay.Markup

inductive StringFault
  | notOpened (value : Text)
  | noContents (found : Token.Kind)
  | notClosed (found : Token.Kind)
  | stated (words : Text)
deriving DecidableEq

def StringFault.message : StringFault → String
  | .notOpened value => s!"expected opening quote got {String.ofList value.quoted}"
  | .noContents found => s!"expected string contents got {found.word}"
  | .notClosed found => s!"expected closing quote got {found.word}"
  | .stated words => String.ofList words

inductive Error.Cause
  | malformedIndent
  | unexpectedToken (found : Token.Kind) (value : Text)
  | expectedColon (value : Text)
  | malformedString (fault : StringFault)
  | expectedValue (value : Text)
  | tooManyComponents (count : Nat)
  | mixedValue
  | document (words : Text)
deriving DecidableEq

structure Error where
  cause : Error.Cause
  location : Location
deriving DecidableEq

namespace Error

def isLexical (e : Error) : Bool := e.cause == .malformedIndent

def down (e : Error) (lines : Nat) : Error := { e with location := e.location.down lines }

def message (e : Error) : String :=
  let place := e.location.written
  match e.cause with
  | .malformedIndent => s!"malformed indentation at {place}: expected a tab or four spaces"
  | .unexpectedToken found value =>
    s!"unexpected {found.word} {String.ofList value.quoted} at {place}"
  | .expectedColon value =>
    s!"{place} expected colon after property name got {String.ofList value.quoted}"
  | .malformedString fault => s!"malformed string at {place}: {fault.message}"
  | .expectedValue value =>
    s!"{place} expected quote, number or newline got {String.ofList value.quoted}"
  | .tooManyComponents count =>
    s!"{place} a property value can only contain one component got {count}"
  | .mixedValue => s!"{place} a property value cannot mix a component with text"
  | .document words => s!"markdown error at {place}: {String.ofList words}"

end Error
end Inlay.Markup
