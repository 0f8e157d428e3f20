import Inlay.Markup.Error
import Inlay.Text.Utf8

namespace Inlay.Render

inductive BindFault
  | unknown (names : List Text)
  | mismatch (name : Text) (expected found : String)
  | number (name : Text) (expected : String) (value : Text)
  | unsupported (name : Text) (found : String)
deriving DecidableEq

inductive LookupFault
  | noComponent (name : Text)
  | notInNamespace (name space : Text)
  | noNamespace (name layout : Text)
  | noLayout (name : Text)
  | noSlot
deriving DecidableEq

inductive RegisterFault
  | emptyName
  | emptyField (component : Text)
  | duplicateField (component field : Text)
  | manyBags (component : Text)
deriving DecidableEq

inductive OutputFault
  | full
  | notText (fault : Text.Utf8Fault)
  | stated (words : Text)
deriving DecidableEq

inductive Error
  | markup (error : Markup.Error)
  | bind (fault : BindFault)
  | lookup (fault : LookupFault)
  | register (fault : RegisterFault)
  | inside (component : Text) (error : Error)
  | message (words : Text)
  | output (fault : OutputFault)
deriving DecidableEq

def commas (names : List Text) : Text := [',', ' '].intercalate names

def BindFault.message : BindFault → String
  | unknown names => s!"unknown properties: {String.ofList (commas names)}"
  | mismatch name expected found =>
    s!"property {String.ofList name} expects {expected} got {found}"
  | number name expected value =>
    s!"property {String.ofList name} expects {expected} got {String.ofList value.quoted}"
  | unsupported name found =>
    s!"property {String.ofList name} cannot pass a {found} through the attribute bag"

def LookupFault.message : LookupFault → String
  | noComponent name => s!"component {String.ofList name} not found"
  | notInNamespace name space =>
    s!"component {String.ofList name} not found in namespace {String.ofList space}"
  | noNamespace name layout =>
    s!"namespace {String.ofList name} not found in layout {String.ofList layout}"
  | noLayout name => s!"layout {String.ofList name} not found"
  | noSlot => "slot not found in render context"

def RegisterFault.message : RegisterFault → String
  | emptyName => "component name cannot be empty"
  | emptyField component =>
    s!"component {String.ofList component} declares a field with an empty name"
  | duplicateField component field =>
    s!"component {String.ofList component} declares field {String.ofList field} more than once"
  | manyBags component =>
    s!"component {String.ofList component} declares more than one attribute bag"

def OutputFault.message : OutputFault → String
  | full => "sink full"
  | notText fault => fault.message
  | stated words => String.ofList words

namespace Error

def wording : Error → String
  | markup error => error.message
  | bind fault => fault.message
  | lookup fault => fault.message
  | register fault => fault.message
  | inside component error => s!"component {String.ofList component}: {error.wording}"
  | message words => String.ofList words
  | output fault => s!"io error: {fault.message}"

def cause : Error → Error
  | inside _ error => error.cause
  | error => error

def path : Error → List Text
  | inside component error => component :: error.path
  | _ => []

def within (error : Error) (path : List Text) : Error := path.foldr inside error

end Error
end Inlay.Render
