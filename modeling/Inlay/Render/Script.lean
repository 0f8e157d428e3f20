import Inlay.Render.Template

namespace Inlay.Render

inductive PageItem
  | url
  | locale
  | metadata (key : Text)
deriving DecidableEq

inductive Step
  | text (s : Text)
  | bytes (s : List UInt8)
  | children (slot : Change Text)
  | slot
  | value (field default : Text)
  | page (item : PageItem)
  | view
  | fail (words : Text)

namespace Script

def hexDigits (n : Nat) : Nat → Text
  | 0 => []
  | count + 1 => hexDigits (n / 16) count ++ [Nat.digitChar (n % 16)]

def floatText (x : Float) : Text :=
  let bits := x.toBits.toNat
  if Number.infinityBits < bits % Nat.pow 2 63 then "nan".toList else hexDigits bits 16

def value (field : Text) (v : Value γ) (next : Routine) : Routine :=
  match v with
  | .string text => .text text next
  | .boolean set => .text (toString set).toList next
  | .integer number => .text (toString number).toList next
  | .float number => .text (floatText number) next
  | .component _ => .part (.field field) next
  | .attributes pairs =>
    .text (pairs.flatMap fun (name, value) => ' ' :: name ++ ['=', '"'] ++ value ++ ['"']) next

def PageItem.text (p : Page) : PageItem → Text
  | .url => p.url
  | .locale => p.locale.getD ['-']
  | .metadata key => (Keyed.get? key p.metadata).getD ['-']

def step (props : Props Unit) (view : View) (s : Step) (next : Routine) : Routine :=
  match s with
  | .text s => .text s next
  | .bytes s => .write s (Routine.onward next)
  | .children change => .render .children ⟨.keep, change.map .html, .keep⟩ (Routine.onward next)
  | .slot => .part .outlet next
  | .value field default =>
    match props.get? field with
    | some v => value field v next
    | none => .text default next
  | .page item =>
    match view.page with
    | some p => .text (PageItem.text p item) next
    | none => .text ['?'] next
  | .view => .text view.shown next
  | .fail words => .done (.error (.message words))

def field (props : Props Unit) (f : Field) (next : Routine) : Routine :=
  match props.get? f.name with
  | some v => .text (' ' :: f.name ++ ['=', '[']) (value f.name v (.text [']'] next))
  | none => next

def element (name : Text) (schema : Schema) : Template :=
  ⟨schema, fun props _ =>
    .text ('<' :: name) <| schema.foldr (field props) <| .text ['>'] <| .part .children <|
      .text ('<' :: '/' :: name ++ ['>']) .ended⟩

def template (schema : Schema) (steps : List Step) : Template :=
  ⟨schema, fun props view => steps.foldr (step props view) .ended⟩

end Script
end Inlay.Render
