import Inlay.Host.Document
import Inlay.Render.Page
import Inlay.Render.Props
import Inlay.Text.Utf8

namespace Inlay.Render

inductive Change (α : Type)
  | keep
  | put (a : α)
  | drop

def Change.map (f : α → β) : Change α → Change β
  | keep => keep
  | put a => put (f a)
  | drop => drop

mutual

/-- A template sees the values of its fields, but of content only that it is there. -/
structure Template where
  schema : Schema
  body : Props Unit → View → Routine

/-- What a template does, step by step.  It is told how each step has ended, and goes on from there
as it likes, after an error as well. -/
inductive Routine
  | done (result : Except Error Unit)
  | write (bytes : List UInt8) (next : Option Error → Routine)
  | render (part : Part) (setting : Setting) (next : Option Error → Routine)
  | collect (part : Part) (setting : Setting) (next : Option Error → List UInt8 → Routine)

inductive Part
  | children
  | slot
  /-- What is in the slot, with nothing in the slot of its own. -/
  | outlet
  | field (name : Text)
  | html (text : Text)
  | filled (t : Template) (props : List (Text × Value Part))
  | document (home : Nat) (d : Host.Document) (source : Text)

structure Setting where
  children : Change Part
  slot : Change Part
  page : Change Page

end

@[induction_eliminator]
theorem Routine.induction {p : Routine → Prop} (done : ∀ result, p (.done result))
    (write : ∀ bytes next, (∀ failure, p (next failure)) → p (.write bytes next))
    (render : ∀ part setting next, (∀ failure, p (next failure)) → p (.render part setting next))
    (collect : ∀ part setting next, (∀ failure bytes, p (next failure bytes)) →
      p (.collect part setting next)) : ∀ r, p r
  | .done result => done result
  | .write bytes next => write bytes next fun failure =>
    Routine.induction done write render collect (next failure)
  | .render part setting next => render part setting next fun failure =>
    Routine.induction done write render collect (next failure)
  | .collect part setting next => collect part setting next fun failure bytes =>
    Routine.induction done write render collect (next failure bytes)
termination_by structural r => r

def Setting.same : Setting := ⟨.keep, .keep, .keep⟩

def Template.routine (t : Template) (props : Props γ) (view : View) : Routine :=
  t.body (props.map fun _ => ()) view

namespace Routine

def ended : Routine := .done (.ok ())

def onward (next : Routine) : Option Error → Routine
  | none => next
  | some e => .done (.error e)

/-- Whether a part may come to be rendered, whatever comes of the other steps. -/
inductive Asks : Routine → Part → Setting → Prop
  | render {part : Part} {setting : Setting} {next : Option Error → Routine} :
      Asks (.render part setting next) part setting
  | collect {part : Part} {setting : Setting} {next : Option Error → List UInt8 → Routine} :
      Asks (.collect part setting next) part setting
  | written {bytes : List UInt8} {next : Option Error → Routine} {part : Part} {setting : Setting}
      (failure : Option Error) : Asks (next failure) part setting →
      Asks (.write bytes next) part setting
  | rendered {first : Part} {around : Setting} {next : Option Error → Routine} {part : Part}
      {setting : Setting} (failure : Option Error) : Asks (next failure) part setting →
      Asks (.render first around next) part setting
  | collected {first : Part} {around : Setting} {next : Option Error → List UInt8 → Routine}
      {part : Part} {setting : Setting} (failure : Option Error) (bytes : List UInt8) :
      Asks (next failure bytes) part setting → Asks (.collect first around next) part setting

def text (s : Text) (next : Routine) : Routine := .write s.utf8 (onward next)

def part (part : Part) (next : Routine) : Routine := .render part .same (onward next)

end Routine

end Inlay.Render
