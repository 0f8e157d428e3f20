import Inlay.Render.Error

/-!
# Sinks

Where output goes.  A sink holds the bytes written to it and may have room for so many more only; a
write that does not fit fills it up and fails.  An action that writes keeps what it wrote before it
failed.

Rendering may ask for itself again and again, so an action of this kind has an outcome or none at
all.
-/

namespace Inlay.Render

structure Sink where
  written : Array UInt8
  room : Option Nat

def Sink.empty (room : Option Nat) : Sink := ⟨#[], room⟩

theorem written_nil (held : Array UInt8) : held ++ ([] : List UInt8) = held := Array.ext' (by simp)

theorem written_append (held : Array UInt8) (first later : List UInt8) :
    held ++ first ++ later = held ++ (first ++ later) := Array.ext' (by simp)

abbrev Emit := ExceptT Error (StateM Sink)

namespace Emit

def write (bytes : List UInt8) : Emit Unit := fun s =>
  match s.room with
  | none => (.ok (), { s with written := s.written ++ bytes })
  | some n =>
    if bytes.length ≤ n then (.ok (), ⟨s.written ++ bytes, some (n - bytes.length)⟩)
    else (.error (.output .full), ⟨s.written ++ bytes.take n, some 0⟩)

def text (s : Text) : Emit Unit := write s.utf8

def string (s : String) : Emit Unit := text s.toList

def run (action : Emit α) (room : Option Nat) : Except Error α × List UInt8 :=
  let (result, s) := action (.empty room)
  (result, s.written.toList)

theorem bind_apply (action : Emit α) (next : α → Emit β) (sink : Sink) :
    (action >>= next) sink =
      match action sink with
      | (.ok a, sink) => next a sink
      | (.error e, sink) => (.error e, sink) := by
  show (action sink >>= fun (result, sink) => ExceptT.bindCont next result sink : Id _) = _
  cases action sink with
  | mk result sink => cases result <;> rfl

end Emit

/-- An action that may also go on without end; then there is no outcome. -/
abbrev Rendering := ExceptT Error (StateT Sink Option)

instance : MonadLift Emit Rendering := ⟨fun action s => some (action s)⟩

namespace Rendering

def capture (action : Rendering Unit) : Rendering (List UInt8) := fun s =>
  (action (.empty none)).map fun
    | (.ok (), inner) => (.ok inner.written.toList, s)
    | (.error e, _) => (.error e, s)

/-- How an action ends; the error is told, and nothing of what was written is taken back. -/
def attempt (action : Rendering Unit) : Rendering (Option Error) := fun s =>
  (action s).map fun
    | (.ok (), s) => (.ok none, s)
    | (.error e, s) => (.ok (some e), s)

def collect (action : Rendering Unit) : Rendering (Option Error × List UInt8) := fun s =>
  (action (.empty none)).map fun
    | (.ok (), inner) => (.ok (none, inner.written.toList), s)
    | (.error e, inner) => (.ok (some e, inner.written.toList), s)

def inside (component : Text) (action : Rendering α) : Rendering α := fun s =>
  (action s).map fun
    | (.error e, s) => (.error (.inside component e), s)
    | done => done

def run (action : Rendering α) (room : Option Nat) : Option (Except Error α × List UInt8) :=
  (action (.empty room)).map fun (result, s) => (result, s.written.toList)

def runText (action : Rendering Unit) : Option (Except Error Text) :=
  (action.run none).map fun
    | (.ok (), bytes) => match Text.decode bytes with
      | .ok s => .ok s
      | .error fault => .error (.output (.notText fault))
    | (.error e, _) => .error e

theorem bind_apply (action : Rendering α) (next : α → Rendering β) (s : Sink) :
    (action >>= next) s =
      match action s with
      | some (.ok a, s) => next a s
      | some (.error e, s) => some (.error e, s)
      | none => none := by
  show (action s).bind (fun outcome => ExceptT.bindCont next outcome.1 outcome.2) = _
  rcases action s with _ | ⟨_ | _, _⟩ <;> rfl

theorem bind_eq_some {action : Rendering α} {next : α → Rendering β} {s : Sink}
    {outcome : Except Error β × Sink} : (action >>= next) s = some outcome ↔
      (∃ a s', action s = some (.ok a, s') ∧ next a s' = some outcome) ∨
      ∃ e s', action s = some (.error e, s') ∧ (.error e, s') = outcome := by
  rw [bind_apply]
  rcases action s with _ | ⟨_ | _, _⟩ <;> simp [and_assoc]

theorem attempt_bind {action : Rendering Unit} {next : Option Error → Rendering β}
    (stops : ∀ e, next (some e) = throw e) :
    (attempt action >>= next) = action >>= fun _ => next none := by
  funext s
  rw [bind_apply, bind_apply, attempt]
  rcases action s with _ | ⟨e | _, s'⟩
  · rfl
  · exact congrFun (stops e) s'
  · rfl

end Rendering
end Inlay.Render
