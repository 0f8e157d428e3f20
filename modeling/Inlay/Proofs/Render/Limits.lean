import Inlay.Proofs.Render.Slots

namespace Inlay.Render

/-- Whether a routine ends at once with an error of writing or of rendering a part.  What is made of
a part that is rendered for the routine alone does not matter. -/
inductive Routine.Prompt : Routine → Prop
  | done (result : Except Error Unit) : Prompt (.done result)
  | write {bytes : List UInt8} {next : Option Error → Routine} :
      (∀ e, next (some e) = .done (.error e)) → Prompt (next none) → Prompt (.write bytes next)
  | render {part : Part} {setting : Setting} {next : Option Error → Routine} :
      (∀ e, next (some e) = .done (.error e)) → Prompt (next none) →
      Prompt (.render part setting next)
  | collect {part : Part} {setting : Setting} {next : Option Error → List UInt8 → Routine} :
      (∀ failure bytes, Prompt (next failure bytes)) → Prompt (.collect part setting next)

namespace Rendering

/-- Whether an action, on a sink that holds some bytes already, ends with a result and writes so
many bytes more; and writes as much of them as there is room for, if there is not room for all. -/
structure Streams (action : Rendering α) (held : Array UInt8) (result : Except Error α)
    (output : List UInt8) : Prop where
  whole : action ⟨held, none⟩ = some (result, ⟨held ++ output, none⟩)
  fits : ∀ n, output.length ≤ n →
    action ⟨held, some n⟩ = some (result, ⟨held ++ output, some (n - output.length)⟩)
  cut : ∀ n, n < output.length → ∃ error, error.cause = .output .full ∧
    action ⟨held, some n⟩ = some (.error error, ⟨held ++ output.take n, some 0⟩)

/-- Whether every outcome of one action, on a sink without a limit, is one that another action also
has, and trims to the room there is. -/
def Trims (a b : Rendering α) : Prop :=
  ∀ held result s, a ⟨held, none⟩ = some (result, s) →
    ∃ output : List UInt8, s = ⟨held ++ output, none⟩ ∧ b.Streams held result output

namespace Streams

variable {held : Array UInt8} {a : Rendering α}

theorem silent {result : Except Error α} (plain : ∀ s, a s = some (result, s)) :
    a.Streams held result [] where
  whole := by rw [plain, written_nil]
  fits n _ := by rw [plain, written_nil]; rfl
  cut n room := absurd room (Nat.not_lt_zero n)

theorem written (bytes : List UInt8) :
    Streams (liftM (Emit.write bytes) : Rendering Unit) held (.ok ()) bytes where
  whole := rfl
  fits _ room := congrArg some (if_pos room)
  cut _ room := ⟨.output .full, rfl, congrArg some (if_neg (Nat.not_le.2 room))⟩

theorem failed {next : α → Rendering β} {e : Error} {output : List UInt8}
    (first : a.Streams held (.error e) output) : (a >>= next).Streams held (.error e) output where
  whole := by rw [bind_apply, first.whole]
  fits n room := by rw [bind_apply, first.fits n room]
  cut n room := by
    obtain ⟨error, full, cut⟩ := first.cut n room
    exact ⟨error, full, by rw [bind_apply, cut]⟩

theorem bind {next : α → Rendering β} {answer : α} {result : Except Error β}
    {output later : List UInt8} (first : a.Streams held (.ok answer) output)
    (second : (next answer).Streams (held ++ output) result later) :
    (a >>= next).Streams held result (output ++ later) where
  whole := by
    rw [bind_apply, first.whole]
    simp only [second.whole, written_append]
  fits n room := by
    rw [List.length_append] at room
    have left : later.length ≤ n - output.length := by omega
    rw [bind_apply, first.fits n (by omega)]
    simp only [second.fits _ left, written_append, List.length_append, Nat.sub_sub]
  cut n room := by
    by_cases before : n < output.length
    · obtain ⟨error, full, cut⟩ := first.cut n before
      have start : (output ++ later).take n = output.take n :=
        List.take_append_of_le_length (Nat.le_of_lt before)
      exact ⟨error, full, by rw [bind_apply, cut, start]⟩
    · rw [List.length_append] at room
      have left : n - output.length < later.length := by omega
      obtain ⟨error, full, cut⟩ := second.cut _ left
      have start : (output ++ later).take n = output ++ later.take (n - output.length) := by
        rw [List.take_append, List.take_of_length_le (by omega)]
      refine ⟨error, full, ?_⟩
      rw [bind_apply, first.fits n (by omega)]
      simp only [cut, start, written_append]

theorem inside {result : Except Error α} {output : List UInt8} (component : Text)
    (streams : a.Streams held result output) :
    (inside component a).Streams held (result.mapError (.inside component)) output where
  whole := by rw [Rendering.inside, streams.whole]; cases result <;> rfl
  fits n room := by rw [Rendering.inside, streams.fits n room]; cases result <;> rfl
  cut n room := by
    obtain ⟨error, full, cut⟩ := streams.cut n room
    exact ⟨.inside component error, full, by rw [Rendering.inside, cut]; rfl⟩

theorem run_none {result : Except Error α} {output : List UInt8}
    (streams : a.Streams #[] result output) : a.run none = some (result, output) := by
  rw [Rendering.run, Sink.empty, streams.whole]
  simp

theorem run_some {result : Except Error α} {output : List UInt8}
    (streams : a.Streams #[] result output) (n : Nat) :
    (output.length ≤ n → a.run (some n) = some (result, output)) ∧
    (n < output.length → ∃ error, error.cause = .output .full ∧
      a.run (some n) = some (.error error, output.take n)) := by
  constructor
  · intro room
    rw [Rendering.run, Sink.empty, streams.fits n room]
    simp
  · intro room
    obtain ⟨error, full, cut⟩ := streams.cut n room
    refine ⟨error, full, ?_⟩
    rw [Rendering.run, Sink.empty, cut]
    simp

end Streams

namespace Trims

variable {a b : Rendering α}

theorem of_streams {result : Except Error α} (plain : ∀ s, a s = some (result, s)) : Trims a a := by
  intro held result' s found
  rw [plain] at found
  cases found
  exact ⟨[], by rw [written_nil], .silent plain⟩

theorem write (bytes : List UInt8) :
    Trims (liftM (Emit.write bytes) : Rendering Unit) (liftM (Emit.write bytes)) := by
  intro held result s found
  cases found
  exact ⟨bytes, rfl, .written bytes⟩

theorem bind {next next' : α → Rendering β} (first : Trims a b)
    (rest : ∀ answer, Trims (next answer) (next' answer)) : Trims (a >>= next) (b >>= next') := by
  intro held result s found
  rcases bind_eq_some.1 found with ⟨answer, s', done, found⟩ | ⟨e, s', failed, same⟩
  · obtain ⟨output, rfl, streams⟩ := first held _ s' done
    obtain ⟨later, rfl, streams'⟩ := rest answer _ result s found
    exact ⟨output ++ later, by rw [written_append], streams.bind streams'⟩
  · obtain ⟨output, rfl, streams⟩ := first held _ s' failed
    cases same
    exact ⟨output, rfl, streams.failed⟩

theorem inside (component : Text) (trims : Trims a b) :
    Trims (inside component a) (inside component b) := by
  intro held result s found
  obtain ⟨⟨inner, s'⟩, done, same⟩ := Option.map_eq_some_iff.1 found
  obtain ⟨output, rfl, streams⟩ := trims held inner s' done
  refine ⟨output, ?_, ?_⟩
  · cases inner <;> cases same <;> rfl
  · have wrapped := streams.inside component
    cases inner <;> cases same <;> exact wrapped

theorem capture {a b : Rendering Unit} (trims : Trims a b) : Trims (capture a) (capture b) := by
  intro held result s found
  obtain ⟨⟨inner, s'⟩, done, same⟩ := Option.map_eq_some_iff.1 found
  obtain ⟨output, rfl, streams⟩ := trims #[] inner s' done
  -- what is captured is written to a sink of its own, which has no limit
  have plain (s : Sink) : Rendering.capture b s = some (result, s) := by
    have inside : b (.empty none) = some (inner, ⟨#[] ++ output, none⟩) := streams.whole
    rw [Rendering.capture, inside]
    cases inner <;> cases same <;> rfl
  refine ⟨[], ?_, .silent plain⟩
  rw [written_nil]
  cases inner <;> cases same <;> rfl

theorem collect {a b : Rendering Unit} (trims : Trims a b) : Trims (collect a) (collect b) := by
  intro held result s found
  obtain ⟨⟨inner, s'⟩, done, same⟩ := Option.map_eq_some_iff.1 found
  obtain ⟨output, rfl, streams⟩ := trims #[] inner s' done
  have plain (s : Sink) : Rendering.collect b s = some (result, s) := by
    have inside : b (.empty none) = some (inner, ⟨#[] ++ output, none⟩) := streams.whole
    rw [Rendering.collect, inside]
    cases inner <;> cases same <;> rfl
  refine ⟨[], ?_, .silent plain⟩
  rw [written_nil]
  cases inner <;> cases same <;> rfl

theorem congruence : Congruence fun _ => Trims where
  pure _ := of_streams fun _ => rfl
  throw _ := of_streams fun _ => rfl
  text s := write s.utf8
  bind := bind
  capture := capture
  inside := inside

theorem perform {below below' : Below} {props : Props Content} {ctx : Context} {r : Routine}
    (prompt : r.Prompt) (less : ∀ part setting, r.Asks part setting →
      (below (part.content props ctx) (setting.context props ctx)).Trims
        (below' (part.content props ctx) (setting.context props ctx))) :
    (perform below props ctx r).Trims (perform below' props ctx r) := by
  induction prompt with
  | done outcome =>
    cases outcome with
    | ok answer => exact congruence.pure ()
    | error e => exact congruence.throw e
  | write stops _ ih =>
    rw [perform_write stops, perform_write stops]
    exact bind (write _) fun _ => ih fun part setting asks => less part setting (.written none asks)
  | render stops _ ih =>
    rw [perform_render stops, perform_render stops]
    exact bind (less _ _ .render) fun _ =>
      ih fun part setting asks => less part setting (.rendered none asks)
  | collect _ ih =>
    exact bind (collect (less _ _ .collect)) fun (failure, bytes) => ih failure bytes
      fun part setting asks => less part setting (.collected failure bytes asks)

end Trims
end Rendering

namespace Web

open Inlay.Markdown (Node)

variable {web : Web} {ctx : Context}

theorem trims_render (html : ∀ home, ∃ escape raw, (web home).fallback = htmlFallback escape raw)
    (units : web.Keeps Routine.Prompt) {content : Content}
    (keeps : Piece.Keeps Routine.Prompt ⟨content, ctx⟩) :
    (web.render content ctx).Trims (web.render content ctx) := by
  intro held result s found
  -- an outcome comes from a level whose levels below have trimmed outcomes
  have level := web.render_induction fun content ctx s outcome => s.room = none →
    Piece.Keeps Routine.Prompt ⟨content, ctx⟩ →
      ∃ output : List UInt8, outcome.2 = ⟨s.written ++ output, none⟩ ∧
        (web.render content ctx).Streams s.written outcome.1 output
  refine level ?_ content ctx _ _ found rfl keeps
  rintro below known content ctx ⟨held, room⟩ ⟨result, s⟩ found rfl keeps
  have less (asked : Piece) (asks : web.Asks ⟨content, ctx⟩ asked) :
      (below asked.content asked.ctx).Trims (web.render asked.content asked.ctx) :=
    fun held result s found => known _ _ _ _ found rfl (asks.keeps units keeps)
  rw [render_eq]
  refine Asks.level Rendering.Trims.congruence ?_ ?_ less held result s found
  · intro home d source n entering
    obtain ⟨escape, raw, same⟩ := html home
    rw [same]
    exact Rendering.Trims.congruence.htmlFallback escape raw d source n entering
  · rintro t props rfl
    have prompt : (t.routine props ctx.view).Prompt := by
      obtain ⟨filled, -⟩ := keeps
      cases filled with | filled template _ => exact template.body props ctx.view
    exact Rendering.Trims.perform prompt fun part setting asks => less _ (.part asks)

theorem convert_bracketFrame (ctx : Context) :
    bracketWeb.convert 0 bracketFrame ctx = Rendering.inside ['B'] (do
      Emit.text ['[']
      outlet bracketWeb.render (bracketed ctx)
      Emit.text [']']) := by
  let place : Markup.Component := ⟨slotName, [], [], ⟨2, 5⟩⟩
  let around : Markup.Component := ⟨['B'], [], [.component place], ⟨1, 1⟩⟩
  let n : Node := .leaf (.code (some ['u']) "\\B\n    \\Slot".toList (.known 1 0))
  let d : Host.Document := ⟨.branch .root [n], ['u'], ⟨[(0, ⟨[.component around]⟩)], [], .empty⟩⟩
  have read : (bracketWeb 0).read bracketFrame = .ok d := by cbv
  have found : d.markup? n = some [.component around] := rfl
  rw [convert_of_read read, render_single rfl rfl found, render_bracket rfl, render_place]
  rfl

theorem prompt_bracket (props : Props Unit) (view : View) :
    (bracket.template.body props view).Prompt :=
  .write (fun _ => rfl) <| .render (fun _ => rfl) <| .write (fun _ => rfl) <| .done _

end Web
end Inlay.Render
