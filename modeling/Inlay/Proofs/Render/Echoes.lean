import Inlay.Proofs.Render.Writes
import Inlay.Proofs.Text.Utf8
import Inlay.Render.Approximation

namespace Inlay.Render
open Text (utf8_append)

theorem write_append (a b : List UInt8) :
    Emit.write (a ++ b) = (do Emit.write a; Emit.write b) := by
  funext s
  obtain ⟨held, room⟩ := s
  rw [Emit.bind_apply]
  cases room with
  | none => simp only [Emit.write, written_append]
  | some n =>
    simp only [Emit.write, List.length_append]
    by_cases first : a.length ≤ n
    · rw [if_pos first]
      simp only [written_append]
      by_cases whole : a.length + b.length ≤ n
      · rw [if_pos whole, if_pos (by omega), Nat.sub_sub]
      · rw [if_neg whole, if_neg (by omega), List.take_append, List.take_of_length_le first]
    · have start : (a ++ b).take n = a.take n := List.take_append_of_le_length (by omega)
      rw [if_neg first, if_neg (by omega), start]

theorem text_append (s t : Text) : Emit.text (s ++ t) = (do Emit.text s; Emit.text t) := by
  rw [Emit.text, utf8_append, write_append]
  rfl

namespace Rendering

/-- Whether an action that ends with a result is repeated by another one, wherever that begins: if
it is done, with the same answer and the same text, and if it has failed, with the same error. -/
inductive Repeats (b : Rendering α) (held : Array UInt8) : Except Error α → Sink → Prop
  | done {x : α} (t : Text) :
      (∀ held' : Array UInt8, b ⟨held', none⟩ = some (.ok x, ⟨held' ++ t.utf8, none⟩)) →
      Repeats b held (.ok x) ⟨held ++ t.utf8, none⟩
  | failed {e : Error} {out : Array UInt8} :
      (∀ held', ∃ out', b ⟨held', none⟩ = some (.error e, ⟨out', none⟩)) →
      Repeats b held (.error e) ⟨out, none⟩

theorem Repeats.silent {b : Rendering α} {held : Array UInt8} {x : α}
    (again : ∀ held', b ⟨held', none⟩ = some (.ok x, ⟨held', none⟩)) :
    Repeats b held (.ok x) ⟨held, none⟩ := by
  have nothing (held : Array UInt8) : held ++ Text.utf8 [] = held := written_nil held
  have repeats : Repeats b held (.ok x) ⟨held ++ Text.utf8 [], none⟩ :=
    .done [] fun held' => by rw [nothing, again]
  rwa [nothing] at repeats

theorem Repeats.congr {b b' : Rendering α} {held : Array UInt8} {result : Except Error α} {s : Sink}
    (same : ∀ held', b ⟨held', none⟩ = b' ⟨held', none⟩) (repeats : Repeats b' held result s) :
    Repeats b held result s := by
  cases repeats with
  | done t again => exact .done t fun held' => (same held').trans (again held')
  | failed fails =>
    refine .failed fun held' => ?_
    obtain ⟨out, fails⟩ := fails held'
    exact ⟨out, (same held').trans fails⟩

theorem Repeats.after {b : Rendering α} {next : α → Rendering β} {held : Array UInt8} {x : α}
    {t : Text} {result : Except Error β} {s : Sink}
    (again : ∀ held' : Array UInt8, b ⟨held', none⟩ = some (.ok x, ⟨held' ++ t.utf8, none⟩))
    (later : Repeats (next x) (held ++ t.utf8) result s) : Repeats (b >>= next) held result s := by
  have same (held' : Array UInt8) :
      (b >>= next) ⟨held', none⟩ = next x ⟨held' ++ t.utf8, none⟩ := by rw [bind_apply, again]
  cases later with
  | done u again' =>
    rw [written_append, ← utf8_append]
    exact .done (t ++ u) fun held' => by rw [same, again', written_append, utf8_append]
  | failed fails =>
    refine .failed fun held' => ?_
    obtain ⟨out, fails⟩ := fails (held' ++ t.utf8)
    exact ⟨out, (same held').trans fails⟩

def Echoes (a b : Rendering α) : Prop :=
  ∀ held result s, a ⟨held, none⟩ = some (result, s) → Repeats b held result s

/-- Whether two actions end with the same result, and have written the same if that is no error. -/
def Agree (a b : Rendering Unit) : Prop :=
  (a.run none).map (·.1) = (b.run none).map (·.1) ∧
    ∀ output, a.run none = some (.ok (), output) ↔ b.run none = some (.ok (), output)

namespace Echoes

variable {a a' : Rendering α}

theorem of_approximates {b : Rendering α} (less : Approximates a a') (echoes : Echoes a' b) :
    Echoes a b :=
  fun held _ _ found => echoes held _ _ (less _ _ found)

theorem pure (x : α) : Echoes (Pure.pure x) (Pure.pure x) := by
  intro held result s found
  cases found
  exact .silent fun held' => rfl

theorem throw (e : Error) : Echoes (MonadExcept.throw e : Rendering α) (MonadExcept.throw e) := by
  intro held result s found
  cases found
  exact .failed fun held' => ⟨_, rfl⟩

theorem text (s : Text) :
    Echoes (liftM (Emit.text s) : Rendering Unit) (liftM (Emit.text s)) := by
  intro held result s' found
  cases found
  exact .done s fun held' => rfl

theorem bind {next next' : α → Rendering β} (first : Echoes a a')
    (rest : ∀ answer, Echoes (next answer) (next' answer)) :
    Echoes (a >>= next) (a' >>= next') := by
  intro held result s found
  rcases bind_eq_some.1 found with ⟨answer, s', done, found⟩ | ⟨e, s', failed, same⟩
  · cases first held _ s' done with
    | done t again => exact .after again (rest answer _ result s found)
  · cases same
    cases first held _ _ failed with
    | failed fails =>
      refine .failed fun held' => ?_
      obtain ⟨out, fails⟩ := fails held'
      exact ⟨out, by rw [bind_apply, fails]⟩

theorem inside (component : Text) (echoes : Echoes a a') :
    Echoes (inside component a) (inside component a') := by
  intro held result s found
  obtain ⟨⟨inner, s'⟩, done, same⟩ := Option.map_eq_some_iff.1 found
  cases echoes held inner s' done with
  | failed fails =>
    cases same
    refine .failed fun held' => ?_
    obtain ⟨s', fails⟩ := fails held'
    exact ⟨s', by rw [Rendering.inside, fails]; rfl⟩
  | done t again =>
    cases same
    exact .done t fun held' => by rw [Rendering.inside, again]; rfl

theorem capture {a a' : Rendering Unit} (echoes : Echoes a a') :
    Echoes (capture a) (capture a') := by
  intro held result s found
  obtain ⟨⟨inner, s'⟩, done, same⟩ := Option.map_eq_some_iff.1 found
  cases echoes #[] inner s' done with
  | @failed e _ fails =>
    cases same
    refine .failed fun held' => ?_
    obtain ⟨out, fails⟩ := fails #[]
    have inside : a' (.empty none) = some (.error e, ⟨out, none⟩) := fails
    exact ⟨_, by rw [Rendering.capture, inside]; rfl⟩
  | done t again =>
    cases same
    have inside : a' (.empty none) = some (.ok (), ⟨#[] ++ t.utf8, none⟩) := again #[]
    exact .silent fun held' => by rw [Rendering.capture, inside]; rfl

theorem congruence : Congruence fun _ => Echoes where
  pure := pure
  throw := throw
  text := text
  bind := bind
  capture := capture
  inside := inside

theorem agree {a b : Rendering Unit} (forth : Echoes a b) (back : Echoes b a) : Agree a b := by
  -- one direction says nothing where the first action goes on forever; the other one does
  have same {a b : Rendering Unit} (echoes : Echoes a b) :
      ∀ result output, a.run none = some (result, output) →
        ∃ output', b.run none = some (result, output') ∧ (result = .ok () → output' = output) := by
    intro result output ran
    obtain ⟨⟨result', s⟩, found, pair⟩ := Option.map_eq_some_iff.1 ran
    cases pair
    cases echoes #[] result s found with
    | done t again =>
      have whole : b (.empty none) = some (.ok (), ⟨#[] ++ t.utf8, none⟩) := again #[]
      exact ⟨_, by rw [run, whole]; rfl, fun _ => rfl⟩
    | @failed e _ fails =>
      obtain ⟨out, fails⟩ := fails #[]
      have whole : b (.empty none) = some (.error e, ⟨out, none⟩) := fails
      exact ⟨_, by rw [run, whole]; rfl, nofun⟩
  constructor
  · refine Option.ext fun result => ?_
    simp only [Option.map_eq_some_iff]
    constructor
    · rintro ⟨⟨_, output⟩, ran, rfl⟩
      obtain ⟨output', ran', -⟩ := same forth _ _ ran
      exact ⟨_, ran', rfl⟩
    · rintro ⟨⟨_, output⟩, ran, rfl⟩
      obtain ⟨output', ran', -⟩ := same back _ _ ran
      exact ⟨_, ran', rfl⟩
  · intro output
    constructor
    · intro ran
      obtain ⟨output', ran', written⟩ := same forth _ _ ran
      rwa [written rfl] at ran'
    · intro ran
      obtain ⟨output', ran', written⟩ := same back _ _ ran
      rwa [written rfl] at ran'

end Echoes

/-- Whether an action always ends with an error, and another one with the same. -/
def FailsAs (a b : Rendering α) : Prop :=
  ∀ held result s, a ⟨held, none⟩ = some (result, s) → ∃ e out, result = .error e ∧
    s = ⟨out, none⟩ ∧
    ∀ held', ∃ out', b ⟨held', none⟩ = some (.error e, ⟨out', none⟩)

inductive Collected : Option Error × List UInt8 → Option Error × List UInt8 → Prop
  | done (t : Text) : Collected (none, t.utf8) (none, t.utf8)
  | failed (e : Error) (bytes bytes' : List UInt8) : Collected (some e, bytes) (some e, bytes')

theorem write_then (bytes : List UInt8) (next : Rendering α) (held : Array UInt8) :
    (do Emit.write bytes; next : Rendering α) ⟨held, none⟩ = next ⟨held ++ bytes, none⟩ := rfl

theorem attempt_write (bytes : List UInt8) (next : Option Error → Rendering α)
    (held : Array UInt8) : (attempt (Emit.write bytes) >>= next) ⟨held, none⟩ =
      next none ⟨held ++ bytes, none⟩ := rfl

section

variable {a a' : Rendering Unit}

theorem attempt_eq_some {s s' : Sink} {result : Except Error (Option Error)}
    (found : attempt a s = some (result, s')) : ∃ failure, result = .ok failure := by
  obtain ⟨⟨inner, s''⟩, -, same⟩ := Option.map_eq_some_iff.1 found
  cases inner <;> cases same <;> exact ⟨_, rfl⟩

theorem collect_eq_some {s s' : Sink} {result : Except Error (Option Error × List UInt8)}
    (found : collect a s = some (result, s')) : ∃ x, result = .ok x := by
  obtain ⟨⟨inner, s''⟩, -, same⟩ := Option.map_eq_some_iff.1 found
  cases inner <;> cases same <;> exact ⟨_, rfl⟩

theorem Echoes.attempted {held : Array UInt8} {failure : Option Error} {s : Sink}
    (echoes : Echoes a a') (found : attempt a ⟨held, none⟩ = some (.ok failure, s)) :
    (∃ t : Text, failure = none ∧ s = ⟨held ++ t.utf8, none⟩ ∧
      ∀ held' : Array UInt8, attempt a' ⟨held', none⟩ = some (.ok none, ⟨held' ++ t.utf8, none⟩)) ∨
    ∃ e out, failure = some e ∧ s = ⟨out, none⟩ ∧
      ∀ held', ∃ out', attempt a' ⟨held', none⟩ = some (.ok (some e), ⟨out', none⟩) := by
  obtain ⟨⟨inner, s'⟩, done, same⟩ := Option.map_eq_some_iff.1 found
  cases echoes held inner s' done with
  | @failed e out fails =>
    cases same
    refine .inr ⟨e, out, rfl, rfl, fun held' => ?_⟩
    obtain ⟨out', fails⟩ := fails held'
    exact ⟨out', by rw [attempt, fails]; rfl⟩
  | done t again =>
    cases same
    exact .inl ⟨t, rfl, rfl, fun held' => by rw [attempt, again]; rfl⟩

theorem Echoes.collected {held : Array UInt8} {x : Option Error × List UInt8} {s : Sink}
    (echoes : Echoes a a') (found : collect a ⟨held, none⟩ = some (.ok x, s)) :
    ∃ x', s = ⟨held, none⟩ ∧ Collected x x' ∧
      ∀ held', collect a' ⟨held', none⟩ = some (.ok x', ⟨held', none⟩) := by
  obtain ⟨⟨inner, s'⟩, done, same⟩ := Option.map_eq_some_iff.1 found
  cases echoes #[] inner s' done with
  | @failed e out fails =>
    cases same
    obtain ⟨out', fails⟩ := fails #[]
    have inside : a' (.empty none) = some (.error e, ⟨out', none⟩) := fails
    exact ⟨_, rfl, .failed e out.toList out'.toList, fun held' => by rw [collect, inside]; rfl⟩
  | done t again =>
    cases same
    have inside : a' (.empty none) = some (.ok (), ⟨#[] ++ t.utf8, none⟩) := again #[]
    have bytes : ((#[] : Array UInt8) ++ t.utf8).toList = t.utf8 := by simp
    have collected : Collected (none, ((#[] : Array UInt8) ++ t.utf8).toList) (none, t.utf8) := by
      rw [bytes]
      exact .done t
    refine ⟨(none, t.utf8), rfl, collected, fun held' => ?_⟩
    rw [collect, inside]
    exact congrArg (fun bytes => some (Except.ok (none, bytes), _)) bytes

variable {next next' : Option Error → Rendering α} {s : Sink} {outcome : Except Error α × Sink}

theorem attempt_bind_eq_some (found : (attempt a >>= next) s = some outcome) :
    ∃ failure s', attempt a s = some (.ok failure, s') ∧ next failure s' = some outcome := by
  rcases bind_eq_some.1 found with ended | ⟨e, s', failed, -⟩
  · exact ended
  · obtain ⟨failure, same⟩ := attempt_eq_some failed
    cases same

theorem Echoes.attempt_bind (echoes : Echoes a a') (done : Echoes (next none) (next' none))
    (failed : ∀ e, FailsAs (next (some e)) (next' (some e))) :
    Echoes (attempt a >>= next) (attempt a' >>= next') := by
  intro held result s found
  obtain ⟨failure, s', ended, found⟩ := attempt_bind_eq_some found
  rcases echoes.attempted ended with ⟨t, rfl, rfl, again⟩ | ⟨e, out, rfl, rfl, again⟩
  · exact .after again (done _ _ _ found)
  · obtain ⟨e', out', rfl, rfl, fails⟩ := failed e _ _ _ found
    refine .failed fun held' => ?_
    obtain ⟨out, first⟩ := again held'
    rw [bind_apply, first]
    exact fails out

theorem FailsAs.attempt_bind (echoes : Echoes a a')
    (fails : ∀ failure, FailsAs (next failure) (next' failure)) :
    FailsAs (attempt a >>= next) (attempt a' >>= next') := by
  intro held result s found
  obtain ⟨failure, s', ended, found⟩ := attempt_bind_eq_some found
  rcases echoes.attempted ended with ⟨t, rfl, rfl, again⟩ | ⟨e, out, rfl, rfl, again⟩
  · obtain ⟨e', out', rfl, rfl, fails'⟩ := fails none _ _ _ found
    refine ⟨e', out', rfl, rfl, fun held' => ?_⟩
    rw [bind_apply, again]
    exact fails' _
  · obtain ⟨e', out', rfl, rfl, fails'⟩ := fails (some e) _ _ _ found
    refine ⟨e', out', rfl, rfl, fun held' => ?_⟩
    obtain ⟨out, first⟩ := again held'
    rw [bind_apply, first]
    exact fails' out

variable {rest rest' : Option Error × List UInt8 → Rendering α}

theorem collect_bind_eq_some (found : (collect a >>= rest) s = some outcome) :
    ∃ x s', collect a s = some (.ok x, s') ∧ rest x s' = some outcome := by
  rcases bind_eq_some.1 found with ended | ⟨e, s', failed, -⟩
  · exact ended
  · obtain ⟨x, same⟩ := collect_eq_some failed
    cases same

theorem Echoes.collect_bind (echoes : Echoes a a')
    (later : ∀ x x', Collected x x' → Echoes (rest x) (rest' x')) :
    Echoes (collect a >>= rest) (collect a' >>= rest') := by
  intro held result s found
  obtain ⟨x, s', ended, found⟩ := collect_bind_eq_some found
  obtain ⟨x', rfl, collected, again⟩ := echoes.collected ended
  exact (later x x' collected held result s found).congr fun held' => by rw [bind_apply, again]

theorem FailsAs.collect_bind (echoes : Echoes a a')
    (later : ∀ x x', Collected x x' → FailsAs (rest x) (rest' x')) :
    FailsAs (collect a >>= rest) (collect a' >>= rest') := by
  intro held result s found
  obtain ⟨x, s', ended, found⟩ := collect_bind_eq_some found
  obtain ⟨x', rfl, collected, again⟩ := echoes.collected ended
  obtain ⟨e, out, rfl, rfl, fails⟩ := later x x' collected held result s found
  refine ⟨e, out, rfl, rfl, fun held' => ?_⟩
  rw [bind_apply, again]
  exact fails held'

theorem write_collect (bytes : List UInt8) (held : Array UInt8) :
    (do Emit.write bytes; (collect a >>= rest) : Rendering α) ⟨held, none⟩ =
      (collect a >>= fun x => do Emit.write bytes; rest x) ⟨held, none⟩ := by
  rw [write_then, bind_apply, bind_apply, collect, collect]
  rcases a (.empty none) with _ | ⟨_ | _, _⟩ <;> rfl

end

theorem Echoes.congr_none {a a' b b' : Rendering α}
    (same : ∀ held, a ⟨held, none⟩ = b ⟨held, none⟩)
    (same' : ∀ held, a' ⟨held, none⟩ = b' ⟨held, none⟩) (echoes : Echoes b b') : Echoes a a' := by
  intro held result s found
  rw [same] at found
  exact (echoes held result s found).congr same'

def framed (a : Rendering Unit) : Rendering Unit := do
  Emit.text (Html.tag "p" true)
  a
  Emit.text (Html.tag "p" false)

def gathered (a : Rendering Unit) : Rendering Unit := do
  let inner ← capture a
  inside ['p'] (Emit.text (Html.tag "p" true ++ Text.lossy inner ++ Html.tag "p" false))

section

variable {a b : Rendering Unit} {held : Array UInt8} {t : Text} {e : Error}

theorem framed_apply : framed a ⟨held, none⟩ =
    (do a; Emit.text (Html.tag "p" false) : Rendering Unit)
      ⟨held ++ (Html.tag "p" true).utf8, none⟩ := rfl

theorem framed_ok (whole : a ⟨held ++ (Html.tag "p" true).utf8, none⟩ =
      some (.ok (), ⟨held ++ (Html.tag "p" true).utf8 ++ t.utf8, none⟩)) :
    framed a ⟨held, none⟩ =
      some (.ok (), ⟨held ++ (Html.tag "p" true ++ t ++ Html.tag "p" false).utf8, none⟩) := by
  rw [framed_apply, bind_apply, whole, utf8_append, utf8_append, ← written_append, ← written_append]
  rfl

theorem framed_error {s : Sink}
    (fails : a ⟨held ++ (Html.tag "p" true).utf8, none⟩ = some (.error e, s)) :
    framed a ⟨held, none⟩ = some (.error e, s) := by
  rw [framed_apply, bind_apply, fails]

theorem framed_none (endless : a ⟨held ++ (Html.tag "p" true).utf8, none⟩ = none) :
    framed a ⟨held, none⟩ = none := by
  rw [framed_apply, bind_apply, endless]

theorem gathered_apply : gathered a ⟨held, none⟩ =
    match a ⟨#[], none⟩ with
    | some (.ok (), s) =>
      let inner := Text.lossy s.written.toList
      inside ['p'] (Emit.text (Html.tag "p" true ++ inner ++ Html.tag "p" false)) ⟨held, none⟩
    | some (.error e, _) => some (.error e, ⟨held, none⟩)
    | none => none := by
  have same : a (.empty none) = a ⟨#[], none⟩ := rfl
  rw [gathered, bind_apply, capture, same]
  cases a ⟨#[], none⟩ with
  | none => rfl
  | some outcome =>
    obtain ⟨inner, s⟩ := outcome
    cases inner <;> rfl

theorem gathered_ok
    (whole : a ⟨#[], none⟩ = some (.ok (), ⟨(#[] : Array UInt8) ++ t.utf8, none⟩)) :
    gathered a ⟨held, none⟩ =
      some (.ok (), ⟨held ++ (Html.tag "p" true ++ t ++ Html.tag "p" false).utf8, none⟩) := by
  have inner : ((#[] : Array UInt8) ++ t.utf8).toList = t.utf8 := by simp
  rw [gathered_apply, whole]
  simp only [inner, Text.lossy_utf8]
  rfl

theorem gathered_error {s : Sink} (fails : a ⟨#[], none⟩ = some (.error e, s)) :
    gathered a ⟨held, none⟩ = some (.error e, ⟨held, none⟩) := by
  rw [gathered_apply, fails]

theorem gathered_none (endless : a ⟨#[], none⟩ = none) : gathered a ⟨held, none⟩ = none := by
  rw [gathered_apply, endless]

theorem Echoes.gathered (echoes : Echoes a b) : Echoes (framed a) (gathered b) := by
  intro held result s found
  cases outcome : a ⟨held ++ (Html.tag "p" true).utf8, none⟩ with
  | none => rw [framed_none outcome] at found; cases found
  | some done =>
    obtain ⟨inner, s'⟩ := done
    cases echoes _ _ _ outcome with
    | failed fails =>
      rw [framed_error outcome] at found
      cases found
      refine .failed fun held' => ?_
      obtain ⟨s', fails⟩ := fails #[]
      exact ⟨_, gathered_error fails⟩
    | done t again =>
      rw [framed_ok outcome] at found
      cases found
      exact .done _ fun held' => gathered_ok (again #[])

theorem Echoes.framed (echoes : Echoes a b) : Echoes (Rendering.gathered a) (framed b) := by
  intro held result s found
  cases outcome : a ⟨#[], none⟩ with
  | none => rw [gathered_none outcome] at found; cases found
  | some done =>
    obtain ⟨inner, s'⟩ := done
    cases echoes _ _ _ outcome with
    | failed fails =>
      rw [gathered_error outcome] at found
      cases found
      refine .failed fun held' => ?_
      obtain ⟨s', fails⟩ := fails (held' ++ (Html.tag "p" true).utf8)
      exact ⟨_, framed_error fails⟩
    | done t again =>
      rw [gathered_ok outcome] at found
      cases found
      exact .done _ fun held' => framed_ok (again _)

end
end Rendering
end Inlay.Render
