import Inlay.Render.Walk

namespace Inlay.Render

open Inlay.Markdown (Node)

structure Call where
  node : Node
  entering : Bool

variable {ε : Type}

abbrev History (ε : Type) := List (Call × Except ε Status)

def remembering (answer : History ε → Call → Except ε Status) (n : Node) (entering : Bool) :
    ExceptT ε (StateM (History ε)) Status := fun before =>
  let a := answer before ⟨n, entering⟩
  (a, before ++ [(⟨n, entering⟩, a)])

def History.AnsweredBy (answer : History ε → Call → Except ε Status) (before h : History ε) :
    Prop :=
  ∀ earlier c a later, h = earlier ++ (c, a) :: later → a = answer (before ++ earlier) c

mutual

/-- Whether calls are those of a whole tree, but for what is below nodes that were answered with
`skipChildren` on entering. -/
inductive Tour : Node → History ε → Prop
  | skipping (n : Node) (left : Except ε Status) :
      Tour n [(⟨n, true⟩, .ok .skipChildren), (⟨n, false⟩, left)]
  | through {n : Node} {entered : Except ε Status} {below : History ε} (left : Except ε Status) :
      entered ≠ .ok .skipChildren → Tours n.children below →
      Tour n ((⟨n, true⟩, entered) :: (below ++ [(⟨n, false⟩, left)]))

inductive Tours : List Node → History ε → Prop
  | nil : Tours [] []
  | cons {n : Node} {rest : List Node} {first later : History ε} :
      Tour n first → Tours rest later → Tours (n :: rest) (first ++ later)

end

def Ends : Except ε Status → Bool
  | .error _ | .ok .stop => true
  | .ok _ => false

theorem ends_iff {a : Except ε Status} : Ends a ↔ a = .ok .stop ∨ ∃ e, a = .error e := by
  rcases a with e | _ | _ | _ <;> simp [Ends]

theorem not_ends_skipChildren : ¬Ends (.ok .skipChildren : Except ε Status) := Bool.false_ne_true

theorem not_ends_continue : ¬Ends (.ok .continue : Except ε Status) := Bool.false_ne_true

namespace History

def cut : History ε → History ε
  | [] => []
  | x :: later => if Ends x.2 then [x] else x :: cut later

def ending? : History ε → Option (Except ε Status)
  | [] => none
  | x :: later => if Ends x.2 then some x.2 else ending? later

theorem cut_last {x : Call × Except ε Status} (ends : Ends x.2) (h : History ε) :
    cut (x :: h) = [x] := if_pos ends

theorem ending?_last {x : Call × Except ε Status} (ends : Ends x.2) (h : History ε) :
    ending? (x :: h) = some x.2 := if_pos ends

theorem cut_cons {x : Call × Except ε Status} (goesOn : ¬Ends x.2) (h : History ε) :
    cut (x :: h) = x :: cut h := if_neg goesOn

theorem ending?_cons {x : Call × Except ε Status} (goesOn : ¬Ends x.2) (h : History ε) :
    ending? (x :: h) = ending? h := if_neg goesOn

theorem cut_singleton (x : Call × Except ε Status) : cut [x] = [x] := ite_self [x]

theorem getD_ending?_singleton (x : Call × Except ε Status) : (ending? [x]).getD x.2 = x.2 := by
  by_cases here : Ends x.2
  · rw [ending?_last here]
    rfl
  · rw [ending?_cons here]
    rfl

theorem ending?_append (h later : History ε) :
    ending? (h ++ later) = (ending? h).or (ending? later) := by
  induction h with
  | nil => rfl
  | cons x rest ih =>
    rw [List.cons_append]
    by_cases here : Ends x.2
    · rw [ending?_last here, ending?_last here]
      rfl
    · rw [ending?_cons here, ending?_cons here, ih]

theorem ends_of_ending? {h : History ε} {a : Except ε Status} (ending : ending? h = some a) :
    Ends a := by
  induction h with
  | nil => cases ending
  | cons x rest ih =>
    by_cases here : Ends x.2
    · rw [ending?_last here] at ending
      cases ending
      exact here
    · rw [ending?_cons here] at ending
      exact ih ending

theorem cut_append (h later : History ε) :
    cut (h ++ later) = if (ending? h).isSome then cut h else cut h ++ cut later := by
  induction h with
  | nil => rfl
  | cons x rest ih =>
    rw [List.cons_append]
    by_cases here : Ends x.2
    · rw [cut_last here, cut_last here, ending?_last here]
      rfl
    · rw [cut_cons here, cut_cons here, ending?_cons here, ih]
      split <;> rfl

theorem cut_eq_self {h : History ε} (goesOn : ending? h = none) : cut h = h := by
  induction h with
  | nil => rfl
  | cons x rest ih =>
    by_cases here : Ends x.2
    · rw [ending?_last here] at goesOn
      cases goesOn
    · rw [ending?_cons here] at goesOn
      rw [cut_cons here, ih goesOn]

theorem ending?_eq_some {h : History ε} {a : Except ε Status} :
    ending? h = some a ↔ Ends a ∧ ∃ c, (c, a) ∈ cut h := by
  induction h with
  | nil => exact iff_of_false nofun fun ⟨_, _, made⟩ => List.not_mem_nil made
  | cons x rest ih =>
    obtain ⟨d, b⟩ := x
    by_cases here : Ends b
    · rw [ending?_last (x := (d, b)) here, cut_last (x := (d, b)) here]
      simp only [Option.some.injEq, List.mem_singleton, Prod.mk.injEq]
      constructor
      · rintro rfl
        exact ⟨here, d, rfl, rfl⟩
      · rintro ⟨-, c, -, rfl⟩
        rfl
    · rw [ending?_cons (x := (d, b)) here, cut_cons (x := (d, b)) here, ih]
      refine and_congr_right fun ends => exists_congr fun c => ?_
      rw [List.mem_cons, or_iff_right]
      rintro ⟨⟩
      exact here ends

theorem not_ends_of_last {h : History ε} (goesOn : ending? h = none) {c : Call}
    {a : Except ε Status} (last : h.getLast? = some (c, a)) : ¬Ends a := by
  intro ends
  have made : (c, a) ∈ cut h := (cut_eq_self goesOn).symm ▸ List.mem_of_getLast? last
  rw [ending?_eq_some.2 ⟨ends, c, made⟩] at goesOn
  cases goesOn

section

variable {answer : History ε → Call → Except ε Status} {before : History ε}

theorem answeredBy_nil : AnsweredBy answer before [] := by
  intro earlier c a later whole
  simp at whole

theorem answeredBy_cons {c : Call} {h : History ε}
    (rest : AnsweredBy answer (before ++ [(c, answer before c)]) h) :
    AnsweredBy answer before ((c, answer before c) :: h) := by
  intro earlier d a later whole
  cases earlier with
  | nil =>
    cases whole
    rw [List.append_nil]
  | cons x earlier =>
    cases whole
    rw [rest earlier d a later rfl, List.append_assoc]
    rfl

theorem AnsweredBy.append {h later : History ε} (first : AnsweredBy answer before h)
    (rest : AnsweredBy answer (before ++ h) later) : AnsweredBy answer before (h ++ later) := by
  intro earlier c a behind whole
  rcases List.append_eq_append_iff.1 whole with ⟨more, rfl, same⟩ | ⟨more, rfl, same⟩
  · rw [rest more c a behind same, List.append_assoc]
  · cases more with
    | nil =>
      rw [rest [] c a behind same.symm, List.append_nil, List.append_nil]
    | cons x more =>
      cases same
      exact first earlier c a more rfl

end

end History

theorem exists_tours (ns : List Node) : ∃ h : History ε, Tours ns h := by
  induction ns with
  | nil => exact ⟨[], .nil⟩
  | cons n rest ih =>
    obtain ⟨later, tours⟩ := ih
    exact ⟨_, .cons (.skipping n (.ok .continue)) tours⟩

theorem run_bind {α β : Type} (action : ExceptT ε (StateM (History ε)) α)
    (next : α → ExceptT ε (StateM (History ε)) β) (before : History ε) :
    (action >>= next).run.run before =
      match action.run.run before with
      | (.ok a, h) => (next a).run.run h
      | (.error e, h) => (.error e, h) := by
  show (ExceptT.bindCont next (action.run.run before).1).run (action.run.run before).2 = _
  rcases action.run.run before with ⟨_ | _, _⟩ <;> rfl

section

variable {answer : History ε → Call → Except ε Status}

theorem run_remembering (n : Node) (entering : Bool) (before : History ε) :
    (remembering answer n entering).run.run before =
      (answer before ⟨n, entering⟩, before ++ [(⟨n, entering⟩, answer before ⟨n, entering⟩)]) := rfl

variable (answer) in
/-- Whether an action makes calls up to the first that ends the walk.  The calls, with those that
are left out then, and what the action gives back if none of them ends the walk, meet a condition.
-/
def Calls (action : ExceptT ε (StateM (History ε)) Status)
    (condition : History ε → Except ε Status → Prop) : Prop :=
  ∀ before, ∃ h a, condition h a ∧ History.AnsweredBy answer before (History.cut h) ∧
    action.run.run before = ((History.ending? h).getD a, before ++ History.cut h)

theorem tour_through {n : Node} (entered : Except ε Status) {below : History ε}
    (other : entered ≠ .ok .skipChildren) (tours : Tours n.children below)
    (left : Except ε Status) :
    Tour n ((⟨n, true⟩, entered) :: (below ++ [(⟨n, false⟩, left)])) ∧
      ((⟨n, true⟩, entered) :: (below ++ [(⟨n, false⟩, left)])).getLast? =
        some (⟨n, false⟩, left) :=
  ⟨.through left other tours, by rw [← List.cons_append, List.getLast?_append]; rfl⟩

theorem calls_tourNode {n : Node} {each : ExceptT ε (StateM (History ε)) Unit}
    {below : ExceptT ε (StateM (History ε)) Status}
    (inner : Calls answer below fun h a => Tours n.children h ∧ a = .ok .continue) :
    Calls answer (tourNode (fun n _ entering => remembering answer n entering) n each below)
      fun h a => Tour n h ∧ h.getLast? = some (⟨n, false⟩, a) := by
  intro before
  rw [tourNode, run_bind, run_remembering]
  have first (h : History ε)
      (rest : History.AnsweredBy answer (before ++ [(⟨n, true⟩, answer before ⟨n, true⟩)]) h) :
      History.AnsweredBy answer before ((⟨n, true⟩, answer before ⟨n, true⟩) :: h) :=
    History.answeredBy_cons rest
  have last (h : History ε) : History.AnsweredBy answer h [(⟨n, false⟩, answer h ⟨n, false⟩)] :=
    History.answeredBy_cons History.answeredBy_nil
  obtain ⟨unseen, tours⟩ := exists_tours (ε := ε) n.children
  -- what the first call is answered decides about the others
  cases entered : answer before ⟨n, true⟩ with
  | error e =>
    rw [entered] at first
    refine ⟨_, .error e, tour_through (.error e) nofun tours _, ?_, rfl⟩
    exact first [] History.answeredBy_nil
  | ok status =>
    rw [entered] at first
    cases status with
    | stop =>
      refine ⟨_, .ok .stop, tour_through (.ok .stop) nofun tours _, ?_, rfl⟩
      exact first [] History.answeredBy_nil
    | skipChildren =>
      obtain ⟨left, leaving⟩ :
        ∃ left, answer (before ++ [(⟨n, true⟩, .ok .skipChildren)]) ⟨n, false⟩ = left := ⟨_, rfl⟩
      have last := last (before ++ [(⟨n, true⟩, .ok .skipChildren)])
      rw [leaving] at last
      refine ⟨_, left, ⟨.skipping n left, rfl⟩, ?_, ?_⟩
      · rw [History.cut_cons not_ends_skipChildren, History.cut_singleton]
        exact first _ last
      · simp only [run_remembering, leaving]
        rw [History.ending?_cons not_ends_skipChildren,
          History.getD_ending?_singleton (⟨n, false⟩, left),
          History.cut_cons not_ends_skipChildren, History.cut_singleton, List.append_assoc]
        rfl
    | «continue» =>
      obtain ⟨h, a, ⟨tours, rfl⟩, answered, run⟩ := inner (before ++ [(⟨n, true⟩, .ok .continue)])
      have through := tour_through (.ok .continue) nofun tours
      rw [List.append_assoc, List.singleton_append] at run
      simp only [run_bind, run]
      cases ending : History.ending? h with
      | some a =>
        refine ⟨_, a, through a, ?_, ?_⟩
        · rw [History.cut_cons not_ends_continue, History.cut_append, ending]
          exact first _ answered
        · rw [History.cut_cons not_ends_continue, History.ending?_cons not_ends_continue,
            History.cut_append, History.ending?_append, ending]
          rcases ends_iff.1 (History.ends_of_ending? ending) with rfl | ⟨e, rfl⟩ <;> rfl
      | none =>
        rw [History.cut_eq_self ending] at answered ⊢
        obtain ⟨left, leaving⟩ :
          ∃ left, answer (before ++ (⟨n, true⟩, .ok .continue) :: h) ⟨n, false⟩ = left := ⟨_, rfl⟩
        have last := last (before ++ (⟨n, true⟩, .ok .continue) :: h)
        rw [leaving] at last
        refine ⟨_, left, through left, ?_, ?_⟩
        · rw [History.cut_cons not_ends_continue, History.cut_append, ending,
            History.cut_eq_self ending, History.cut_singleton]
          refine first _ (answered.append ?_)
          rwa [List.append_assoc, List.singleton_append]
        · rw [History.cut_cons not_ends_continue, History.ending?_cons not_ends_continue,
            History.cut_append, History.ending?_append, ending, History.cut_eq_self ending,
            History.cut_singleton, Option.none_or,
            History.getD_ending?_singleton (⟨n, false⟩, left)]
          simp [run_remembering, leaving]

theorem calls_tour_nil :
    Calls answer (pure .continue) fun h a => Tours [] h ∧ a = .ok .continue := fun before =>
  ⟨[], .ok .continue, ⟨.nil, rfl⟩, History.answeredBy_nil,
    by rw [History.cut, List.append_nil]; rfl⟩

mutual

theorem calls_tour (n : Node) :
    Calls answer (walk (remembering answer) n) fun h a =>
      Tour n h ∧ h.getLast? = some (⟨n, false⟩, a) := by
  cases n with
  | leaf l =>
    rw [walk, tour]
    exact calls_tourNode calls_tour_nil
  | branch b below =>
    rw [walk, tour]
    exact calls_tourNode (calls_tourAll below)

theorem calls_tourAll (ns : List Node) :
    Calls answer (tourAll (fun n _ entering => remembering answer n entering) ns) fun h a =>
      Tours ns h ∧ a = .ok .continue := by
  cases ns with
  | nil =>
    rw [tourAll]
    exact calls_tour_nil
  | cons n rest =>
    rw [tourAll]
    intro before
    obtain ⟨h, a, ⟨tour, last⟩, answered, run⟩ := calls_tour n before
    rw [walk] at run
    simp only [run_bind, run]
    cases ending : History.ending? h with
    | some a =>
      obtain ⟨later, tours⟩ := exists_tours rest
      refine ⟨_, _, ⟨.cons tour tours, rfl⟩, ?_, ?_⟩
      · rw [History.cut_append, ending]
        exact answered
      · rw [History.cut_append, History.ending?_append, ending]
        rcases ends_iff.1 (History.ends_of_ending? ending) with rfl | ⟨e, rfl⟩ <;> rfl
    | none =>
      have goesOn := History.not_ends_of_last ending last
      rw [History.cut_eq_self ending] at answered ⊢
      obtain ⟨later, _, ⟨tours, rfl⟩, answered', run'⟩ := calls_tourAll rest (before ++ h)
      refine ⟨_, _, ⟨.cons tour tours, rfl⟩, ?_, ?_⟩
      · rw [History.cut_append, ending, History.cut_eq_self ending]
        exact answered.append answered'
      · rw [History.cut_append, History.ending?_append, ending, History.cut_eq_self ending,
          Option.none_or]
        simp only [ends_iff, not_or, not_exists] at goesOn
        rcases a with e | _ | _ | _
        · exact absurd rfl (goesOn.2 e)
        · exact run'.trans (by simp)
        · exact run'.trans (by simp)
        · exact absurd rfl goesOn.1

end

/-- A walk makes the calls of a tour up to the first whose answer ends the walk, whatever is
answered, and gives back what the last of them is answered. -/
theorem walk_eq_cut_tour (answer : History ε → Call → Except ε Status) (n : Node) :
    ∃ h result, Tour n h ∧
      (walk (remembering answer) n).run.run [] = (result, History.cut h) ∧
      History.AnsweredBy answer [] (History.cut h) ∧
      (∀ e, result = .error e ↔ ∃ c, (c, .error e) ∈ History.cut h) ∧
      (result = .ok .stop ↔ ∃ c, (c, .ok .stop) ∈ History.cut h) ∧
      ((∀ x ∈ History.cut h, ¬Ends x.2) →
        History.cut h = h ∧ h.getLast? = some (⟨n, false⟩, result)) := by
  have calls : Calls answer (walk (remembering answer) n) _ := calls_tour n
  obtain ⟨h, last, ⟨tour, left⟩, answered, run⟩ := calls []
  have ends_with (a : Except ε Status) (ends : Ends a) :
      (History.ending? h).getD last = a ↔ ∃ c, (c, a) ∈ History.cut h := by
    rw [← and_iff_right (a := Ends a) (b := ∃ c, _) ends, ← History.ending?_eq_some]
    cases ending : History.ending? h with
    | some b => rw [Option.getD_some, Option.some.injEq]
    | none =>
      refine iff_of_false ?_ nofun
      rintro rfl
      exact History.not_ends_of_last ending left ends
  refine ⟨h, _, tour, run, answered, fun e => ends_with _ rfl, ends_with _ rfl, fun goesOn => ?_⟩
  cases ending : History.ending? h with
  | some a =>
    obtain ⟨ends, c, made⟩ := History.ending?_eq_some.1 ending
    exact absurd ends (goesOn _ made)
  | none => exact ⟨History.cut_eq_self ending, left⟩

end

end Inlay.Render
