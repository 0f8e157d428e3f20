import Inlay.Proofs.Render.Slots
import Inlay.Render.Batch
import Mathlib.Data.List.Forall2
import Mathlib.Order.Basic

namespace Inlay.Render

/-! ## Documents on their own -/

inductive BatchResult.Reports (i : BatchInput) :
    Except Error Unit × List UInt8 → BatchResult → Prop
  | written {bytes : List UInt8} : Reports i (.ok (), bytes) ⟨i.id, some (Text.lossy bytes), none⟩
  | failed {e : Error} {bytes : List UInt8} :
      Reports i (.error e, bytes) ⟨i.id, none, some e.wording.toList⟩

/-- Whether a result is what a document comes to that is rendered alone: as it is, or as a page in a
frame.  A document without a page has one of which only the place is known. -/
inductive Web.RendersTo (web : Web) (home : Nat) : Option Text → BatchInput → BatchResult → Prop
  | alone {i : BatchInput} {outcome : Except Error Unit × List UInt8} {r : BatchResult} :
      (web.convert home i.source (Context.empty.withPage (i.page.getD (.ofUrl i.id)))).run none =
        some outcome → r.Reports i outcome → RendersTo web home none i r
  | framed {frame : Text} {i : BatchInput} {outcome : Except Error Unit × List UInt8}
      {r : BatchResult} :
      (web.renderPage home frame i.source (i.page.getD (.ofUrl i.id))).run none = some outcome →
      r.Reports i outcome → RendersTo web home (some frame) i r

def Tally.count (t : Tally) (r : BatchResult) : Tally :=
  ⟨t.succeeded + if r.output.isSome then 1 else 0, t.failed + if r.error.isSome then 1 else 0⟩

section

variable {web : Web} {home : Nat} {frame : Option Text} {i : BatchInput} {r : BatchResult}
  {t t' : Tally}

theorem Web.process_of_run {outcome : Except Error Unit × List UInt8}
    (done : (web.emitOne home frame i).run none = some outcome) :
    web.process home frame t i = some (r, t') ↔ r.Reports i outcome ∧ t' = t.count r := by
  obtain ⟨_ | _, bytes⟩ := outcome
  · simp only [process, renderOne, done]
    constructor
    · rintro ⟨⟩
      exact ⟨.failed, by simp [Tally.count]⟩
    · rintro ⟨⟨⟩, rfl⟩
      simp [Tally.count]
  · simp only [process, renderOne, done]
    constructor
    · rintro ⟨⟩
      exact ⟨.written, by simp [Tally.count]⟩
    · rintro ⟨⟨⟩, rfl⟩
      simp [Tally.count]

theorem Web.process_eq_some :
    web.process home frame t i = some (r, t') ↔ web.RendersTo home frame i r ∧ t' = t.count r := by
  have alone : web.RendersTo home frame i r ↔
      ∃ outcome, (web.emitOne home frame i).run none = some outcome ∧ r.Reports i outcome := by
    constructor
    · rintro (⟨done, reports⟩ | ⟨done, reports⟩)
      · exact ⟨_, done, reports⟩
      · exact ⟨_, done, reports⟩
    · rintro ⟨outcome, done, reports⟩
      cases frame with
      | none => exact .alone done reports
      | some frame => exact .framed done reports
  cases done : (web.emitOne home frame i).run none with
  | none =>
    have hangs : web.process home frame t i = none := by simp only [process, renderOne, done]; rfl
    simp [alone, hangs, done]
  | some outcome => simp [alone, done, process_of_run done]

theorem Web.RendersTo.unique {r' : BatchResult} (renders : web.RendersTo home frame i r)
    (renders' : web.RendersTo home frame i r') : r = r' := by
  have found : web.process home frame .zero i = some (r, Tally.zero.count r) :=
    process_eq_some.2 ⟨renders, rfl⟩
  rw [process_eq_some.2 ⟨renders', rfl⟩] at found
  exact (Prod.mk.inj (Option.some.inj found)).1.symm

theorem BatchResult.Reports.one {outcome : Except Error Unit × List UInt8}
    (reports : r.Reports i outcome) :
    r.output.isSome ∧ r.error = none ∨ r.output = none ∧ r.error.isSome := by
  cases reports with
  | written => exact .inl ⟨rfl, rfl⟩
  | failed => exact .inr ⟨rfl, rfl⟩

theorem Web.RendersTo.one (renders : web.RendersTo home frame i r) :
    r.output.isSome ∧ r.error = none ∨ r.output = none ∧ r.error.isSome := by
  cases renders with
  | alone _ reports => exact reports.one
  | framed _ reports => exact reports.one

end

/-! ## Counters -/

namespace Tally

def of (results : List BatchResult) : Tally :=
  ⟨.ofNat (results.countP (·.output.isSome)), .ofNat (results.countP (·.error.isSome))⟩

theorem count_of (before after : List BatchResult) (r : BatchResult) :
    (of (before ++ after)).count r = of (before ++ r :: after) := by
  obtain ⟨id, _ | output, _ | error⟩ := r <;>
    simp [of, count, List.countP_append, UInt32.ofNat_add, UInt32.add_assoc]

theorem foldl_count (before results : List BatchResult) :
    results.foldl count (of before) = of (before ++ results) := by
  induction results generalizing before with
  | nil => rw [List.foldl_nil, List.append_nil]
  | cons r rest ih =>
    have counted := count_of before [] r
    rw [List.append_nil] at counted
    rw [List.foldl_cons, counted, ih, List.append_assoc, List.singleton_append]

theorem foldl_zero (results : List BatchResult) : results.foldl count .zero = of results :=
  foldl_count [] results

end Tally

def BatchOutput.ofResults (results : List BatchResult) : BatchOutput := .of results (.of results)

/-! ## One after the other -/

/-- Whether the results of a batch that ends with a failure are all, with nothing left over, or end
with the first failure among them. -/
def EndsWithFailure (results : List BatchResult) (left : List BatchInput) : Prop :=
  (∀ r ∈ results, r.error = none) ∧ left = [] ∨
    ∃ before last, results = before ++ [last] ∧ (∀ r ∈ before, r.error = none) ∧ last.error.isSome

theorem endsWithFailure_cons {r : BatchResult} {results : List BatchResult}
    {left : List BatchInput} (succeeded : r.error = none) :
    EndsWithFailure (r :: results) left ↔ EndsWithFailure results left := by
  constructor
  · rintro (⟨all, rfl⟩ | ⟨before, last, same, good, failed⟩)
    · exact .inl ⟨(List.forall_mem_cons.1 all).2, rfl⟩
    · cases before with
      | nil =>
        cases same
        rw [succeeded] at failed
        cases failed
      | cons r' before =>
        cases same
        exact .inr ⟨before, last, rfl, (List.forall_mem_cons.1 good).2, failed⟩
  · rintro (⟨all, rfl⟩ | ⟨before, last, rfl, good, failed⟩)
    · exact .inl ⟨List.forall_mem_cons.2 ⟨succeeded, all⟩, rfl⟩
    · exact .inr ⟨r :: before, last, rfl, List.forall_mem_cons.2 ⟨succeeded, good⟩, failed⟩

theorem EndsWithFailure.single {r : BatchResult} {results : List BatchResult}
    {left : List BatchInput} (ends : EndsWithFailure (r :: results) left)
    (failed : r.error.isSome) : results = [] := by
  rcases ends with ⟨all, -⟩ | ⟨before, last, same, good, -⟩
  · rw [all r List.mem_cons_self] at failed
    cases failed
  · cases before with
    | nil => exact (List.cons_eq_cons.1 same).2
    | cons r' before =>
      obtain ⟨rfl, -⟩ := List.cons_eq_cons.1 same
      rw [good r List.mem_cons_self] at failed
      cases failed

namespace Web

variable {web : Web} {home : Nat} {frame : Option Text} {inputs : List BatchInput}
  {results : List BatchResult} {t t' : Tally}

theorem renders_unique {results' : List BatchResult}
    (renders : List.Forall₂ (web.RendersTo home frame) inputs results)
    (renders' : List.Forall₂ (web.RendersTo home frame) inputs results') : results = results' := by
  induction renders generalizing results' with
  | nil =>
    cases renders'
    rfl
  | cons first _ ih =>
    cases renders' with
    | cons first' later => rw [first.unique first', ih later]

theorem processInOrder_going :
    web.processInOrder home frame true t inputs = some (results, t') ↔
      List.Forall₂ (web.RendersTo home frame) inputs results ∧
        t' = results.foldl Tally.count t := by
  induction inputs generalizing t results with
  | nil =>
    rw [processInOrder, List.forall₂_nil_left_iff]
    constructor
    · rintro ⟨⟩
      exact ⟨rfl, rfl⟩
    · rintro ⟨rfl, rfl⟩
      rfl
  | cons i rest ih =>
    rw [processInOrder, Option.bind_eq_bind, Option.bind_eq_some_iff, List.forall₂_cons_left_iff]
    constructor
    · rintro ⟨⟨r, counted⟩, first, whole⟩
      obtain ⟨renders, rfl⟩ := process_eq_some.1 first
      simp only [Bool.not_true, Bool.and_false, Bool.false_eq_true, if_false] at whole
      obtain ⟨⟨later, t''⟩, found, whole⟩ := Option.bind_eq_some_iff.1 whole
      cases whole
      obtain ⟨others, rfl⟩ := ih.1 found
      exact ⟨⟨r, later, renders, others, rfl⟩, rfl⟩
    · rintro ⟨⟨r, later, renders, others, rfl⟩, rfl⟩
      refine ⟨(r, t.count r), process_eq_some.2 ⟨renders, rfl⟩, ?_⟩
      simp only [Bool.not_true, Bool.and_false, Bool.false_eq_true, if_false]
      rw [ih.2 ⟨others, rfl⟩]
      rfl

theorem processInOrder_ending :
    web.processInOrder home frame false t inputs = some (results, t') ↔
      ∃ done left, inputs = done ++ left ∧
        List.Forall₂ (web.RendersTo home frame) done results ∧ EndsWithFailure results left ∧
        t' = results.foldl Tally.count t := by
  induction inputs generalizing t results with
  | nil =>
    rw [processInOrder]
    constructor
    · rintro ⟨⟩
      exact ⟨[], [], rfl, .nil, .inl ⟨nofun, rfl⟩, rfl⟩
    · rintro ⟨done, left, nothing, renders, -, rfl⟩
      obtain ⟨rfl, rfl⟩ := List.append_eq_nil_iff.1 nothing.symm
      cases renders
      rfl
  | cons i rest ih =>
    rw [processInOrder, Option.bind_eq_bind, Option.bind_eq_some_iff]
    constructor
    · rintro ⟨⟨r, counted⟩, first, whole⟩
      obtain ⟨renders, rfl⟩ := process_eq_some.1 first
      simp only [Bool.not_false, Bool.and_true] at whole
      split at whole
      · next failed =>
        cases whole
        exact ⟨[i], rest, rfl, .cons renders .nil, .inr ⟨[], r, rfl, nofun, failed⟩, rfl⟩
      · next succeeded =>
        obtain ⟨⟨later, t''⟩, found, whole⟩ := Option.bind_eq_some_iff.1 whole
        cases whole
        obtain ⟨done, left, rfl, others, ends, rfl⟩ := ih.1 found
        rw [Bool.not_eq_true, Option.isSome_eq_false_iff, Option.isNone_iff_eq_none] at succeeded
        exact ⟨i :: done, left, rfl, .cons renders others, (endsWithFailure_cons succeeded).2 ends,
          rfl⟩
    · rintro ⟨done, left, same, renders, ends, rfl⟩
      cases renders with
      | nil =>
        -- without a result there is neither a failure nor an end of the documents
        rcases ends with ⟨-, rfl⟩ | ⟨before, last, nothing, -⟩
        · cases same
        · simp at nothing
      | @cons _ r done later first others =>
        obtain ⟨rfl, rfl⟩ := List.cons_eq_cons.1 same
        refine ⟨(r, t.count r), process_eq_some.2 ⟨first, rfl⟩, ?_⟩
        simp only [Bool.not_false, Bool.and_true]
        cases error : r.error with
        | none =>
          rw [ih.2 ⟨done, left, rfl, others, (endsWithFailure_cons error).1 ends, rfl⟩]
          rfl
        | some words =>
          obtain rfl := ends.single (by rw [error]; rfl)
          rfl

end Web

/-! ## Workers -/

theorem mapM_eq_some {f : α → Option β} {as : List α} {bs : List β} :
    as.mapM f = some bs ↔ List.Forall₂ (fun a b => f a = some b) as bs := by
  induction as generalizing bs with
  | nil => simp [eq_comm]
  | cons a as ih =>
    rw [List.mapM_cons, List.forall₂_cons_left_iff]
    constructor
    · intro whole
      obtain ⟨b, first, whole⟩ := Option.bind_eq_some_iff.1 whole
      obtain ⟨bs', rest, whole⟩ := Option.bind_eq_some_iff.1 whole
      cases whole
      exact ⟨b, bs', first, ih.1 rest, rfl⟩
    · rintro ⟨b, bs', first, rest, rfl⟩
      rw [first, ih.2 rest]
      rfl

theorem exists_mapM {f : α → Option β} {as : List α} :
    (∃ bs, as.mapM f = some bs) ↔ ∀ a ∈ as, ∃ b, f a = some b := by
  simp only [mapM_eq_some]
  induction as with
  | nil => exact ⟨nofun, fun _ => ⟨[], .nil⟩⟩
  | cons a as ih =>
    rw [List.forall_mem_cons, ← ih]
    constructor
    · rintro ⟨_, whole⟩
      obtain ⟨b, bs, first, rest, -⟩ := List.forall₂_cons_left_iff.1 whole
      exact ⟨⟨b, first⟩, bs, rest⟩
    · rintro ⟨⟨b, first⟩, bs, rest⟩
      exact ⟨b :: bs, .cons first rest⟩

def Job.result? (j : Job) : Option BatchResult :=
  match j.stage with
  | .counted r | .delivered r => some r
  | .waiting | .taken => none

theorem Job.result?_of_delivered? {j : Job} {r : BatchResult} (found : j.delivered? = some r) :
    j.result? = some r := by
  obtain ⟨i, stage⟩ := j
  cases stage with
  | delivered r' => exact found
  | _ => cases found

theorem Job.filterMap_result? {jobs : List Job} {results : List BatchResult}
    (places : List.Forall₂ (fun j r => j.delivered? = some r) jobs results) :
    jobs.filterMap Job.result? = results := by
  induction places with
  | nil => rfl
  | cons first _ ih => rw [List.filterMap_cons_some (result?_of_delivered? first), ih]

def Job.left (j : Job) : Nat :=
  match j.stage with
  | .waiting => 3
  | .taken => 2
  | .counted _ => 1
  | .delivered _ => 0

def Job.leftOfAll : List Job → Nat
  | [] => 0
  | j :: rest => j.left + leftOfAll rest

@[simp] theorem Job.leftOfAll_append (before after : List Job) :
    leftOfAll (before ++ after) = leftOfAll before + leftOfAll after := by
  induction before with
  | nil => rw [List.nil_append, leftOfAll, Nat.zero_add]
  | cons j before ih => rw [List.cons_append, leftOfAll, leftOfAll, ih, Nat.add_assoc]

def Workload.left (w : Workload) : Nat := Job.leftOfAll w.jobs

/-- What all workers keep: the documents stay in their places, a result is that of its document, and
the counters count the results so far. -/
structure Workload.Sound (web : Web) (home : Nat) (frame : Option Text)
    (inputs : List BatchInput) (w : Workload) : Prop where
  inputs : w.jobs.map (·.input) = inputs
  results : ∀ j ∈ w.jobs, ∀ r, j.result? = some r → web.RendersTo home frame j.input r
  tally : w.tally = .of (w.jobs.filterMap Job.result?)

namespace Workload.Sound

variable {web : Web} {home : Nat} {frame : Option Text} {inputs : List BatchInput}
  {w w' : Workload} {workers : Nat}

theorem start (web : Web) (home : Nat) (frame : Option Text) (inputs : List BatchInput) :
    (Workload.start inputs).Sound web home frame inputs where
  inputs := by simp [Workload.start, Function.comp_def]
  results := by
    intro j member r found
    obtain ⟨i, -, rfl⟩ := List.mem_map.1 member
    cases found
  tally := by
    have nothing : (Workload.start inputs).jobs.filterMap Job.result? = [] := by
      simp [Workload.start, Job.result?]
    rw [nothing]
    rfl

theorem replace {before after : List Job} {i : BatchInput} {stage stage' : Stage} {t t' : Tally}
    (sound : Sound web home frame inputs ⟨before ++ ⟨i, stage⟩ :: after, t⟩)
    (made : ∀ r, Job.result? ⟨i, stage'⟩ = some r → web.RendersTo home frame i r)
    (counted : t' = .of ((before ++ ⟨i, stage'⟩ :: after).filterMap Job.result?)) :
    Sound web home frame inputs ⟨before ++ ⟨i, stage'⟩ :: after, t'⟩ where
  inputs := by simpa using sound.inputs
  results := by
    intro j member r found
    rcases List.mem_append.1 member with earlier | later
    · exact sound.results j (List.mem_append_left _ earlier) r found
    · rcases List.mem_cons.1 later with rfl | later
      · exact made r found
      · exact sound.results j (List.mem_append_right _ (List.mem_cons_of_mem _ later)) r found
  tally := counted

theorem advance (sound : w.Sound web home frame inputs)
    (step : web.Advances home frame workers w w') :
    w'.Sound web home frame inputs := by
  cases step with
  | take _ =>
    exact sound.replace nofun (by simpa [List.filterMap_cons, Job.result?] using sound.tally)
  | @count before after i t _ r processed =>
    obtain ⟨renders, rfl⟩ := Web.process_eq_some.1 processed
    refine sound.replace (by rintro _ ⟨⟩; exact renders) ?_
    have counted : t = .of (before.filterMap Job.result? ++ after.filterMap Job.result?) := by
      simpa [List.filterMap_cons, Job.result?] using sound.tally
    rw [counted, Tally.count_of]
    simp [Job.result?]
  | @deliver before after i t r =>
    refine sound.replace ?_ (by simpa [List.filterMap_cons, Job.result?] using sound.tally)
    rintro _ ⟨⟩
    exact sound.results ⟨i, .counted r⟩ (by simp) r rfl

theorem works (sound : w.Sound web home frame inputs)
    (steps : Relation.ReflTransGen (web.Advances home frame workers) w w') :
    w'.Sound web home frame inputs := by
  induction steps with
  | refl => exact sound
  | tail _ step ih => exact ih.advance step

theorem output {out : BatchOutput} (sound : w.Sound web home frame inputs)
    (done : w.output? = some out) :
    ∃ results, List.Forall₂ (web.RendersTo home frame) inputs results ∧
      out = .ofResults results := by
  obtain ⟨results, delivered, rfl⟩ := Option.map_eq_some_iff.1 done
  have places := mapM_eq_some.1 delivered
  refine ⟨results, ?_, ?_⟩
  · rw [← sound.inputs, List.forall₂_map_left_iff]
    refine (List.forall₂_iff_zip.2 ⟨places.length_eq, fun {j r} paired => ?_⟩)
    have found := (List.forall₂_iff_zip.1 places).2 paired
    exact sound.results j (List.of_mem_zip paired).1 r (Job.result?_of_delivered? found)
  · rw [sound.tally, Job.filterMap_result? places]
    rfl

end Workload.Sound

namespace Web

variable {web : Web} {home : Nat} {frame : Option Text} {inputs : List BatchInput}
  {w w' : Workload} {workers : Nat}

theorem Advances.left_lt (step : web.Advances home frame workers w w') : w'.left < w.left := by
  cases step <;> simp [Workload.left, Job.leftOfAll, Job.left]

theorem exists_advances (sound : w.Sound web home frame inputs) (some_worker : 0 < workers)
    (ends : ∀ i ∈ inputs, ∃ r, web.RendersTo home frame i r) (missing : w.output? = none) :
    ∃ w', web.Advances home frame workers w w' := by
  obtain ⟨jobs, t⟩ := w
  by_cases busy : ∃ j ∈ jobs, j.isBusy
  · obtain ⟨⟨i, stage⟩, member, busy⟩ := busy
    obtain ⟨before, after, rfl⟩ := List.append_of_mem member
    cases stage with
    | waiting => cases busy
    | taken =>
      have known : i ∈ inputs := by
        rw [← sound.inputs]
        exact List.mem_map_of_mem member
      obtain ⟨r, renders⟩ := ends i known
      exact ⟨_, .count (process_eq_some.2 ⟨renders, rfl⟩)⟩
    | counted r => exact ⟨_, .deliver⟩
    | delivered r => cases busy
  · have idle : jobs.countP Job.isBusy = 0 := List.countP_eq_zero.2 fun j member held =>
      busy ⟨j, member, held⟩
    by_cases waiting : ∃ j ∈ jobs, j.stage = .waiting
    · obtain ⟨⟨i, _⟩, member, rfl⟩ := waiting
      obtain ⟨before, after, rfl⟩ := List.append_of_mem member
      refine ⟨_, .take (lt_of_le_of_lt ?_ some_worker)⟩
      rw [List.countP_append, List.countP_cons] at idle
      rw [List.countP_append]
      omega
    · have all : ∀ j ∈ jobs, ∃ r, j.delivered? = some r := by
        rintro ⟨i, stage⟩ member
        cases stage with
        | delivered r => exact ⟨r, rfl⟩
        | waiting => exact absurd ⟨_, member, rfl⟩ waiting
        | _ => exact absurd ⟨_, member, rfl⟩ busy
      obtain ⟨results, delivered⟩ := exists_mapM.2 all
      rw [Workload.output?, delivered] at missing
      cases missing

theorem exists_output (sound : w.Sound web home frame inputs) (some_worker : 0 < workers)
    (ends : ∀ i ∈ inputs, ∃ r, web.RendersTo home frame i r) :
    ∃ w' out, Relation.ReflTransGen (web.Advances home frame workers) w w' ∧
      w'.output? = some out := by
  induction fuel : w.left using Nat.strong_induction_on generalizing w with
  | _ _ ih =>
    cases done : w.output? with
    | some out => exact ⟨w, out, .refl, done⟩
    | none =>
      obtain ⟨next, step⟩ := exists_advances sound some_worker ends done
      obtain ⟨w', out, steps, finished⟩ :=
        ih next.left (fuel ▸ step.left_lt) (sound.advance step) rfl
      exact ⟨w', out, .head step steps, finished⟩

/-! ## Agreement -/

/-- Whether a batch comes to what its documents come to on their own. -/
structure AgreesWithSingles (web : Web) (home : Nat) (o : BatchOptions) (inputs : List BatchInput) :
    Prop where
  /-- A batch that goes on has one result for each document, in the order of the documents. -/
  each : o.continueOnError ≠ some false → ∀ out, web.runBatch home o inputs = some out ↔
    ∃ results, List.Forall₂ (web.RendersTo home o.frame) inputs results ∧ out = .ofResults results
  /-- However many workers share it, and whatever they do first, it has no other outcome. -/
  order : o.continueOnError ≠ some false → ∀ pool workers w out, o.Employs pool workers →
    Relation.ReflTransGen (web.Advances home o.frame workers) (.start inputs) w →
    w.output? = some out → web.runBatch home o inputs = some out
  /-- The workers come to this outcome from wherever they are, in a known number of steps. -/
  finish : o.continueOnError ≠ some false → ∀ pool workers w out, 0 < pool →
    o.Employs pool workers → web.runBatch home o inputs = some out →
    Relation.ReflTransGen (web.Advances home o.frame workers) (.start inputs) w →
    (∃ w', Relation.ReflTransGen (web.Advances home o.frame workers) w w' ∧
        w'.output? = some out) ∧
      ∀ w', web.Advances home o.frame workers w w' → w'.left < w.left
  /-- A batch that ends with a failure has the results up to the first one. -/
  prefix_to_failure : o.continueOnError = some false → ∀ out,
    web.runBatch home o inputs = some out ↔
      ∃ done left results, inputs = done ++ left ∧
        List.Forall₂ (web.RendersTo home o.frame) done results ∧ EndsWithFailure results left ∧
        out = .ofResults results
  /-- A result is either what a document writes or why it failed. -/
  told : ∀ out, web.runBatch home o inputs = some out → ∀ r ∈ out.results,
    r.output.isSome ∧ r.error = none ∨ r.output = none ∧ r.error.isSome
  numbers : inputs.length < UInt32.size → ∀ out, web.runBatch home o inputs = some out →
    out.stats.total.toNat = out.results.length ∧
    out.stats.succeeded.toNat = out.results.countP (·.output.isSome) ∧
    out.stats.failed.toNat = out.results.countP (·.error.isSome) ∧
    out.stats.succeeded.toNat + out.stats.failed.toNat = out.stats.total.toNat

variable {o : BatchOptions} {out : BatchOutput}

theorem runBatch_going (goes : o.continueOnError ≠ some false) :
    web.runBatch home o inputs = some out ↔
      ∃ results, List.Forall₂ (web.RendersTo home o.frame) inputs results ∧
        out = .ofResults results := by
  have on : o.continueOnError.getD true = true := by
    cases said : o.continueOnError with
    | none => rfl
    | some goesOn =>
      cases goesOn with
      | true => rfl
      | false => exact absurd said goes
  rw [runBatch, on, Option.map_eq_some_iff]
  constructor
  · rintro ⟨⟨results, t⟩, done, rfl⟩
    obtain ⟨renders, rfl⟩ := processInOrder_going.1 done
    exact ⟨results, renders, by rw [BatchOutput.ofResults, ← Tally.foldl_zero]⟩
  · rintro ⟨results, renders, rfl⟩
    refine ⟨(results, results.foldl Tally.count .zero), processInOrder_going.2 ⟨renders, rfl⟩, ?_⟩
    rw [BatchOutput.ofResults, ← Tally.foldl_zero]

theorem runBatch_ending (ends : o.continueOnError = some false) :
    web.runBatch home o inputs = some out ↔
      ∃ done left results, inputs = done ++ left ∧
        List.Forall₂ (web.RendersTo home o.frame) done results ∧ EndsWithFailure results left ∧
        out = .ofResults results := by
  rw [runBatch, ends, Option.getD_some, Option.map_eq_some_iff]
  constructor
  · rintro ⟨⟨results, t⟩, found, rfl⟩
    obtain ⟨done, left, rfl, renders, last, rfl⟩ := processInOrder_ending.1 found
    refine ⟨done, left, results, rfl, renders, last, ?_⟩
    rw [BatchOutput.ofResults, ← Tally.foldl_zero]
  · rintro ⟨done, left, results, rfl, renders, last, rfl⟩
    refine ⟨(results, results.foldl Tally.count .zero),
      processInOrder_ending.2 ⟨done, left, rfl, renders, last, rfl⟩, ?_⟩
    rw [BatchOutput.ofResults, ← Tally.foldl_zero]

theorem exists_results (done : web.runBatch home o inputs = some out) :
    ∃ first left results, inputs = first ++ left ∧
      List.Forall₂ (web.RendersTo home o.frame) first results ∧ out = .ofResults results := by
  by_cases ends : o.continueOnError = some false
  · obtain ⟨first, left, results, same, renders, -, told⟩ := (runBatch_ending ends).1 done
    exact ⟨first, left, results, same, renders, told⟩
  · obtain ⟨results, renders, told⟩ := (runBatch_going ends).1 done
    exact ⟨inputs, [], results, (List.append_nil _).symm, renders, told⟩

theorem ends_of_renders {results : List BatchResult}
    (renders : List.Forall₂ (web.RendersTo home frame) inputs results) :
    ∀ i ∈ inputs, ∃ r, web.RendersTo home frame i r := by
  induction renders with
  | nil => exact nofun
  | cons first _ ih => exact List.forall_mem_cons.2 ⟨⟨_, first⟩, ih⟩

theorem one_of_renders {results : List BatchResult}
    (renders : List.Forall₂ (web.RendersTo home frame) inputs results) :
    ∀ r ∈ results, r.output.isSome ∧ r.error = none ∨ r.output = none ∧ r.error.isSome := by
  induction renders with
  | nil => exact nofun
  | cons first _ ih => exact List.forall_mem_cons.2 ⟨first.one, ih⟩

end Web

theorem BatchOutput.numbers_ofResults {results : List BatchResult}
    (few : results.length < UInt32.size) :
    (ofResults results).stats.total.toNat = results.length ∧
    (ofResults results).stats.succeeded.toNat = results.countP (·.output.isSome) ∧
    (ofResults results).stats.failed.toNat = results.countP (·.error.isSome) := by
  have small (p : BatchResult → Bool) :
      (UInt32.ofNat (results.countP p)).toNat = results.countP p :=
    UInt32.toNat_ofNat_of_lt' (results.countP_le_length.trans_lt few)
  exact ⟨UInt32.toNat_ofNat_of_lt' few, small _, small _⟩

theorem countP_output_add_error {results : List BatchResult}
    (one : ∀ r ∈ results, r.output.isSome ∧ r.error = none ∨ r.output = none ∧ r.error.isSome) :
    results.countP (·.output.isSome) + results.countP (·.error.isSome) = results.length := by
  induction results with
  | nil => rfl
  | cons r rest ih =>
    obtain ⟨first, later⟩ := List.forall_mem_cons.1 one
    have rest_length := ih later
    rcases first with ⟨output, error⟩ | ⟨output, error⟩ <;>
      simp [output, error] <;> omega

namespace Web

theorem batch_agrees (web : Web) (home : Nat) (o : BatchOptions) (inputs : List BatchInput) :
    web.AgreesWithSingles home o inputs where
  each goes out := runBatch_going goes
  order goes pool workers w out _ steps done :=
    (runBatch_going goes).2
      (((Workload.Sound.start web home o.frame inputs).works steps).output done)
  finish goes pool workers w out some_worker employs found steps := by
    have sound := (Workload.Sound.start web home o.frame inputs).works steps
    obtain ⟨results, renders, rfl⟩ := (runBatch_going goes).1 found
    have working : 0 < workers := by
      cases employs with
      | own _ some => exact some
      | shared => exact some_worker
    obtain ⟨w', out, more, done⟩ := exists_output sound working (ends_of_renders renders)
    obtain ⟨results', renders', rfl⟩ := (sound.works more).output done
    obtain rfl := renders_unique renders renders'
    exact ⟨⟨w', more, done⟩, fun next step => step.left_lt⟩
  prefix_to_failure ends out := runBatch_ending ends
  told out found := by
    obtain ⟨first, left, results, -, renders, rfl⟩ := exists_results found
    exact one_of_renders renders
  numbers few out found := by
    obtain ⟨first, left, results, rfl, renders, rfl⟩ := exists_results found
    have short : results.length < UInt32.size := by
      rw [List.length_append, renders.length_eq] at few
      exact Nat.lt_of_le_of_lt (Nat.le_add_right _ _) few
    obtain ⟨total, succeeded, failed⟩ := BatchOutput.numbers_ofResults short
    refine ⟨total, succeeded, failed, ?_⟩
    rw [total, succeeded, failed]
    exact countP_output_add_error (one_of_renders renders)

def mixedBatch : List BatchInput :=
  [⟨['a'], ['h', 'i'], none⟩, ⟨['b'], placeFrame, none⟩, ⟨['c'], ['h', 'i'], none⟩]

def greeting (id : Text) : BatchResult := ⟨id, some "<p>hi</p>".toList, none⟩

def misplaced (id : Text) : BatchResult :=
  ⟨id, none, some "slot not found in render context".toList⟩

theorem renders_greeting (i : BatchInput) (source : i.source = ['h', 'i']) :
    bracketWeb.RendersTo 0 none i (greeting i.id) := by
  let d : Host.Document :=
    ⟨.branch .root [.branch .paragraph [.leaf (.text ['h', 'i'])]], ['u'], .empty⟩
  have read : (bracketWeb 0).read ['h', 'i'] = .ok d := by cbv
  have done (ctx : Context) : (bracketWeb.convert 0 i.source ctx).run none =
      some (.ok (), Text.utf8 "<p>hi</p>".toList) := by
    rw [source, convert_of_read read, render_eq]
    rfl
  have text : Text.lossy (Text.utf8 "<p>hi</p>".toList) = "<p>hi</p>".toList := by decide
  exact .alone (done _) (by rw [greeting, ← text]; exact .written)

theorem renders_misplaced (i : BatchInput) (source : i.source = placeFrame) :
    bracketWeb.RendersTo 0 none i (misplaced i.id) := by
  let place : Markup.Component := ⟨slotName, [], [], ⟨1, 1⟩⟩
  let d : Host.Document := ⟨.branch .root [markupNode "\\Slot" 1 0], ['u'],
    ⟨[(0, ⟨[.component place]⟩)], [], .empty⟩⟩
  have read : (bracketWeb 0).read placeFrame = .ok d := by cbv
  have done : (bracketWeb.convert 0 i.source
      (Context.empty.withPage (i.page.getD (.ofUrl i.id)))).run none =
      some (.error (.lookup .noSlot), []) := by
    rw [source, convert_place (c := place) rfl read rfl rfl rfl, render_eq]
    rfl
  exact .alone done .failed

/-- Three documents, the second of which needs a slot. -/
theorem mixedBatch_agrees :
    (∃ out, bracketWeb.runBatch 0 .default mixedBatch = some out ∧
      out.results = [greeting ['a'], misplaced ['b'], greeting ['c']] ∧
      out.stats.total.toNat = 3 ∧ out.stats.succeeded.toNat = 2 ∧ out.stats.failed.toNat = 1) ∧
    ∃ out, bracketWeb.runBatch 0 ⟨none, some false, none⟩ mixedBatch = some out ∧
      out.results = [greeting ['a'], misplaced ['b']] ∧
      out.stats.total.toNat = 2 ∧ out.stats.succeeded.toNat = 1 ∧ out.stats.failed.toNat = 1 := by
  have first := renders_greeting ⟨['a'], ['h', 'i'], none⟩ rfl
  have second := renders_misplaced ⟨['b'], placeFrame, none⟩ rfl
  have third := renders_greeting ⟨['c'], ['h', 'i'], none⟩ rfl
  constructor
  · have agrees := batch_agrees bracketWeb 0 .default mixedBatch
    have done := (agrees.each nofun _).2 ⟨_, .cons first (.cons second (.cons third .nil)), rfl⟩
    obtain ⟨total, succeeded, failed, -⟩ := agrees.numbers (by decide) _ done
    exact ⟨_, done, rfl, total, succeeded, failed⟩
  · have agrees := batch_agrees bracketWeb 0 ⟨none, some false, none⟩ mixedBatch
    have done := (agrees.prefix_to_failure rfl _).2
      ⟨_, [⟨['c'], ['h', 'i'], none⟩], _, rfl, .cons first (.cons second .nil),
        .inr ⟨[greeting ['a']], misplaced ['b'], rfl, by simp [greeting], rfl⟩, rfl⟩
    obtain ⟨total, succeeded, failed, -⟩ := agrees.numbers (by decide) _ done
    exact ⟨_, done, rfl, total, succeeded, failed⟩

end Web
end Inlay.Render
