import Inlay.Proofs.Host.Extraction
import Inlay.Render.Web

namespace Inlay.Render

open Inlay.Markdown (Node Leaf Branch)
open Inlay.Host (preorder preorders)
open Rendering (Congruence)

namespace Web

section

variable (web : Web) (home : Nat) (escape : Html.Escape) (raw : Bool) (below : Below)
    (d : Host.Document) (ctx : Context)

def written (n : Node) (inside : Rendering Unit) : Rendering Unit :=
  match d.markup? n with
  | some nodes => below (.nodes home nodes .top) ctx
  | none =>
    match (web home).element? n with
    | some e => element home below d ctx e n inside
    | none =>
      match n with
      | .leaf l => Emit.text (Html.leaf escape raw l)
      | .branch b _ => do
        Emit.text (Html.enter escape d b)
        inside
        Emit.text (Html.leave b)

mutual

def fold : Node → Rendering Unit
  | .leaf l => written web home escape raw below d ctx (.leaf l) (return ())
  | .branch b ns => written web home escape raw below d ctx (.branch b ns) (folds ns)

def folds : List Node → Rendering Unit
  | [] => return ()
  | n :: r => do
    fold n
    folds r

end

def answer (n : Node) : Status :=
  if (d.markup? n).isSome || ((web home).element? n).isSome then .skipChildren
  else match n with
    | .leaf l => if Html.skips l then .skipChildren else .continue
    | .branch .. => .continue

theorem answer_ne_stop (n : Node) : web.answer home d n ≠ .stop := by
  unfold answer
  split
  · decide
  · cases n with
    | leaf l => cases skips : Html.skips l <;> simp [skips]
    | branch b ns => nofun

end

section

variable {visit : Visitor Rendering} {each : Rendering Unit} {walk : Rendering Status}
  {escape : Html.Escape} {raw : Bool}
  {d : Host.Document} {source : Text}

theorem tourNode_skip {n : Node} {action : Rendering Unit}
    (entering : visit n each true = do action; return .skipChildren)
    (leaving : visit n each false = return .skipChildren) :
    tourNode visit n each walk = do action; return .skipChildren := by
  simp [tourNode, entering, leaving]

theorem tourNode_leaf {l : Leaf} (outside : ∀ entering,
      visit (.leaf l) each entering = liftM (htmlFallback escape raw d source (.leaf l) entering))
    (inside : walk = do each; return .continue) (silent : each = return ()) :
    tourNode visit (.leaf l) each walk = do
      Emit.text (Html.leaf escape raw l)
      return if Html.skips l then .skipChildren else .continue := by
  subst silent
  have entering : (liftM (htmlFallback escape raw d source (.leaf l) true) : Rendering Status) = do
      Emit.text (Html.leaf escape raw l)
      return if Html.skips l then .skipChildren else .continue := Rendering.lift_bind _ _
  have leaving : (liftM (htmlFallback escape raw d source (.leaf l) false) : Rendering Status) =
      return if Html.skips l then .skipChildren else .continue := rfl
  simp only [tourNode, outside, entering, leaving, inside]
  by_cases skips : Html.skips l
  · simp [skips]
  · simp [skips]

theorem tourNode_branch {b : Branch} {ns : List Node}
    (outside : ∀ entering, visit (.branch b ns) each entering =
      liftM (htmlFallback escape raw d source (.branch b ns) entering))
    (inside : walk = do each; return .continue) :
    tourNode visit (.branch b ns) each walk = do
      Emit.text (Html.enter escape d b)
      each
      Emit.text (Html.leave b)
      return .continue := by
  have entering : (liftM (htmlFallback escape raw d source (.branch b ns) true) :
      Rendering Status) = do
      Emit.text (Html.enter escape d b)
      return .continue := Rendering.lift_bind _ _
  have leaving : (liftM (htmlFallback escape raw d source (.branch b ns) false) :
      Rendering Status) = do
      Emit.text (Html.leave b)
      return .continue := Rendering.lift_bind _ _
  simp [tourNode, outside, entering, leaving, inside]

end

section

variable {web : Web} {home : Nat} {escape : Html.Escape} {raw : Bool} (below : Below)
    (d : Host.Document) (source : Text)
  (ctx : Context)

theorem tourNode_eq (html : (web home).fallback = htmlFallback escape raw) {n : Node}
    {each : Rendering Unit} {walk : Rendering Status} (inside : walk = do each; return .continue)
    (silent : ∀ l, n = .leaf l → each = return ()) :
    tourNode (web.visit home below d source ctx) n each walk = do
      web.written home escape raw below d ctx n each
      return web.answer home d n := by
  unfold written
  cases found : d.markup? n with
  | some nodes =>
    have last : web.answer home d n = .skipChildren := by simp [answer, found]
    rw [last]
    exact tourNode_skip (by simp [visit, found]) (by simp [visit, found])
  | none =>
    cases taken : (web home).element? n with
    | some e =>
      have last : web.answer home d n = .skipChildren := by simp [answer, taken]
      rw [last]
      exact tourNode_skip (by simp [visit, found, taken]) (by simp [visit, found, taken])
    | none =>
      have outside (entering : Bool) : web.visit home below d source ctx n each entering =
          liftM (htmlFallback escape raw d source n entering) := by
        simp only [visit, found, taken, html]
      cases n with
      | leaf l =>
        rw [tourNode_leaf outside inside (silent l rfl)]
        simp [answer, found, taken]
      | branch b ns =>
        rw [tourNode_branch outside inside]
        simp [answer, found, taken]

mutual

theorem tour_eq (html : (web home).fallback = htmlFallback escape raw) (n : Node) :
    tour (web.visit home below d source ctx) n = do
      web.fold home escape raw below d ctx n
      return web.answer home d n := by
  cases n with
  | leaf l =>
    exact tourNode_eq below d source ctx html (by rw [pure_bind]) fun _ _ => rfl
  | branch b ns =>
    rw [tour, fold, tourEach_eq html ns]
    exact tourNode_eq below d source ctx html (tourAll_eq html ns) nofun

theorem tourAll_eq (html : (web home).fallback = htmlFallback escape raw) (ns : List Node) :
    tourAll (web.visit home below d source ctx) ns = do
      web.folds home escape raw below d ctx ns
      return .continue := by
  cases ns with
  | nil => simp [tourAll, folds]
  | cons n rest =>
    rw [tourAll, folds, tour_eq html n, tourAll_eq html rest]
    have goes := web.answer_ne_stop home d n
    cases last : web.answer home d n with
    | stop => exact absurd last goes
    | _ => simp

theorem tourEach_eq (html : (web home).fallback = htmlFallback escape raw) (ns : List Node) :
    tourEach (web.visit home below d source ctx) ns = web.folds home escape raw below d ctx ns := by
  cases ns with
  | nil => simp [tourEach, folds]
  | cons n rest =>
    rw [tourEach, folds, tour_eq html n, tourEach_eq html rest]
    simp

end

theorem document_eq (html : (web home).fallback = htmlFallback escape raw) :
    web.document home below d source ctx = web.fold home escape raw below d ctx d.root := by
  rw [document, tour_eq below d source ctx html]
  simp

end

section

variable {R : (α : Type) → Rendering α → Rendering α → Prop} {web web' : Web} {home home' : Nat}
    {escape escape' : Html.Escape}
  {raw raw' : Bool}
  {below below' : Below} {d d' : Host.Document} {ctx ctx' : Context}

mutual

theorem related_fold (congruent : Congruence R) {n : Node}
    (each : ∀ m ∈ preorder n, ∀ a a', R Unit a a' →
      R Unit (web.written home escape raw below d ctx m a)
        (web'.written home' escape' raw' below' d' ctx' m a')) :
    R Unit (web.fold home escape raw below d ctx n)
      (web'.fold home' escape' raw' below' d' ctx' n) := by
  cases n with
  | leaf l => exact each _ List.mem_cons_self _ _ (congruent.pure ())
  | branch b ns =>
    refine each _ List.mem_cons_self _ _ ?_
    exact related_folds congruent fun m later => each m (List.mem_cons_of_mem _ later)

theorem related_folds (congruent : Congruence R) {ns : List Node}
    (each : ∀ m ∈ preorders ns, ∀ a a', R Unit a a' →
      R Unit (web.written home escape raw below d ctx m a)
        (web'.written home' escape' raw' below' d' ctx' m a')) :
    R Unit (web.folds home escape raw below d ctx ns)
      (web'.folds home' escape' raw' below' d' ctx' ns) := by
  cases ns with
  | nil => exact congruent.pure ()
  | cons n rest =>
    refine congruent.bind ?_ fun _ => ?_
    · exact related_fold congruent fun m here => each m (List.mem_append_left _ here)
    · exact related_folds congruent fun m later => each m (List.mem_append_right _ later)

end

end

end Web
end Inlay.Render
