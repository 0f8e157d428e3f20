import Inlay.Text.Keyed
import Mathlib.Data.List.Basic
import Mathlib.Data.List.Lex
import Mathlib.Data.List.Nodup
import Mathlib.Data.Char

namespace Inlay

theorem Text.precedes_iff {s t : Text} : s.precedes t ↔ s < t := by
  fun_induction precedes s t with
  | case1 => simp
  | case2 => simp
  | case3 => simp
  | case4 c s t ih => rw [List.cons_lt_cons_iff, ih]; simp
  | case5 c s d t differ => rw [List.cons_lt_cons_iff]; simp [differ]

namespace Keyed

variable {α : Type} {t : Keyed α} {key : Text} {a : α}

theorem mem_of_get? (found : get? key t = some a) : (key, a) ∈ t := by
  induction t with
  | nil => cases found
  | cons entry r ih =>
    obtain ⟨k, b⟩ := entry
    rw [get?] at found
    split at found
    · next same =>
      cases same
      cases found
      exact List.mem_cons_self
    · exact List.mem_cons_of_mem _ (ih found)

theorem mem_put {entry : Text × α} (member : entry ∈ put key a t) :
    entry = (key, a) ∨ entry ∈ t := by
  induction t with
  | nil => exact .inl (List.mem_singleton.1 member)
  | cons first r ih =>
    obtain ⟨k, b⟩ := first
    rw [put] at member
    split at member
    · rcases List.mem_cons.1 member with new | old
      · exact .inl new
      · exact .inr (List.mem_cons_of_mem _ old)
    · split at member
      · exact List.mem_cons.1 member
      · rcases List.mem_cons.1 member with same | later
        · exact .inr (List.mem_cons.2 (.inl same))
        · exact (ih later).imp id (List.mem_cons_of_mem _)

def keys (t : Keyed α) : List Text := t.map (·.1)

theorem put_perm (fresh : key ∉ t.keys) : (put key a t).Perm ((key, a) :: t) := by
  induction t with
  | nil => exact .refl _
  | cons entry r ih =>
    obtain ⟨k, b⟩ := entry
    rw [keys, List.map_cons, List.mem_cons, not_or] at fresh
    rw [put, if_neg (Ne.symm fresh.1)]
    split
    · exact .refl _
    · exact ((ih fresh.2).cons (k, b)).trans (.swap _ _ _)

theorem get?_eq_some (distinct : t.keys.Nodup) : get? key t = some a ↔ (key, a) ∈ t := by
  refine ⟨mem_of_get?, fun member => ?_⟩
  induction t with
  | nil => cases member
  | cons entry r ih =>
    obtain ⟨k, b⟩ := entry
    obtain ⟨new, distinct⟩ := List.nodup_cons.1 distinct
    rw [get?]
    rcases List.mem_cons.1 member with first | later
    · cases first
      exact if_pos rfl
    · have other : k ≠ key := by
        rintro rfl
        exact new (List.mem_map.2 ⟨(k, a), later, rfl⟩)
      rw [if_neg other]
      exact ih distinct later

def Sorted (t : Keyed α) : Prop := t.Pairwise (·.1 < ·.1)

theorem Sorted.put (sorted : t.Sorted) (key : Text) (a : α) : (put key a t).Sorted := by
  induction t with
  | nil => exact List.pairwise_singleton ..
  | cons entry r ih =>
    obtain ⟨above, rest⟩ := List.pairwise_cons.1 sorted
    rw [Keyed.put]
    split
    · next same => exact List.pairwise_cons.2 ⟨same ▸ above, rest⟩
    · next differ =>
      split
      · next before =>
        rw [Text.precedes_iff] at before
        refine List.pairwise_cons.2 ⟨List.forall_mem_cons.2 ⟨before, fun e member => ?_⟩, sorted⟩
        exact before.trans (above e member)
      · next after =>
        rw [Text.precedes_iff, not_lt] at after
        refine List.pairwise_cons.2 ⟨fun e member => ?_, ih rest⟩
        rcases mem_put member with rfl | old
        · exact lt_of_le_of_ne after differ
        · exact above e old

theorem Sorted.distinct (sorted : t.Sorted) : t.keys.Nodup :=
  (List.pairwise_map.2 sorted).imp ne_of_lt

theorem Sorted.eq_of_get?_eq {t' : Keyed α} (sorted : t.Sorted) (sorted' : t'.Sorted)
    (same : ∀ key, get? key t = get? key t') : t = t' := by
  have members (e : Text × α) : e ∈ t ↔ e ∈ t' := by
    rw [← get?_eq_some sorted.distinct, ← get?_eq_some sorted'.distinct, same]
  have once : t.Nodup := List.Nodup.of_map _ sorted.distinct
  have once' : t'.Nodup := List.Nodup.of_map _ sorted'.distinct
  exact ((List.perm_ext_iff_of_nodup once once').2 members).eq_of_pairwise
    (fun _ _ _ _ below above => absurd (below.trans above) (lt_irrefl _)) sorted sorted'

end Keyed
end Inlay
