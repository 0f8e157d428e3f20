import Inlay.Text.Blank
import Mathlib.Algebra.GroupWithZero.Nat

namespace Inlay.Text

def weight (s : Text) : Nat := s.countP fun c => !isBlank c

@[simp] theorem weight_append (s t : Text) : weight (s ++ t) = weight s + weight t :=
  List.countP_append

theorem weight_cons (c : Char) (s : Text) : weight (c :: s) = weight [c] + weight s :=
  weight_append [c] s

theorem weight_le_of_sublist {s t : Text} (sublist : s.Sublist t) : weight s ≤ weight t :=
  sublist.countP_le

theorem weight_of_blank {s : Text} (blank : ∀ c ∈ s, isBlank c) : weight s = 0 := by
  refine List.countP_eq_zero.2 fun c member => ?_
  simp [blank c member]

theorem weight_dropEnd (p : Char → Bool) (s : Text) : weight (dropEnd p s) ≤ weight s :=
  weight_le_of_sublist (dropEnd_initial p s).sublist

theorem weight_intercalate (lines : List Text) :
    weight (['\n'].intercalate lines) = (lines.map weight).sum := by
  have blank : weight ['\n'] = 0 := weight_of_blank (List.forall_mem_singleton.2 (by decide))
  induction lines with
  | nil => rfl
  | cons line lines ih =>
    cases lines with
    | nil => simp
    | cons next lines =>
      rw [List.intercalate_cons_cons, weight_append, weight_append, ih, blank]
      simp

end Inlay.Text
