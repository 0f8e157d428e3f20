namespace Inlay

abbrev Text := List Char

namespace Text

def isDigit (c : Char) : Bool := '0' ≤ c && c ≤ '9'

def isLetter (c : Char) : Bool := ('a' ≤ c && c ≤ 'z') || ('A' ≤ c && c ≤ 'Z')

def lowerAscii (c : Char) : Char :=
  if 'A' ≤ c ∧ c ≤ 'Z' then Char.ofNat (c.toNat + 32) else c

def sameAscii (s t : Text) : Bool := s.map lowerAscii == t.map lowerAscii

def split (p : Char → Bool) (s : Text) : Text × Text := (s.takeWhile p, s.dropWhile p)

def dropEnd (p : Char → Bool) (s : Text) : Text := (s.reverse.dropWhile p).reverse

def dropEnds (p : Char → Bool) (s : Text) : Text := dropEnd p (s.dropWhile p)

def pieces (mark : Char) : Text → List Text
  | [] => [[]]
  | c :: r =>
    if c = mark then [] :: pieces mark r
    else match pieces mark r with
      | [] => [[c]]
      | p :: ps => (c :: p) :: ps

def after? : Text → Text → Option Text
  | [], s => some s
  | _ :: _, [] => none
  | c :: lead, d :: s => if c = d then after? lead s else none

theorem split_append (p : Char → Bool) (s : Text) : (split p s).1 ++ (split p s).2 = s :=
  List.takeWhile_append_dropWhile

theorem split_of_stop {p : Char → Bool} {s : Text} {c : Char} {r : Text} (all : ∀ d ∈ s, p d)
    (stop : ¬p c) : split p (s ++ c :: r) = (s, c :: r) := by
  rw [split, List.takeWhile_append_of_pos all, List.dropWhile_append_of_pos all,
    List.takeWhile_cons_of_neg stop, List.dropWhile_cons_of_neg stop, List.append_nil]

theorem dropEnd_initial (p : Char → Bool) (s : Text) : dropEnd p s <+: s := by
  have suffix := List.dropWhile_suffix (l := s.reverse) p
  rw [dropEnd, ← List.reverse_suffix, List.reverse_reverse]
  exact suffix

theorem getLast?_dropEnd {p : Char → Bool} {s : Text} {c : Char}
    (h : (dropEnd p s).getLast? = some c) : ¬p c := by
  rw [dropEnd, List.getLast?_reverse] at h
  have stop := List.head?_dropWhile_not p s.reverse
  rw [h] at stop
  simpa using stop

theorem dropEnd_eq_self {p : Char → Bool} {s : Text} (last : ∀ c, s.getLast? = some c → ¬p c) :
    dropEnd p s = s := by
  rw [dropEnd]
  cases reversed : s.reverse with
  | nil => rw [List.reverse_eq_nil_iff.1 reversed]; rfl
  | cons c r =>
    have head : s.getLast? = some c := by rw [← List.head?_reverse, reversed]; rfl
    rw [List.dropWhile_cons_of_neg (last c head), ← reversed, List.reverse_reverse]

theorem pieces_eq_splitOn (mark : Char) (s : Text) : pieces mark s = s.splitOn mark := by
  induction s with
  | nil => rfl
  | cons c r ih =>
    have some := List.splitOn_ne_nil mark r
    rw [List.splitOn_cons_eq_if_modifyHead, pieces, ih]
    simp only [beq_iff_eq]
    split
    · rfl
    · cases found : r.splitOn mark with
      | nil => exact absurd found some
      | cons p ps => rfl

theorem pieces_ne_nil (mark : Char) (s : Text) : pieces mark s ≠ [] := by
  rw [pieces_eq_splitOn]
  exact List.splitOn_ne_nil mark s

theorem intercalate_pieces (mark : Char) (s : Text) :
    [mark].intercalate (pieces mark s) = s := by
  rw [pieces_eq_splitOn, List.intercalate_splitOn]

theorem pieces_intercalate {mark : Char} {ls : List Text} (some : ls ≠ [])
    (h : ∀ l ∈ ls, mark ∉ l) : pieces mark ([mark].intercalate ls) = ls := by
  rw [pieces_eq_splitOn, List.splitOn_intercalate mark h some]

end Text
end Inlay
