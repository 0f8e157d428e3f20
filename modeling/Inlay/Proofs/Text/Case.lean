import Inlay.Text.Lowercase
import Mathlib.Data.List.Basic

namespace Inlay.Text

theorem forall_capital {p : Char → Prop} (all : ∀ n < 26, p (Char.ofNat (65 + n))) {c : Char}
    (capital : 'A' ≤ c ∧ c ≤ 'Z') : p c := by
  have least : 65 ≤ c.toNat := Char.le_def.1 capital.1
  have most : c.toNat ≤ 90 := Char.le_def.1 capital.2
  have shifted := all (c.toNat - 65) (by omega)
  rwa [Nat.add_sub_cancel' least, Char.ofNat_toNat] at shifted

theorem lowerAscii_keeps (c : Char) :
    caseIgnorable.has (lowerAscii c) = caseIgnorable.has c ∧
    cased.has (lowerAscii c) = cased.has c ∧ (lowerAscii c = 'Σ' ↔ c = 'Σ') ∧
    lowerChar (lowerAscii c) = lowerChar c := by
  by_cases capital : 'A' ≤ c ∧ c ≤ 'Z'
  · refine forall_capital (p := fun c => caseIgnorable.has (lowerAscii c) = caseIgnorable.has c ∧
      cased.has (lowerAscii c) = cased.has c ∧ (lowerAscii c = 'Σ' ↔ c = 'Σ') ∧
      lowerChar (lowerAscii c) = lowerChar c) ?_ capital
    decide +kernel
  · simp [lowerAscii, if_neg capital]

theorem meetsCased_map (s : Text) : meetsCased (s.map lowerAscii) = meetsCased s := by
  have ignored : caseIgnorable.has ∘ lowerAscii = caseIgnorable.has :=
    funext fun c => (lowerAscii_keeps c).1
  rw [meetsCased, meetsCased, List.dropWhile_map, ignored]
  cases s.dropWhile caseIgnorable.has with
  | nil => rfl
  | cons c r => exact (lowerAscii_keeps c).2.1

theorem lowerAfter_map (before s : Text) :
    lowerAfter (before.map lowerAscii) (s.map lowerAscii) = lowerAfter before s := by
  induction s generalizing before with
  | nil => rfl
  | cons c r ih =>
    obtain ⟨-, -, sigma, small⟩ := lowerAscii_keeps c
    have later := ih (c :: before)
    rw [List.map_cons] at later
    simp only [List.map_cons, lowerAfter, sigma, small, meetsCased_map, later]

theorem lower_eq_of_sameAscii {s t : Text} (same : sameAscii s t) : lower s = lower t := by
  have folded : s.map lowerAscii = t.map lowerAscii := by simpa [sameAscii] using same
  calc lower s = lowerAfter [] (s.map lowerAscii) := (lowerAfter_map [] s).symm
    _ = lowerAfter [] (t.map lowerAscii) := by rw [folded]
    _ = lower t := lowerAfter_map [] t

def isAscii (s : Text) : Bool := s.all (·.toNat < 128)

theorem isAscii_cons {c : Char} {s : Text} : isAscii (c :: s) ↔ c.toNat < 128 ∧ isAscii s := by
  simp [isAscii]

theorem isAscii_append {s t : Text} : isAscii (s ++ t) ↔ isAscii s ∧ isAscii t := by
  simp [isAscii]

theorem lowerAfter_of_isAscii {before s : Text} (ascii : isAscii s) :
    lowerAfter before s = s.map lowerAscii := by
  induction s generalizing before with
  | nil => rfl
  | cons c r ih =>
    obtain ⟨small, rest⟩ := isAscii_cons.1 ascii
    have no_sigma : c ≠ 'Σ' := by
      rintro rfl
      exact absurd small (by decide)
    rw [lowerAfter, if_neg no_sigma, lowerChar, if_pos small, ih rest]
    rfl

theorem isAscii_map (s : Text) : isAscii (s.map lowerAscii) = isAscii s := by
  have kept (c : Char) : decide ((lowerAscii c).toNat < 128) = decide (c.toNat < 128) := by
    by_cases capital : 'A' ≤ c ∧ c ≤ 'Z'
    · refine forall_capital (p := fun c =>
        decide ((lowerAscii c).toNat < 128) = decide (c.toNat < 128)) ?_ capital
      decide +kernel
    · rw [lowerAscii, if_neg capital]
  simp only [isAscii, List.all_map, Function.comp_def, kept]

theorem capitals_beyond : ∀ row ∈ capitals, row.last < 128 ∨ row.first = 8490 ∧ row.last = 8490 ∨
    128 ≤ row.first + row.shift ∧
      (row.last + row.shift < 55296 ∨
        57343 < row.first + row.shift ∧ row.last + row.shift < 1114112) := by
  decide +kernel

theorem shifted_beyond {row : Capitals} (member : row ∈ capitals) {c : Char} (has : row.has c)
    (large : 128 ≤ c.toNat) :
    c = '\u212A' ∨ 128 ≤ (Char.ofNat (c.toNat + row.shift).toNat).toNat := by
  simp only [Capitals.has, Bool.and_eq_true, decide_eq_true_eq] at has
  obtain ⟨⟨least, most⟩, -⟩ := has
  rcases capitals_beyond row member with low | ⟨first, last⟩ | beyond
  · omega
  · have sign : c.toNat = 8490 := by omega
    exact .inl (by rw [← Char.ofNat_toNat c, sign])
  · have valid : (c.toNat + row.shift).toNat.isValidChar := by
      rcases beyond with ⟨-, below | above⟩
      · exact .inl (by omega)
      · exact .inr (by omega)
    have same : (Char.ofNat (c.toNat + row.shift).toNat).toNat = (c.toNat + row.shift).toNat := by
      rw [Char.ofNat, dif_pos valid]
      exact UInt32.toNat_ofNatLT
    exact .inr (by omega)

theorem of_isAscii_lowerChar {c : Char} (ascii : isAscii (lowerChar c)) :
    c.toNat < 128 ∨ c = '\u212A' := by
  by_cases small : c.toNat < 128
  · exact .inl small
  · right
    rw [lowerChar, if_neg small] at ascii
    by_cases dotted : c = 'İ'
    · rw [if_pos dotted] at ascii
      exact absurd ascii (by decide)
    · rw [if_neg dotted] at ascii
      cases found : capitals.find? (·.has c) with
      | none =>
        rw [found] at ascii
        exact absurd (isAscii_cons.1 ascii).1 small
      | some row =>
        rw [found] at ascii
        have shifted := (isAscii_cons.1 ascii).1
        have has : row.has c := by simpa using List.find?_some found
        have beyond := shifted_beyond (List.mem_of_find?_eq_some found) has (by omega)
        exact beyond.resolve_right (Nat.not_le.2 shifted)

theorem isAscii_of_lowerAfter (before : Text) {s : Text} (ascii : isAscii (lowerAfter before s))
    (no_kelvin : '\u212A' ∉ s) : isAscii s := by
  induction s generalizing before with
  | nil => rfl
  | cons c r ih =>
    rw [lowerAfter] at ascii
    obtain ⟨first, rest⟩ := isAscii_append.1 ascii
    have other := List.ne_of_not_mem_cons no_kelvin
    have later := List.not_mem_of_not_mem_cons no_kelvin
    refine isAscii_cons.2 ⟨?_, ih (c :: before) rest later⟩
    split at first
    · split at first
      · exact absurd first (by decide)
      · exact absurd first (by decide)
    · exact (of_isAscii_lowerChar first).resolve_right (Ne.symm other)

/-- A text of ASCII characters, such as the name of a property in markup, is the same as another one
up to ASCII letters if it has the same lower case, but for the Kelvin sign. -/
theorem sameAscii_iff_lower_eq {s t : Text} (ascii : isAscii t) :
    sameAscii s t ↔ lower s = lower t ∧ '\u212A' ∉ s := by
  constructor
  · intro same
    have folded : s.map lowerAscii = t.map lowerAscii := by simpa [sameAscii] using same
    have both : isAscii s := by rw [← isAscii_map, folded, isAscii_map, ascii]
    refine ⟨lower_eq_of_sameAscii same, fun kelvin => ?_⟩
    exact absurd (List.all_eq_true.1 both _ kelvin) (by decide)
  · rintro ⟨same, no_kelvin⟩
    rw [lower, lower, lowerAfter_of_isAscii ascii] at same
    have both : isAscii s := isAscii_of_lowerAfter [] (by rw [same, isAscii_map, ascii]) no_kelvin
    rw [lowerAfter_of_isAscii both] at same
    simpa [sameAscii] using same

end Inlay.Text
