import Inlay.Proofs.Markup.LineEnds
import Inlay.Proofs.Markup.Reading

namespace Inlay.Markup

def IsDigits (s : Text) : Prop := s ≠ [] ∧ ∀ c ∈ s, Text.isDigit c

theorem Lexeme.isDigits_iff {s : Text} : Lexeme.isDigits s ↔ IsDigits s := by
  simp [Lexeme.isDigits, IsDigits]

instance : DecidablePred IsDigits := fun _ => decidable_of_iff _ Lexeme.isDigits_iff

structure Numeral where
  negative : Bool
  whole : Text
  fraction : Option Text
  whole_digits : IsDigits whole
  fraction_digits : ∀ f ∈ fraction, IsDigits f

namespace Numeral

def pointed (n : Numeral) : Text :=
  match n.fraction with
  | none => []
  | some f => '.' :: f

def unsigned (n : Numeral) : Text := n.whole ++ n.pointed

def text (n : Numeral) : Text := if n.negative then '-' :: n.unsigned else n.unsigned

variable (n : Numeral)

theorem exists_unsigned_cons : ∃ c r, n.unsigned = c :: r ∧ Text.isDigit c := by
  obtain ⟨nonempty, digits⟩ := n.whole_digits
  obtain ⟨c, r, whole⟩ := List.exists_cons_of_ne_nil nonempty
  refine ⟨c, r ++ n.pointed, ?_, digits c (whole ▸ List.mem_cons_self)⟩
  rw [unsigned, whole, List.cons_append]

theorem exists_text_cons : ∃ c r, n.text = c :: r ∧ (c = '-' ∨ Text.isDigit c) := by
  obtain ⟨c, r, unsigned, digit⟩ := n.exists_unsigned_cons
  rw [text]
  split
  · exact ⟨'-', _, rfl, .inl rfl⟩
  · exact ⟨c, r, unsigned, .inr digit⟩

theorem isDigit_last {c : Char} (last : n.text.getLast? = some c) : Text.isDigit c := by
  have unsigned : n.unsigned.getLast? = some c := by
    obtain ⟨d, r, cons, -⟩ := n.exists_unsigned_cons
    rw [text] at last
    split at last
    · rw [cons] at last ⊢
      rwa [List.getLast?_cons_cons] at last
    · exact last
  rw [Numeral.unsigned, pointed] at unsigned
  split at unsigned
  · rw [List.append_nil] at unsigned
    exact n.whole_digits.2 c (List.mem_of_getLast? unsigned)
  · next f fraction =>
    obtain ⟨nonempty, digits⟩ := n.fraction_digits f fraction
    obtain ⟨d, r, rfl⟩ := List.exists_cons_of_ne_nil nonempty
    rw [List.getLast?_append_cons, List.getLast?_cons_cons] at unsigned
    exact digits c (List.mem_of_getLast? unsigned)

theorem mem_text {c : Char} (member : c ∈ n.text) : c = '-' ∨ c = '.' ∨ Text.isDigit c := by
  have unsigned (member : c ∈ n.unsigned) : c = '.' ∨ Text.isDigit c := by
    rcases List.mem_append.1 member with whole | behind
    · exact .inr (n.whole_digits.2 c whole)
    · rw [pointed] at behind
      split at behind
      · cases behind
      · next f fraction =>
        exact (List.mem_cons.1 behind).imp_right ((n.fraction_digits f fraction).2 c)
  rw [text] at member
  split at member
  · exact (List.mem_cons.1 member).imp_right unsigned
  · exact .inr (unsigned member)

theorem ne_of_mem_text {c : Char} (member : c ∈ n.text) {d : Char}
    (other : d ≠ '-' ∧ d ≠ '.' ∧ ¬Text.isDigit d) : c ≠ d := by
  rintro rfl
  rcases n.mem_text member with minus | point | digit
  · exact other.1 minus
  · exact other.2.1 point
  · exact other.2.2 digit

theorem not_blank {c : Char} (member : c ∈ n.text) : ¬(isSpace c || c == '\r') := by
  simp [isSpace, n.ne_of_mem_text member (d := ' ') (by decide),
    n.ne_of_mem_text member (d := '\t') (by decide),
    n.ne_of_mem_text member (d := '\r') (by decide)]

end Numeral

namespace Lexeme

theorem isNumber_unsigned (s : Text) :
    (match Text.split (· != '.') s with
      | (whole, _ :: fraction) => isDigits whole && isDigits fraction
      | (whole, []) => isDigits whole) = true ↔ ∃ n : Numeral, n.unsigned = s := by
  have no_point {s : Text} (digits : IsDigits s) : ∀ c ∈ s, (c != '.') = true := by
    intro c member
    rw [bne_iff_ne]
    rintro rfl
    exact absurd (digits.2 _ member) (by decide)
  constructor
  · have whole := Text.split_append (· != '.') s
    have point := List.head?_dropWhile_not (· != '.') s
    rw [show s.dropWhile (· != '.') = (Text.split (· != '.') s).2 from rfl] at point
    split
    · next whole' c fraction cut =>
      rw [cut] at whole point
      intro digits
      obtain ⟨first, second⟩ := Bool.and_eq_true_iff.1 digits
      obtain rfl : c = '.' := by simpa using point
      refine ⟨⟨false, whole', some fraction, isDigits_iff.1 first, ?_⟩, whole⟩
      rintro f ⟨⟩
      exact isDigits_iff.1 second
    · next whole' cut =>
      rw [cut] at whole
      exact fun digits => ⟨⟨false, whole', none, isDigits_iff.1 digits, nofun⟩, whole⟩
  · rintro ⟨n, rfl⟩
    rw [Numeral.unsigned, Numeral.pointed]
    cases fraction : n.fraction with
    | none =>
      have cut : Text.split (· != '.') (n.whole ++ []) = (n.whole, []) := by
        rw [List.append_nil, Text.split, List.takeWhile_eq_self_iff.2 (no_point n.whole_digits),
          List.dropWhile_eq_nil_iff.2 (no_point n.whole_digits)]
      rw [cut]
      exact isDigits_iff.2 n.whole_digits
    | some f =>
      rw [Text.split_of_stop (no_point n.whole_digits) (by decide)]
      exact Bool.and_eq_true_iff.2
        ⟨isDigits_iff.2 n.whole_digits, isDigits_iff.2 (n.fraction_digits f fraction)⟩

theorem isNumber_iff {s : Text} : isNumber s ↔ ∃ n : Numeral, n.text = s := by
  by_cases signed : ∃ r, s = '-' :: r
  · obtain ⟨r, rfl⟩ := signed
    refine (isNumber_unsigned r).trans ⟨?_, ?_⟩
    · rintro ⟨n, rfl⟩
      exact ⟨{ n with negative := true }, rfl⟩
    · rintro ⟨n, same⟩
      rw [Numeral.text] at same
      split at same
      · exact ⟨n, (List.cons.inj same).2⟩
      · obtain ⟨c, t, cons, digit⟩ := n.exists_unsigned_cons
        rw [cons] at same
        rw [(List.cons.inj same).1] at digit
        exact absurd digit (by decide)
  · rw [isNumber]
    swap
    · exact fun r same => signed ⟨r, same⟩
    refine (isNumber_unsigned s).trans ⟨?_, ?_⟩
    · rintro ⟨n, rfl⟩
      exact ⟨{ n with negative := false }, rfl⟩
    · rintro ⟨n, rfl⟩
      refine ⟨n, ?_⟩
      rw [Numeral.text] at signed ⊢
      split
      · next negative => exact absurd ⟨n.unsigned, if_pos negative⟩ signed
      · rfl

theorem number?_eq {s trail after : Text} (one_line : '\n' ∉ s)
    (last : ∀ c, s.getLast? = some c → ¬(isSpace c || c == '\r'))
    (blank : ∀ c ∈ trail, isSpace c || c == '\r') (ends : ∀ c ∈ after.head?, c = '\n') :
    number? (s ++ trail ++ after) = if isNumber s then some (s, trail ++ after) else none := by
  have no_break : ∀ c ∈ s ++ trail, (c != '\n') = true := by
    intro c member
    rw [bne_iff_ne]
    rintro rfl
    rcases List.mem_append.1 member with here | there
    · exact one_line here
    · exact absurd (blank _ there) (by decide)
  have line : (s ++ trail ++ after).takeWhile (· != '\n') = s ++ trail := by
    rw [List.takeWhile_append_of_pos no_break]
    cases after with
    | nil => rw [List.takeWhile_nil, List.append_nil]
    | cons c r =>
      cases ends c rfl
      rw [List.takeWhile_cons_of_neg (by decide), List.append_nil]
  rw [number?, line, Text.dropEnd_append_of_all s blank, Text.dropEnd_eq_self last,
    List.append_assoc, List.drop_left]

theorem read_behind_colon {gap : Text} {c : Char} {r : Text} (blank : ∀ d ∈ gap, isSpace d)
    (no_blank : ¬isSpace c) (no_return : c ≠ '\r') :
    read (some .colon) (gap ++ c :: r) = .ok (plain (some .colon) gap (c :: r)) := by
  have skipped : skipBlanks (gap ++ c :: r) = (gap, c :: r) := by
    induction gap with
    | nil =>
      rw [List.nil_append, skipBlanks_cons fun same => absurd same no_return, if_neg no_blank]
    | cons d gap ih =>
      obtain ⟨first, later⟩ := List.forall_mem_cons.1 blank
      have no_end : d ≠ '\r' := by
        rintro rfl
        exact absurd first (by decide)
      rw [List.cons_append, skipBlanks_cons fun same => absurd same no_end, if_pos first, ih later]
  have no_indent : ((some Token.Kind.colon).any Token.Kind.opensLine) = false := rfl
  rw [read, no_indent, Bool.false_and, if_neg Bool.false_ne_true, if_neg (by decide), spaced,
    skipped]

theorem read_numeral (n : Numeral) {gap trail after : Text} (gaps : ∀ d ∈ gap, isSpace d)
    (blank : ∀ c ∈ trail, isSpace c || c == '\r') (ends : ∀ c ∈ after.head?, c = '\n') :
    read (some .colon) (gap ++ (n.text ++ trail ++ after)) =
      .ok ⟨gap, .number, n.text, n.text, trail ++ after⟩ := by
  have one_line : '\n' ∉ n.text := fun member => n.ne_of_mem_text member (by decide) rfl
  have last (c : Char) (ends : n.text.getLast? = some c) : ¬(isSpace c || c == '\r') :=
    n.not_blank (List.mem_of_getLast? ends)
  have number : number? (n.text ++ trail ++ after) = some (n.text, trail ++ after) := by
    rw [number?_eq one_line last blank ends, if_pos (isNumber_iff.2 ⟨n, rfl⟩)]
  obtain ⟨c, r, cons, -⟩ := n.exists_text_cons
  have first : c ∈ n.text := cons ▸ List.mem_cons_self
  have whole : n.text ++ trail ++ after = c :: (r ++ trail ++ after) := by rw [cons]; rfl
  have no_blank : ¬isSpace c := fun space => n.not_blank first (by rw [space]; rfl)
  have other (d : Char) := n.ne_of_mem_text first (d := d)
  have no_mark : ¬(c = '\\' ∨ c = '!') :=
    not_or.2 ⟨other '\\' (by decide), other '!' (by decide)⟩
  rw [whole] at number ⊢
  rw [read_behind_colon gaps no_blank (other '\r' (by decide)),
    plain_of_letter (other '"' (by decide)) (other ':' (by decide)) (other '\n' (by decide)),
    if_neg no_mark, word, if_pos rfl, number]

theorem read_other {gap : Text} {c : Char} {r : Text} (gaps : ∀ d ∈ gap, isSpace d)
    (other : c ∉ [' ', '\t', '\n', '\r', '"'])
    (no_number : ∀ n : Numeral,
      n.text ≠ Text.dropEnd (fun c => isSpace c || c == '\r') ((c :: r).takeWhile (· != '\n'))) :
    ∃ x, read (some .colon) (gap ++ c :: r) = .ok x ∧ x.lead = gap ∧
      x.kind ∉ [.endOfInput, .quote, .number, .lineBreak] := by
  simp only [List.mem_cons, List.not_mem_nil, or_false, not_or] at other
  obtain ⟨no_space, no_tab, no_break, no_return, no_quote⟩ := other
  have no_blank : ¬isSpace c := by simp [isSpace, no_space, no_tab]
  refine ⟨_, read_behind_colon gaps no_blank no_return, plain_lead _ _ _, ?_⟩
  have none_of (kind : Token.Kind) {x : Lexeme} (same : x.kind = kind)
      (no_value : kind ∉ [.endOfInput, .quote, .number, .lineBreak]) :
      x.kind ∉ [.endOfInput, .quote, .number, .lineBreak] := same ▸ no_value
  by_cases colon : c = ':'
  · rw [colon]
    exact none_of .colon rfl (by decide)
  have number : number? (c :: r) = none :=
    if_neg fun number => no_number _ (isNumber_iff.1 number).choose_spec
  rw [plain_of_letter no_quote colon no_break]
  split
  · next mark =>
    split
    · rcases mark with rfl | rfl
      · exact none_of .component rfl (by decide)
      · exact none_of .flag rfl (by decide)
    · exact none_of .text rfl (by decide)
  · rw [word, if_pos rfl, number]
    cases property? (c :: r) with
    | none => exact none_of .text rfl (by decide)
    | some found => exact none_of .property rfl (by decide)

end Lexeme
end Inlay.Markup
