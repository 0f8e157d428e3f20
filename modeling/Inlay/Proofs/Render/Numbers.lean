import Inlay.Proofs.Markup.Growth
import Inlay.Proofs.Markup.Indentation
import Inlay.Proofs.Markup.Numerals
import Inlay.Render.Instance
import Mathlib.Data.Nat.Digits.Defs

namespace Inlay.Markup

namespace Numeral

def magnitude (n : Numeral) : Nat :=
  Nat.ofDigits 10 (n.whole.map fun c => c.toNat - '0'.toNat).reverse

def value (n : Numeral) : Int := if n.negative then -n.magnitude else n.magnitude

end Numeral

end Inlay.Markup

namespace Inlay.Number
open Markup

theorem ofDigits_whole (n : Numeral) : ofDigits n.whole = n.magnitude := by
  rw [ofDigits, Numeral.magnitude, Nat.ofDigits_eq_foldr, List.foldr_reverse, List.foldl_map]
  congr 1
  funext n c
  exact Nat.add_comm _ _

theorem isDigits_iff {s : Text} : isDigits s ↔ IsDigits s := Lexeme.isDigits_iff

variable (n : Numeral)

theorem unsigned_numeral : unsigned n.text = (n.negative, n.unsigned) := by
  rw [Numeral.text]
  cases n.negative with
  | true => rfl
  | false =>
    obtain ⟨c, r, cons, digit⟩ := n.exists_unsigned_cons
    rw [if_neg Bool.false_ne_true, cons, unsigned]
    · rintro t ⟨⟩
      exact absurd digit (by decide)
    · rintro t ⟨⟩
      exact absurd digit (by decide)

theorem isDigits_unsigned : isDigits n.unsigned ↔ n.fraction = none := by
  rw [isDigits_iff, Numeral.unsigned, Numeral.pointed]
  cases n.fraction with
  | none => exact iff_of_true (by rw [List.append_nil]; exact n.whole_digits) rfl
  | some f =>
    refine iff_of_false (fun digits => ?_) (Option.some_ne_none f)
    exact absurd (digits.2 '.' (by simp)) (by decide)

theorem integer?_numeral :
    integer? n.text =
      if n.fraction = none ∧ -2 ^ 63 ≤ n.value ∧ n.value < 2 ^ 63 then some n.value else none := by
  rw [integer?, unsigned_numeral]
  simp only [← isDigits_unsigned]
  by_cases digits : isDigits n.unsigned
  · have whole : n.unsigned = n.whole := by
      rw [Numeral.unsigned, Numeral.pointed, (isDigits_unsigned n).1 digits, List.append_nil]
    have bound : Nat.pow 2 63 = 9223372036854775808 := rfl
    rw [Numeral.value, whole, ofDigits_whole, bound, ← whole]
    cases n.negative with
    | true =>
      simp only [digits, Bool.not_true, if_true, Bool.false_eq_true, if_false, true_and]
      split <;> split <;> first | rfl | omega
    | false =>
      simp only [digits, Bool.not_true, Bool.false_eq_true, if_false, true_and]
      split <;> split <;> first | rfl | omega
  · simp [digits]

theorem split_unsigned : Text.split Text.isDigit n.unsigned = (n.whole, n.pointed) := by
  have digits := n.whole_digits.2
  rw [Numeral.unsigned, Numeral.pointed]
  cases n.fraction with
  | none =>
    rw [List.append_nil, Text.split, List.takeWhile_eq_self_iff.2 digits,
      List.dropWhile_eq_nil_iff.2 digits]
  | some f => exact Text.split_of_stop digits (by decide)

theorem decimal?_numeral : (decimal? n.unsigned).isSome := by
  have nonempty := n.whole_digits.1
  rw [decimal?, split_unsigned, Numeral.pointed]
  cases fraction : n.fraction with
  | none => simp [nonempty]
  | some f =>
    have all := (n.fraction_digits f fraction).2
    have cut : Text.split Text.isDigit f = (f, []) := by
      rw [Text.split, List.takeWhile_eq_self_iff.2 all, List.dropWhile_eq_nil_iff.2 all]
    simp [cut, nonempty]

theorem lower_unsigned_ne {c : Char} (letter : ¬Text.isDigit c) (r : Text) :
    String.ofList (n.unsigned.map Text.lowerAscii) ≠ String.ofList (c :: r) := by
  obtain ⟨d, t, cons, digit⟩ := n.exists_unsigned_cons
  have same_lower : Text.lowerAscii d = d := if_neg fun capital => by
    have below : d ≤ '9' := of_decide_eq_true (Bool.and_eq_true_iff.1 digit).2
    exact absurd (Char.le_trans capital.1 below) (by decide)
  intro same
  rw [cons, List.map_cons, same_lower] at same
  exact letter ((List.cons.inj (String.ofList_injective same)).1 ▸ digit)

theorem float?_numeral : (float? n.text).isSome := by
  have no_name : ¬(String.ofList (n.unsigned.map Text.lowerAscii) = "inf" ∨
      String.ofList (n.unsigned.map Text.lowerAscii) = "infinity") :=
    not_or.2 ⟨lower_unsigned_ne n (by decide) _, lower_unsigned_ne n (by decide) _⟩
  rw [float?, unsigned_numeral]
  dsimp only
  rw [if_neg no_name, if_neg (lower_unsigned_ne n (by decide) _), Option.isSome_map]
  exact decimal?_numeral n

end Inlay.Number

namespace Inlay.Render
open Markup

theorem trim_numeral (n : Numeral) : n.text.trim = n.text := by
  have not_blank {c : Char} (member : c ∈ n.text) : ¬Text.isBlank c := by
    rcases n.mem_text member with rfl | rfl | digit
    · decide
    · decide
    · obtain ⟨low, high⟩ := Bool.and_eq_true_iff.1 digit
      have low : 48 ≤ c.toNat := of_decide_eq_true low
      have high : c.toNat ≤ 57 := of_decide_eq_true high
      simp only [Text.isBlank, Text.Class.has, Text.whiteSpace, List.any_cons, List.any_nil]
      simp
      omega
  obtain ⟨c, r, cons, -⟩ := n.exists_text_cons
  have first : n.text.dropWhile Text.isBlank = n.text := by
    rw [cons, List.dropWhile_cons_of_neg (not_blank (cons ▸ List.mem_cons_self))]
  rw [Text.trim, Text.dropEnds, first]
  exact Text.dropEnd_eq_self fun c last => not_blank (List.mem_of_getLast? last)

structure Binds (n : Numeral) : Prop where
  float (home : Nat) (top : Layout) (scope : Scope) (f : Field) : f.kind = .float →
    ∃ x, (supply home top scope (.string n.text)).coerce (.markdown home) f = .ok (.float x)
  integer (home : Nat) (top : Layout) (scope : Scope) (f : Field) : f.kind = .integer →
    (supply home top scope (.string n.text)).coerce (.markdown home) f =
      if n.fraction = none ∧ -2 ^ 63 ≤ n.value ∧ n.value < 2 ^ 63 then .ok (.integer n.value)
      else .error (.bind (.number f.name f.kind.word n.text))

theorem binds_numeral (n : Numeral) : Binds n where
  float home top scope f kind := by
    obtain ⟨x, read⟩ := Option.isSome_iff_exists.1 (Number.float?_numeral n)
    refine ⟨x, ?_⟩
    simp only [supply, Supplied.coerce, kind, trim_numeral, read]
  integer home top scope f kind := by
    by_cases fits : n.fraction = none ∧ -2 ^ 63 ≤ n.value ∧ n.value < 2 ^ 63
    · simp only [supply, Supplied.coerce, kind, trim_numeral, Number.integer?_numeral, if_pos fits]
    · simp only [supply, Supplied.coerce, kind, trim_numeral, Number.integer?_numeral, if_neg fits]

theorem kind_eq_colon {m : Machine} {t : Token} {owner : OpenComponent} {below : Stack}
    {level : Nat} {name : Text}
    (stepped : m.step t = .ok (.property owner below level name .value)) :
    t.kind = .colon := by
  unfold Machine.step at stepped
  split at stepped
  · split at stepped
    · cases stepped
    · cases stepped
    · obtain ⟨closed, -, placed⟩ := Attempt.bind_eq_ok.1 stepped
      unfold Machine.place at placed
      split at placed <;> cases placed
  · split at stepped <;> cases stepped
    assumption

section

variable {s : Text} {l : Lexer} {owner : OpenComponent} {below : Stack} {level : Nat} {name : Text}

theorem lexeme_of_value (reached : Reaches s l (.property owner below level name .value)) :
    l.lexeme = Lexeme.read (some .colon) l.rest := by
  generalize awaiting : Machine.property owner below level name .value = m at reached
  cases reached with
  | start => cases awaiting
  | next _ _ _ stepped =>
    subst awaiting
    rw [Lexer.lexeme]
    exact congrArg (fun kind => Lexeme.read (some kind) _) (kind_eq_colon stepped)

theorem reaches_value {stack : Stack} (reached : Reaches s l (.ready stack level))
    (opens : l.last.any Token.Kind.opensLine)
    (inside : stack.close level = .ok (.component owner below)) (isName : IsName name) {tail : Text}
    (rest : l.rest = name ++ ':' :: tail) :
    Reaches s ⟨tail, l.location.past (name ++ [':']), some ⟨.colon, [':'], l.location.past name⟩⟩
      (.property owner below level name .value) := by
  have first : ∀ c ∈ (name ++ ':' :: tail).head?, ¬isSpace c := by
    obtain ⟨c, r, rfl⟩ := List.exists_cons_of_ne_nil isName.1
    rintro d ⟨⟩
    exact Lexeme.isSpace_of_isNameChar (isName.2 _ List.mem_cons_self)
  have found : l.lexeme = .ok ⟨[], .property, name, name, ':' :: tail⟩ := by
    rw [Lexer.lexeme, rest, ← Lexeme.read_property isName]
    refine Lexeme.read_congr first (fun kind mark => Lexeme.ne_of_opens opens ?_) (by simp)
    rcases mark with rfl | rfl <;> decide
  have named : Reaches s (l.after ⟨[], .property, name, name, ':' :: tail⟩)
      (.property owner below level name .colon) := by
    refine .next reached found (show Token.Kind.property ≠ _ by decide) ?_
    show stack.close level >>= Machine.place level ⟨.property, name, l.location⟩ = _
    rw [inside]
    rfl
  rw [Location.past_append]
  exact .next named (Lexeme.read_colon tail) (show Token.Kind.colon ≠ _ by decide) rfl

theorem reaches_number (reached : Reaches s l (.property owner below level name .value))
    {gap trail after : Text} (gaps : ∀ c ∈ gap, isSpace c) {n : Numeral}
    (blank : ∀ c ∈ trail, isSpace c || c == '\r') (ends : ∀ c ∈ after.head?, c = '\n')
    (rest : l.rest = gap ++ (n.text ++ trail ++ after)) :
    Reaches s (l.after ⟨gap, .number, n.text, n.text, trail ++ after⟩)
      (.ready (.component (owner.addProperty ⟨name, .string n.text⟩) below) level) := by
  have found : l.lexeme = .ok ⟨gap, .number, n.text, n.text, trail ++ after⟩ := by
    rw [lexeme_of_value reached, rest]
    exact Lexeme.read_numeral n gaps blank ends
  exact .next reached found nofun rfl

theorem parse_other (reached : Reaches s l (.property owner below level name .value))
    {gap : Text} (gaps : ∀ c ∈ gap, isSpace c) {c : Char} {r : Text} (rest : l.rest = gap ++ c :: r)
    (other : c ∉ [' ', '\t', '\n', '\r', '"'])
    (no_number : ∀ n : Numeral,
      n.text ≠ Text.dropEnd (fun c => isSpace c || c == '\r') ((c :: r).takeWhile (· != '\n'))) :
    ∃ value, parse s = .error ⟨.expectedValue value, l.location.past gap⟩ := by
  obtain ⟨x, read, lead, no_value⟩ := Lexeme.read_other gaps other no_number
  rw [← rest, ← lexeme_of_value reached] at read
  simp only [List.mem_cons, List.not_mem_nil, or_false, not_or] at no_value
  obtain ⟨more, no_quote, no_number, no_break⟩ := no_value
  refine ⟨x.value, ?_⟩
  rw [reached.parse, Stream.ofLexer_cons read more, Machine.run, ← lead]
  obtain ⟨lead, kind, source, value, rest⟩ := x
  cases kind <;> first | rfl | contradiction

/-- On a line of a component that begins with a name and a colon, a number that only blanks follow
is the value of the property as it is written, and fields of numbers take it.  What begins with no
quote and is no number up to the blanks at the end of its line is an error. -/
theorem parse_number {stack : Stack} (reached : Reaches s l (.ready stack level))
    (opens : l.last.any Token.Kind.opensLine)
    (inside : stack.close level = .ok (.component owner below)) (isName : IsName name)
    {gap tail : Text} (gaps : ∀ c ∈ gap, isSpace c) (rest : l.rest = name ++ ':' :: (gap ++ tail)) :
    (∀ (n : Numeral) (trail after : Text), (∀ c ∈ trail, isSpace c || c == '\r') →
      (∀ c ∈ after.head?, c = '\n') → tail = n.text ++ trail ++ after →
      (∃ l' : Lexer, l'.rest = trail ++ after ∧ Reaches s l'
        (.ready (.component (owner.addProperty ⟨name, .string n.text⟩) below) level)) ∧
      (∀ d, parse s = .ok d → ∃ c ∈ d.components, c.name = owner.name ∧
        c.location = owner.location ∧
        owner.properties ++ [⟨name, .string n.text⟩] <+: c.properties) ∧
      Binds n) ∧
    ∀ c r, tail = c :: r → c ∉ [' ', '\t', '\n', '\r', '"'] →
      (∀ n : Numeral,
        n.text ≠ Text.dropEnd (fun c => isSpace c || c == '\r') (tail.takeWhile (· != '\n'))) →
      ∃ value, parse s = .error ⟨.expectedValue value, l.location.past (name ++ ':' :: gap)⟩ := by
  have awaits := reaches_value reached opens inside isName rest
  constructor
  · rintro n trail after blank ends rfl
    have behind := reaches_number awaits gaps blank ends rfl
    refine ⟨⟨_, rfl, behind⟩, fun d parsed => ?_, binds_numeral n⟩
    rw [behind.parse] at parsed
    obtain ⟨c, member, grows⟩ := Machine.run_kept parsed _
      (List.mem_append_left _ (OpenComponent.components_made _ ▸ List.mem_cons_self))
    exact ⟨c, member, grows.name, grows.location, grows.properties⟩
  · rintro c r rfl other no_number
    obtain ⟨value, failed⟩ := parse_other awaits gaps rfl other no_number
    refine ⟨value, failed.trans ?_⟩
    rw [← Location.past_append, List.append_assoc]
    rfl

end

theorem reaches_first_line (tail : Text) :
    Reaches ("\\A\n\t".toList ++ tail) ⟨tail, ⟨2, 2⟩, some ⟨.indent, ['\t'], ⟨2, 1⟩⟩⟩
      (.ready (.component ⟨0, ['A'], ⟨1, 1⟩, [], []⟩ (.root [])) 1) := by
  have opened : Reaches ("\\A\n\t".toList ++ tail)
      ⟨"\n\t".toList ++ tail, ⟨1, 3⟩, some ⟨.component, ['A'], ⟨1, 1⟩⟩⟩
      (.ready (.component ⟨0, ['A'], ⟨1, 1⟩, [], []⟩ (.root [])) 0) :=
    .next .start rfl (show Token.Kind.component ≠ _ by decide) (by cbv)
  have broken : Reaches ("\\A\n\t".toList ++ tail)
      ⟨"\t".toList ++ tail, ⟨2, 1⟩, some ⟨.lineBreak, ['\n'], ⟨1, 3⟩⟩⟩
      (.ready (.component ⟨0, ['A'], ⟨1, 1⟩, [], []⟩ (.root [])) 0) :=
    .next opened rfl (show Token.Kind.lineBreak ≠ _ by decide) rfl
  exact .next broken rfl (show Token.Kind.indent ≠ _ by decide) rfl

/-- One number is read and taken, and another is none. -/
theorem number_and_length_parsed :
    (∃ d, parse "\\A\n\tN: -12 ".toList = .ok d ∧ ∃ c ∈ d.components, c.name = ['A'] ∧
      c.location = ⟨1, 1⟩ ∧ [⟨['N'], .string "-12".toList⟩] <+: c.properties) ∧
    ∃ value, parse "\\A\n\tN: 24px".toList = .error ⟨.expectedValue value, ⟨2, 5⟩⟩ := by
  have spaces : ∀ c ∈ [' '], isSpace c := by simp [isSpace]
  have isName : IsName ['N'] := by simp [IsName, isNameChar, Text.isLetter]
  have inside : Stack.close 1 (.component ⟨0, ['A'], ⟨1, 1⟩, [], []⟩ (.root [])) =
      .ok (.component ⟨0, ['A'], ⟨1, 1⟩, [], []⟩ (.root [])) := by
    rw [Stack.close, if_neg (by decide)]
  constructor
  · let n : Numeral := ⟨true, "12".toList, none, by decide, by simp⟩
    have parsed : parse "\\A\n\tN: -12 ".toList =
        .ok ⟨[.component ⟨['A'], [⟨['N'], .string "-12".toList⟩], [], ⟨1, 1⟩⟩]⟩ := by cbv
    refine ⟨_, parsed, ?_⟩
    exact ((parse_number (reaches_first_line "N: -12 ".toList) rfl inside isName spaces rfl).1 n
      [' '] [] (by simp [isSpace]) (by simp) rfl).2.1 _ parsed
  · refine (parse_number (reaches_first_line "N: 24px".toList) rfl inside isName spaces rfl).2 '2'
      "4px".toList rfl (by decide) fun n same => ?_
    exact absurd (Lexeme.isNumber_iff.2 ⟨n, same⟩) (by decide)

end Inlay.Render
