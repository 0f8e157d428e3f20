import Inlay.Proofs.Markup.ByteLexer

namespace Inlay.Markup
open Text

namespace ByteLexer

def between (before rest : Text) (place : Location) (previous : Option ByteToken) : ByteLexer :=
  ⟨utf8 (before ++ rest), (utf8 before).length, place, previous⟩

section Between

variable (before rest : Text) (place : Location) (previous : Option ByteToken)

theorem left_between :
    (between before rest place previous).input.drop
      (between before rest place previous).position = utf8 rest := by
  rw [between, utf8_append, List.drop_left]

theorem past_between (s : Text) :
    (between before (s ++ rest) place previous).past (utf8 s) =
      between (before ++ s) rest (place.past s) previous := by
  simp only [between, past, foldl_utf8, utf8_append, List.length_append, List.append_assoc]

theorem slice?_between (a b : Text) :
    slice? (between before (a ++ b) place previous).input
      (between before (a ++ b) place previous).position
      (between (before ++ a) b (place.past a) previous).position = some (utf8 a) := by
  rw [between, ← List.append_assoc]
  exact slice?_utf8 before a b

variable {before rest place previous}

theorem isEnd_between : (between before rest place previous).isEnd ↔ rest = [] := by
  rw [isEnd_iff, left_between, utf8_eq_nil]

theorem not_isEnd {c : Char} : ¬(between before (c :: rest) place previous).isEnd :=
  mt isEnd_between.1 (List.cons_ne_nil c rest)

theorem previousIs_between (kind : Token.Kind) :
    (between before rest place previous).previousIs kind =
      decide (previous.map (·.kind) = some kind) := by
  cases previous with
  | none => rfl
  | some t => simp [previousIs, between]

theorem current_between {p : UInt8 → Bool} {q : Char → Bool} (agrees : Agrees p q) (c : Char) :
    p (between before (c :: rest) place previous).current = q c := by
  obtain ⟨b, bytes, encoded, -⟩ := encode_cons c
  have left := left_between before (c :: rest) place previous
  rw [utf8_cons, encoded, List.cons_append] at left
  rw [current_left left]
  exact agrees c b (by rw [encoded]; exact List.mem_cons_self)

theorem current_mark {a : Char} (ascii : a.toNat < 128) (c : Char) :
    ((between before (c :: rest) place previous).current == a.toUInt8) = (c == a) :=
  current_between (agrees_mark ascii) c

theorem byteAt_between {c : Char} (ascii : c.toNat < 128) :
    (between before (c :: rest) place previous).byteAt
      ((between before (c :: rest) place previous).position + 1) = (utf8 rest).head? := by
  rw [byteAt_left, left_between, utf8_ascii ascii, List.getElem?_cons_succ, List.head?_eq_getElem?]

theorem advance_between {c : Char} (ascii : c.toNat < 128) :
    (between before (c :: rest) place previous).advance =
      between (before ++ [c]) rest (place.step c) previous := by
  have left := left_between before (c :: rest) place previous
  have single : utf8 [c] = [c.toUInt8] := utf8_ascii ascii []
  rw [utf8_ascii ascii] at left
  rw [advance_left left, ← single]
  exact past_between before rest place previous [c]

theorem advanceWhile_between {p : UInt8 → Bool} {q : Char → Bool} (agrees : Agrees p q) :
    (between before rest place previous).advanceWhile p =
      between (before ++ rest.takeWhile q) (rest.dropWhile q) (place.past (rest.takeWhile q))
        previous := by
  have whole := past_between before (rest.dropWhile q) place previous (rest.takeWhile q)
  rw [List.takeWhile_append_dropWhile] at whole
  rw [advanceWhile_eq, left_between, takeWhile_utf8 agrees, whole]

theorem slice?_takeWhile (q : Char → Bool) :
    slice? (between before rest place previous).input (between before rest place previous).position
        (between (before ++ rest.takeWhile q) (rest.dropWhile q) (place.past (rest.takeWhile q))
          previous).position =
      some (utf8 (rest.takeWhile q)) := by
  have taken := slice?_between before place previous (rest.takeWhile q) (rest.dropWhile q)
  rwa [List.takeWhile_append_dropWhile] at taken

theorem takeUntil_between (a b : Text) :
    (between before (a ++ b) place previous).takeUntil (utf8 (before ++ a)).length =
      some (utf8 a, between (before ++ a) b (place.past a) previous) := by
  have left := left_between before (a ++ b) place previous
  rw [utf8_append] at left
  have moved : (between before (a ++ b) place previous).advanceTo (utf8 (before ++ a)).length =
      some (between (before ++ a) b (place.past a) previous) := by
    rw [utf8_append, List.length_append, ← past_between]
    exact advanceTo_eq left
  have taken : slice? (between before (a ++ b) place previous).input
      (between before (a ++ b) place previous).position (utf8 (before ++ a)).length =
        some (utf8 a) := slice?_between before place previous a b
  simp only [takeUntil, moved, taken, Option.bind_eq_bind, Option.bind_some]
  rfl

theorem rest?_between : (between before rest place previous).rest? = some (utf8 rest) := by
  have inside : (between before rest place previous).position ≤
      (between before rest place previous).input.length := by
    rw [between, utf8_append, List.length_append]
    exact Nat.le_add_right ..
  rw [rest?, if_pos inside, left_between]

end Between

def reading (before : Text) (place : Location) (previous : Option ByteToken) (x : Lexeme) :
    Except Error ByteToken × ByteLexer :=
  (.ok ⟨x.kind, utf8 x.value, place.past x.lead⟩,
    between (before ++ x.lead ++ x.source) x.rest ((place.past x.lead).past x.source) previous)

def answering (before s : Text) (place : Location) (previous : Option ByteToken) :
    Except Text Lexeme → Except Error ByteToken × ByteLexer
  | .ok x => reading before place previous x
  | .error spaces =>
    (.error ⟨.malformedIndent, place⟩,
      between (before ++ spaces) (s.drop spaces.length) (place.past spaces) previous)

section Rules

variable {before lead s : Text} {place : Location} {previous : Option ByteToken}

theorem lexText_between :
    (between (before ++ lead) s (place.past lead) previous).lexText =
      some (reading before place previous (Lexeme.line lead s)) := by
  simp only [lexText, advanceWhile_between (agrees_unlike (a := '\n') (by decide)),
    slice?_takeWhile, rdropWhile_utf8 (agrees_mark (a := '\r') (by decide)), Option.bind_eq_bind,
    Option.bind_some]
  rfl

theorem lexMark_between (kind : Token.Kind) {c : Char} (ascii : c.toNat < 128) :
    (between (before ++ lead) (c :: s) (place.past lead) previous).lexMark kind c =
      reading before place previous ⟨lead, kind, [c], [c], s⟩ := by
  rw [lexMark, advance_between ascii, reading, utf8_ascii ascii]
  rfl

theorem lexMarker_between (kind : Token.Kind) {c : Char} (ascii : c.toNat < 128) :
    (between (before ++ lead) (c :: s) (place.past lead) previous).lexMarker kind =
      some (reading before place previous (Lexeme.marked lead kind c s)) := by
  have input : (between (before ++ lead) (c :: s) (place.past lead) previous).input =
      (between (before ++ lead ++ [c]) s ((place.past lead).step c) previous).input := by
    rw [between, List.append_cons]
    rfl
  simp only [lexMarker, input, advance_between ascii, advanceWhile_between agrees_name,
    slice?_takeWhile, Option.bind_eq_bind, Option.bind_some]
  rw [reading, Lexeme.marked, List.append_assoc (before ++ lead)]
  rfl

theorem numberEnd?_between :
    (between before s place previous).numberEnd? =
      some ((Lexeme.number? s).map fun (literal, _) => (utf8 (before ++ literal)).length) := by
  have trail : Agrees (fun b => Bytes.isSpace b || b == '\r'.toUInt8)
    (fun c => isSpace c || c == '\r') := agrees_space.or (agrees_mark (by decide))
  have rest : slice? (utf8 (before ++ s)) (utf8 before).length (utf8 (before ++ s)).length =
      some (utf8 s) := by
    have taken := slice?_utf8 before s []
    rwa [List.append_nil] at taken
  simp only [numberEnd?, between, rest, Option.bind_eq_bind, Option.bind_some,
    takeWhile_utf8 (agrees_unlike (a := '\n') (by decide)), rdropWhile_utf8 trail, isNumber_utf8]
  rw [Lexeme.number?, apply_ite (Option.map _), Option.map_some, utf8_append, List.length_append]
  rfl

theorem lexNumber_between (literal rest : Text) :
    (between before (literal ++ rest) place previous).lexNumber (utf8 (before ++ literal)).length =
      some (.ok ⟨.number, utf8 literal, place⟩,
        between (before ++ literal) rest (place.past literal) previous) := by
  simp only [lexNumber, takeUntil_between, Option.bind_eq_bind, Option.bind_some]
  rfl

theorem lexString_between (inside rest : Text) :
    (between before (inside ++ rest) place previous).lexString (utf8 (before ++ inside)).length =
      some (.ok ⟨.text, utf8 (Lexeme.unescape inside), place⟩,
        between (before ++ inside) rest (place.past inside) previous) := by
  simp only [lexString, takeUntil_between, unescape_utf8, Option.bind_eq_bind, Option.bind_some]
  rfl

theorem lexProperty_between {name rest : Text} (found : Lexeme.property? s = some (name, rest)) :
    (between before s place previous).lexProperty =
      some (.ok ⟨.property, utf8 name, place⟩,
        between (before ++ name) rest (place.past name) previous) := by
  -- the name is followed to the colon by another test than the one that found it
  have cut : split (· != ':') s = (name, rest) := by
    obtain ⟨chars, r, rfl⟩ := Lexeme.property?_named found
    rw [← Lexeme.property?_append found]
    refine split_of_stop (fun c member => ?_) (by decide)
    rw [bne_iff_ne]
    rintro rfl
    exact absurd (chars _ member) (by decide)
  obtain ⟨name_taken, rest_left⟩ := Prod.mk.inj cut
  have taken := slice?_between before place previous name rest
  rw [Lexeme.property?_append found] at taken
  simp only [lexProperty, advanceWhile_between (agrees_unlike (a := ':') (by decide)), name_taken,
    rest_left, taken, Option.bind_eq_bind, Option.bind_some]
  rfl

theorem lexWord_between :
    (between (before ++ lead) s (place.past lead) previous).lexWord =
      some (reading before place previous (Lexeme.word (previous.map (·.kind)) lead s)) := by
  have number : (if (between (before ++ lead) s (place.past lead) previous).previousIs .colon then
        (between (before ++ lead) s (place.past lead) previous).numberEnd? else some none) =
      some ((if previous.map (·.kind) = some .colon then Lexeme.number? s else none).map
        fun (literal, _) => (utf8 (before ++ lead ++ literal)).length) := by
    simp only [previousIs_between, numberEnd?_between, decide_eq_true_eq]
    split <;> rfl
  simp only [lexWord, number, rest?_between, isProperty_utf8, Lexeme.word, Option.bind_eq_bind,
    Option.bind_some]
  cases found : (if previous.map (·.kind) = some .colon then Lexeme.number? s else none) with
  | some number =>
    obtain ⟨literal, rest⟩ := number
    rw [← Lexeme.number?_append (Option.ite_none_right_eq_some.1 found).2]
    exact lexNumber_between literal rest
  | none =>
    cases named : Lexeme.property? s with
    | some property => exact lexProperty_between named
    | none => exact lexText_between

theorem lexPlain_between (c : Char) (r : Text) :
    (between (before ++ lead) (c :: r) (place.past lead) previous).lexPlain =
      some (reading before place previous
        (Lexeme.plain (previous.map (·.kind)) lead (c :: r))) := by
  have named (ascii : c.toNat < 128) :
      ((between (before ++ lead) (c :: r) (place.past lead) previous).byteAt
        ((between (before ++ lead) (c :: r) (place.past lead) previous).position + 1)).any
          Bytes.isName = r.head?.any isNameChar := by
    rw [byteAt_between ascii, head?_any_utf8 agrees_name]
  rw [lexPlain]
  simp only [current_mark (a := '\\') (by decide), current_mark (a := '!') (by decide),
    current_mark (a := '"') (by decide), current_mark (a := ':') (by decide),
    current_mark (a := '\n') (by decide)]
  by_cases quote : c = '"'
  · subst quote
    exact congrArg some (lexMark_between .quote (by decide))
  by_cases colon : c = ':'
  · subst colon
    exact congrArg some (lexMark_between .colon (by decide))
  by_cases newline : c = '\n'
  · subst newline
    exact congrArg some (lexMark_between .lineBreak (by decide))
  rw [Lexeme.plain_of_letter quote colon newline]
  by_cases component : c = '\\'
  · subst component
    rw [named (by decide), lexMarker_between .component (by decide), lexText_between]
    cases r.head?.any isNameChar <;> rfl
  by_cases flag : c = '!'
  · subst flag
    rw [named (by decide), lexMarker_between .flag (by decide), lexText_between]
    cases r.head?.any isNameChar <;> rfl
  · rw [if_neg (not_or.2 ⟨component, flag⟩), lexWord_between]
    simp [quote, colon, newline, component, flag]

theorem isSpace_between (c : Char) :
    (!(between before (c :: s) place previous).isEnd &&
      (between before (c :: s) place previous).current == ' '.toUInt8) = (c == ' ') := by
  rw [Bool.eq_false_iff.2 not_isEnd, current_mark (by decide)]
  rfl

theorem lexSpaces_all (begun : Location) (n : Nat) :
    lexSpaces begun n (between before (List.replicate n ' ' ++ s) place previous) =
      (.ok ⟨.indent, utf8 ['\t'], begun⟩,
        between (before ++ List.replicate n ' ') s (place.past (List.replicate n ' '))
          previous) := by
  induction n generalizing before place with
  | zero =>
    rw [lexSpaces, List.replicate_zero, List.append_nil]
    rfl
  | succ n ih =>
    rw [lexSpaces, List.replicate_succ, List.cons_append, isSpace_between, beq_self_eq_true,
      if_pos rfl, advance_between (by decide), ih, List.append_assoc]
    rfl

theorem lexSpaces_few (begun : Location) {n : Nat} (few : (s.takeWhile (· == ' ')).length < n) :
    lexSpaces begun n (between before s place previous) =
      (.error ⟨.malformedIndent, begun⟩,
        between (before ++ s.takeWhile (· == ' ')) (s.dropWhile (· == ' '))
          (place.past (s.takeWhile (· == ' '))) previous) := by
  induction n generalizing before place s with
  | zero => exact absurd few (Nat.not_lt_zero _)
  | succ n ih =>
    rw [lexSpaces]
    cases s with
    | nil =>
      rw [isEnd_between.2 rfl, List.takeWhile_nil, List.append_nil]
      rfl
    | cons c s =>
      rw [isSpace_between]
      by_cases space : c = ' '
      · subst space
        rw [List.takeWhile_cons_of_pos rfl] at few ⊢
        rw [beq_self_eq_true, if_pos rfl, advance_between (by decide),
          ih (Nat.lt_of_succ_lt_succ few), List.append_assoc]
        rfl
      · have other : ¬(c == ' ') = true := by simpa using space
        rw [if_neg other, List.takeWhile_cons_of_neg (p := (· == ' ')) other,
          List.dropWhile_cons_of_neg (p := (· == ' ')) other, List.append_nil]
        rfl

theorem few_spaces (none : Lexeme.NoUnit s) : (s.takeWhile (· == ' ')).length < 4 := by
  by_contra enough
  have four : (s.takeWhile (· == ' ')).take 4 = List.replicate 4 ' ' := by
    refine List.eq_replicate_iff.2 ⟨by rw [List.length_take]; omega, fun c member => ?_⟩
    simpa using List.mem_takeWhile_imp (List.take_subset _ _ member)
  have start : List.replicate 4 ' ' <+: s := by
    rw [← four]
    exact (List.take_prefix 4 _).trans (List.takeWhile_prefix _)
  obtain ⟨r, rfl⟩ := start
  exact none.no_spaces r rfl

theorem lexIndent_between (c : Char) :
    (between before (c :: s) place previous).lexIndent =
      answering before (c :: s) place previous (Lexeme.indent (c :: s)) := by
  rw [lexIndent, current_mark (by decide)]
  by_cases tab : c = '\t'
  · subst tab
    rw [beq_self_eq_true, if_pos rfl, advance_between (by decide), Lexeme.indent, answering,
      reading, List.append_nil]
    rfl
  rw [if_neg (by simpa using tab)]
  by_cases unit : ∃ r, c :: s = ' ' :: ' ' :: ' ' :: ' ' :: r
  · obtain ⟨r, unit⟩ := unit
    rw [unit, Lexeme.indent, answering, reading, List.append_nil]
    exact lexSpaces_all place 4
  · have none : Lexeme.NoUnit (c :: s) :=
      ⟨fun r same => tab (List.cons.inj same).1, fun r same => unit ⟨r, same⟩⟩
    have left := @List.drop_left _ ((c :: s).takeWhile (· == ' ')) ((c :: s).dropWhile (· == ' '))
    rw [List.takeWhile_append_dropWhile] at left
    rw [Lexeme.indent_of_noUnit none, answering, left]
    exact lexSpaces_few place (few_spaces none)

theorem closing_between :
    (if (between before s place previous).previousIs .quote then
      Bytes.closingQuote? (between before s place previous).input
        (between before s place previous).position else none) =
      (if previous.map (·.kind) = some .quote then Lexeme.closed? s else none).map
        fun (inside, _) => (utf8 (before ++ inside)).length := by
  have found := closingQuote?_utf8 (utf8 before) s
  rw [← utf8_append] at found
  simp only [previousIs_between, decide_eq_true_eq, utf8_append before, List.length_append]
  split
  · exact found
  · rfl

theorem isIndent_between (c : Char) :
    (between before (c :: s) place previous).isIndent =
      (!before.isEmpty && isSpace c && (previous.map (·.kind)).any Token.Kind.opensLine) := by
  have position : ((between before (c :: s) place previous).position != 0) = !before.isEmpty := by
    rw [Bool.eq_iff_iff, bne_iff_ne, Bool.not_eq_true', Bool.eq_false_iff, Ne, Ne, List.isEmpty_iff,
      ← utf8_eq_nil, ← List.length_eq_zero_iff]
    rfl
  have kinds : ((between before (c :: s) place previous).previousIs .indent ||
      (between before (c :: s) place previous).previousIs .lineBreak) =
        (previous.map (·.kind)).any Token.Kind.opensLine := by
    rw [previousIs_between, previousIs_between]
    cases previous with
    | none => rfl
    | some t => cases kind : t.kind <;> simp [kind, Token.Kind.opensLine]
  rw [isIndent, position, kinds, current_between agrees_space]

theorem isBlank_between (c : Char) :
    (between before (c :: s) place previous).isBlank =
      (isSpace c || c == '\r' && s.head? == some '\n') := by
  rw [isBlank, current_between agrees_space, current_mark (by decide)]
  by_cases returns : c = '\r'
  · subst returns
    have next : ((utf8 s).head? == some '\n'.toUInt8) = (s.head? == some '\n') := by
      rw [Bool.eq_iff_iff, beq_iff_eq, beq_iff_eq]
      exact head?_utf8 (by decide) s
    rw [byteAt_between (by decide), next]
  · rw [beq_false_of_ne returns, Bool.false_and, Bool.false_and]

theorem not_isIndent {c : Char}
    (no_indent : ¬((previous.map (·.kind)).any Token.Kind.opensLine && isSpace c)) :
    ¬(between before (c :: s) place previous).isIndent := by
  rw [isIndent_between]
  simp only [Bool.and_eq_true, not_and] at no_indent ⊢
  exact fun ⟨_, space⟩ opens => no_indent opens space

theorem lex_cons {c : Char}
    (no_indent : ¬((previous.map (·.kind)).any Token.Kind.opensLine && isSpace c))
    (no_string : previous.map (·.kind) = some .quote → Lexeme.closed? (c :: s) = none) :
    (between before (c :: s) place previous).lex =
      if isSpace c || c == '\r' && s.head? == some '\n' then
        (between before (c :: s) place previous).advance.lex
      else (between before (c :: s) place previous).lexPlain := by
  have string : (if previous.map (·.kind) = some .quote then Lexeme.closed? (c :: s) else none) =
      none := by
    split
    · next quote => exact no_string quote
    · rfl
  rw [lex, dif_neg not_isEnd, if_neg (not_isIndent no_indent), closing_between, string,
    Option.map_none, isBlank_between]

theorem lex_spaced
    (no_indent : ¬((previous.map (·.kind)).any Token.Kind.opensLine && s.head?.any isSpace))
    (no_string : previous.map (·.kind) = some .quote → Lexeme.closed? s = none) :
    (between (before ++ lead) s (place.past lead) previous).lex =
      some (reading before place previous
        (Lexeme.plain (previous.map (·.kind)) (lead ++ (Lexeme.skipBlanks s).1)
          (Lexeme.skipBlanks s).2)) := by
  have advanced {c : Char} (ascii : c.toNat < 128) (lead s : Text) :
      (between (before ++ lead) (c :: s) (place.past lead) previous).advance =
        between (before ++ (lead ++ [c])) s (place.past (lead ++ [c])) previous := by
    rw [advance_between ascii, Location.past_append, List.append_assoc]
    rfl
  fun_induction Lexeme.skipBlanks s generalizing lead with
  | case1 r =>
    rw [lex_cons no_indent no_string, if_pos (by rfl), advanced (by decide), lex_cons,
      if_neg (by simp [isSpace]), lexPlain_between]
    · simp [isSpace]
    · exact fun _ => rfl
  | case2 c r other space blanks rest same ih =>
    have closes : ¬(previous.map (·.kind)).any Token.Kind.opensLine := by
      simpa [space] using no_indent
    have blank : c = ' ' ∨ c = '\t' := by simpa [isSpace] using space
    have ascii : c.toNat < 128 := by rcases blank with rfl | rfl <;> decide
    have later (quote : previous.map (·.kind) = some .quote) : Lexeme.closed? r = none := by
      have none := no_string quote
      rw [Lexeme.closed?_cons (by rintro rfl; simp at blank) (by rintro rfl; simp at blank)
        (by rintro rfl; simp at blank), Option.map_eq_none_iff] at none
      exact none
    rw [lex_cons (by simp [closes]) no_string, space, Bool.true_or, if_pos rfl, advanced ascii,
      ih (by simp [closes]) later, same, List.append_assoc]
    rfl
  | case3 c r other no_space =>
    have no_return : ¬(c = '\r' ∧ r.head? = some '\n') := by
      rintro ⟨rfl, line⟩
      obtain ⟨t, rfl⟩ := List.head?_eq_some_iff.1 line
      exact other t rfl rfl
    rw [lex_cons no_indent no_string, if_neg (by simpa [no_space] using no_return),
      lexPlain_between, List.append_nil]
  | case4 =>
    rw [lex, dif_pos (isEnd_between.2 rfl), List.append_nil, Lexeme.plain, reading, List.append_nil]
    rfl

theorem lex_between (begun : before = [] → ¬(previous.map (·.kind)).any Token.Kind.opensLine) :
    (between before s place previous).lex =
      some (answering before s place previous (Lexeme.read (previous.map (·.kind)) s)) := by
  cases s with
  | nil =>
    rw [lex, dif_pos (isEnd_between.2 rfl), Lexeme.read_end]
    simp only [answering, reading, List.append_nil]
    rfl
  | cons c r =>
    by_cases indents : (previous.map (·.kind)).any Token.Kind.opensLine && isSpace c
    · obtain ⟨opens, space⟩ := Bool.and_eq_true_iff.1 indents
      have indent : (between before (c :: r) place previous).isIndent := by
        rw [isIndent_between, opens, space, Bool.and_true, Bool.and_true, Bool.not_eq_true',
          Bool.eq_false_iff, Ne, List.isEmpty_iff]
        exact fun empty => begun empty opens
      have unit : Lexeme.read (previous.map (·.kind)) (c :: r) = _ := if_pos indents
      rw [lex, dif_neg not_isEnd, if_pos indent, lexIndent_between, unit]
    have unindented : Lexeme.read (previous.map (·.kind)) (c :: r) = _ := if_neg indents
    rw [unindented]
    cases found : if previous.map (·.kind) = some .quote then Lexeme.closed? (c :: r) else none with
    | some string =>
      obtain ⟨inside, rest⟩ := string
      have whole := Lexeme.closed?_append (Option.ite_none_right_eq_some.1 found).2
      rw [lex, dif_neg not_isEnd, if_neg (not_isIndent indents), closing_between, found, ← whole,
        answering, reading, List.append_nil]
      exact lexString_between inside rest
    | none =>
      have no_string (quote : previous.map (·.kind) = some .quote) :
          Lexeme.closed? (c :: r) = none := by
        rwa [if_pos quote] at found
      have spaced := @lex_spaced before [] (c :: r) place previous indents no_string
      rw [List.append_nil] at spaced
      exact spaced

end Rules

end ByteLexer
end Inlay.Markup
