import Inlay.Proofs.Markup.Outline

namespace Inlay.Markup

/-! ## Strings in quotes -/

namespace Lexeme

theorem unescape_cons {c : Char} {s : Text} (other : c = '\\' → s.head? ≠ some '"') :
    unescape (c :: s) = c :: unescape s := by
  rw [unescape.eq_def (c :: s)]
  split
  · next same => cases same; exact absurd rfl (other rfl)
  · next same => cases same; rfl
  · next same => cases same

theorem closed?_cons {c : Char} {s : Text} (no_break : c ≠ '\n') (no_quote : c ≠ '"')
    (other : c = '\\' → s.head? ≠ some '"') :
    closed? (c :: s) = (closed? s).map fun (inside, rest) => (c :: inside, rest) := by
  rw [closed?.eq_def (c :: s)]
  split
  · next same => cases same
  · next same => cases same; exact absurd rfl (other rfl)
  · next same => cases same; rw [if_neg no_break, if_neg no_quote]

end Lexeme

theorem escapeQuotes_cons {c : Char} {s : Text} (no_quote : c ≠ '"') :
    escapeQuotes (c :: s) = c :: escapeQuotes s := by
  simp [escapeQuotes, no_quote]

theorem escapeQuotes_quote (s : Text) :
    escapeQuotes ('"' :: s) = '\\' :: '"' :: escapeQuotes s := by
  simp [escapeQuotes]

theorem head?_escapeQuotes (s : Text) : (escapeQuotes s).head? ≠ some '"' := by
  cases s with
  | nil => simp [escapeQuotes]
  | cons c s =>
    by_cases quote : c = '"'
    · rw [quote, escapeQuotes_quote]
      simp
    · rw [escapeQuotes_cons quote]
      simpa using quote

theorem unescape_escapeQuotes (s : Text) : Lexeme.unescape (escapeQuotes s) = s := by
  induction s with
  | nil => rfl
  | cons c s ih =>
    by_cases quote : c = '"'
    · rw [quote, escapeQuotes_quote, Lexeme.unescape, ih]
    · rw [escapeQuotes_cons quote, Lexeme.unescape_cons fun _ => head?_escapeQuotes s, ih]

theorem closed?_escapeQuotes {s t : Text} (one_line : '\n' ∉ s)
    (last : s.getLast? = some '\\' → t.head? ≠ some '"') :
    Lexeme.closed? (escapeQuotes s ++ t) =
      (Lexeme.closed? t).map fun (inside, rest) => (escapeQuotes s ++ inside, rest) := by
  induction s with
  | nil =>
    rw [show escapeQuotes [] = [] from rfl, List.nil_append]
    cases Lexeme.closed? t <;> rfl
  | cons c s ih =>
    obtain ⟨no_break, later⟩ := not_or.1 (mt List.mem_cons.2 one_line)
    have ih := ih later fun ends => last (by
      cases s with
      | nil => cases ends
      | cons d s => simpa using ends)
    by_cases quote : c = '"'
    · rw [quote, escapeQuotes_quote, List.cons_append, List.cons_append, Lexeme.closed?, ih,
        Option.map_map]
      rfl
    · have next : c = '\\' → (escapeQuotes s ++ t).head? ≠ some '"' := by
        rintro rfl
        cases s with
        | nil => exact last rfl
        | cons d s =>
          have head := head?_escapeQuotes (d :: s)
          by_cases quote : d = '"'
          · simp [quote, escapeQuotes_quote]
          · simpa [escapeQuotes_cons quote] using quote
      rw [escapeQuotes_cons quote, List.cons_append,
        Lexeme.closed?_cons (Ne.symm no_break) quote next, ih, Option.map_map]
      rfl

theorem closed?_quoted {s : Text} (one_line : '\n' ∉ s) (last : s.getLast? ≠ some '\\') (t : Text) :
    Lexeme.closed? (escapeQuotes s ++ '"' :: t) = some (escapeQuotes s, '"' :: t) := by
  rw [closed?_escapeQuotes one_line fun h => absurd h last,
    show Lexeme.closed? ('"' :: t) = some ([], '"' :: t) from rfl]
  simp

theorem closed?_cut {s : Text} (one_line : '\n' ∉ s) (last : s.getLast? = some '\\') (t : Text) :
    Lexeme.closed? (escapeQuotes s ++ '"' :: '\n' :: t) = none := by
  obtain ⟨first, rfl⟩ := List.getLast?_eq_some_iff.1 last
  have escaped : escapeQuotes (first ++ ['\\']) = escapeQuotes first ++ ['\\'] := by
    simp [escapeQuotes]
  have one_line : '\n' ∉ first := fun member => one_line (List.mem_append_left _ member)
  rw [escaped, List.append_assoc, closed?_escapeQuotes one_line (by simp)]
  rfl

/-! ## Lexemes of a written line -/

namespace Lexeme

theorem skipBlanks_eq {s : Text} (no_blank : ∀ c ∈ s.head?, ¬isSpace c)
    (no_end : ∀ r, s ≠ '\r' :: '\n' :: r) : skipBlanks s = ([], s) := by
  unfold skipBlanks
  split
  · next r => exact absurd rfl (no_end r)
  · next c r _ => rw [if_neg (no_blank c rfl)]
  · rfl

theorem read_eq_plain {previous : Option Token.Kind} {s : Text}
    (no_blank : ∀ c ∈ s.head?, ¬isSpace c) (no_end : ∀ r, s ≠ '\r' :: '\n' :: r)
    (quote : previous = some .quote → closed? s = none) :
    read previous s = .ok (plain previous [] s) := by
  have no_indent : (previous.any Token.Kind.opensLine && s.head?.any isSpace) = false := by
    cases head : s.head? with
    | none => simp
    | some c => simp [no_blank c head]
  have closed : (if previous = some .quote then closed? s else none) = none := by
    split
    · next same => exact quote same
    · rfl
  rw [read, no_indent, closed]
  simp [spaced, skipBlanks_eq no_blank no_end]

theorem read_lineBreak (previous : Option Token.Kind) (s : Text) :
    read previous ('\n' :: s) = .ok ⟨[], .lineBreak, ['\n'], ['\n'], s⟩ := by
  refine (read_eq_plain (fun c head => ?_) (by simp) fun _ => ?_).trans rfl
  · cases head; decide
  · simp [closed?]

theorem read_end (previous : Option Token.Kind) :
    read previous [] = .ok ⟨[], .endOfInput, [], [], []⟩ := by
  refine (read_eq_plain (fun c head => ?_) (by simp) fun _ => ?_).trans rfl
  · cases head
  · simp [closed?]

theorem plain_of_letter {previous : Option Token.Kind} {lead : Text} {c : Char} {r : Text}
    (no_quote : c ≠ '"') (no_colon : c ≠ ':') (no_break : c ≠ '\n') :
    plain previous lead (c :: r) =
      if c = '\\' ∨ c = '!' then
        if r.head?.any isNameChar then
          marked lead (if c = '\\' then .component else .flag) c r
        else line lead (c :: r)
      else word previous lead (c :: r) := by
  unfold plain
  split
  · next same => cases same
  · next same => cases same; exact absurd rfl no_quote
  · next same => cases same; exact absurd rfl no_colon
  · next same => cases same; exact absurd rfl no_break
  · next same => cases same; rfl

theorem read_marked {name s : Text} (isName : IsName name) {mark : Char}
    (marks : mark = '\\' ∨ mark = '!') :
    read none (mark :: name ++ '\n' :: s) =
      .ok ⟨[], if mark = '\\' then .component else .flag, mark :: name, name, '\n' :: s⟩ := by
  have first : (name ++ '\n' :: s).head?.any isNameChar := by
    cases name with
    | nil => exact absurd rfl isName.1
    | cons c r => exact isName.2 c List.mem_cons_self
  have whole := Text.split_of_stop (r := s) isName.2 (show ¬isNameChar '\n' by decide)
  rw [read_eq_plain]
  · rcases marks with rfl | rfl
    · rw [List.cons_append, plain_of_letter (by decide) (by decide) (by decide)]
      simp only [first, if_true, marked, whole]
      rfl
    · rw [List.cons_append, plain_of_letter (by decide) (by decide) (by decide)]
      simp only [first, if_true, marked, whole]
      rfl
  · rcases marks with rfl | rfl
    · intro c head; cases head; decide
    · intro c head; cases head; decide
  · rcases marks with rfl | rfl <;> simp
  · simp

theorem plain_of_isNameChar {previous : Option Token.Kind} {lead : Text} {c : Char} {r : Text}
    (name : isNameChar c) : plain previous lead (c :: r) = word previous lead (c :: r) := by
  have other (d : Char) (no : isNameChar d = false) : c ≠ d := by
    rintro rfl
    rw [name] at no
    cases no
  rw [plain_of_letter (other '"' (by decide)) (other ':' (by decide)) (other '\n' (by decide)),
    if_neg (not_or.2 ⟨other '\\' (by decide), other '!' (by decide)⟩)]

theorem isSpace_of_isNameChar {c : Char} (name : isNameChar c) : ¬isSpace c := by
  intro space
  rcases Bool.or_eq_true_iff.1 space with blank | tab
  · rw [beq_iff_eq.1 blank] at name
    cases name
  · rw [beq_iff_eq.1 tab] at name
    cases name

theorem read_property {name s : Text} (isName : IsName name) :
    read none (name ++ ':' :: s) = .ok ⟨[], .property, name, name, ':' :: s⟩ := by
  obtain ⟨nonempty, chars⟩ := isName
  have found := property?_of_name (r := s) chars
  cases name with
  | nil => exact absurd rfl nonempty
  | cons c r =>
    have first : isNameChar c := chars c List.mem_cons_self
    rw [List.cons_append] at found ⊢
    rw [read_eq_plain]
    · rw [plain_of_isNameChar first, word, if_neg (by simp)]
      simp [found]
    · intro d head
      cases head
      exact isSpace_of_isNameChar first
    · intro t same
      rw [(List.cons.inj same).1] at first
      cases first
    · simp

theorem property?_inside {s r : Text} {c : Char} {found : Text × Text}
    (h : property? (s ++ c :: r) = some found) (other : ¬isNameChar c ∧ c ≠ ':') :
    ∃ name t, s = name ++ ':' :: t ∧ ∀ d ∈ name, isNameChar d := by
  obtain ⟨name, rest⟩ := found
  have whole := property?_append h
  obtain ⟨chars, t, rfl⟩ := property?_named h
  rcases List.append_eq_append_iff.1 whole with ⟨u, left, right⟩ | ⟨u, left, right⟩
  · cases u with
    | nil => exact absurd (List.cons.inj right).1.symm other.2
    | cons d u =>
      obtain ⟨rfl, -⟩ := List.cons.inj right
      exact ⟨name, u, left, chars⟩
  · cases u with
    | nil => exact absurd (List.cons.inj right).1 other.2
    | cons d u =>
      obtain ⟨rfl, -⟩ := List.cons.inj right
      exact absurd (chars _ (left ▸ List.mem_append_right s List.mem_cons_self)) other.1

theorem read_text {s r : Text} (h : Plain s) :
    read none (s ++ '\n' :: r) = .ok ⟨[], .text, s, s, '\n' :: r⟩ := by
  have whole : line [] (s ++ '\n' :: r) = ⟨[], .text, s, s, '\n' :: r⟩ := by
    have all : ∀ c ∈ s, (c != '\n') = true := by
      intro c member
      simp only [bne_iff_ne, ne_eq]
      rintro rfl
      exact h.one_line member
    have value : Text.dropEnd (· == '\r') s = s := by
      refine Text.dropEnd_eq_self fun c last same => ?_
      rw [beq_iff_eq.1 same] at last
      exact h.no_return last
    rw [line, Text.split_of_stop all (by simp)]
    simp [value]
  obtain ⟨c, t, rfl⟩ := List.exists_cons_of_ne_nil h.nonempty
  have blank : ¬isSpace c := by
    obtain ⟨no_space, no_tab⟩ := h.no_blank c t rfl
    simp [isSpace, no_space, no_tab]
  have no_end : ∀ u, c :: t ++ '\n' :: r ≠ '\r' :: '\n' :: u := by
    intro u same
    cases t with
    | nil =>
      cases same
      exact h.no_return rfl
    | cons d t =>
      cases same
      exact h.one_line (by simp)
  obtain ⟨no_quote, no_colon⟩ := h.no_sign c t rfl
  have no_break : c ≠ '\n' := fun same => h.one_line (same ▸ List.mem_cons_self)
  have no_property : property? (c :: t ++ '\n' :: r) = none := by
    cases found : property? (c :: t ++ '\n' :: r) with
    | none => rfl
    | some same =>
      obtain ⟨name, u, inside, chars⟩ := property?_inside found (by decide)
      exact absurd chars (h.no_property name u inside)
  rw [read_eq_plain (fun d head => by cases head; exact blank) no_end (by simp), List.cons_append,
    plain_of_letter no_quote no_colon no_break]
  by_cases mark : c = '\\' ∨ c = '!'
  · have no_name : (t ++ '\n' :: r).head?.any isNameChar = false := by
      cases t with
      | nil => rfl
      | cons m t => exact Bool.eq_false_iff.2 (h.no_mark c m t rfl mark)
    rw [if_pos mark, no_name, if_neg (by simp)]
    exact congrArg _ whole
  · rw [if_neg mark, word, if_neg (by simp)]
    rw [List.cons_append] at no_property
    simp only [no_property]
    exact congrArg _ whole

theorem read_congr {previous previous' : Option Token.Kind} {s : Text}
    (no_blank : ∀ c ∈ s.head?, ¬isSpace c)
    (other : ∀ kind, kind = .quote ∨ kind = .colon → previous ≠ some kind)
    (other' : ∀ kind, kind = .quote ∨ kind = .colon → previous' ≠ some kind) :
    read previous s = read previous' s := by
  have no_indent (p : Option Token.Kind) :
      (p.any Token.Kind.opensLine && s.head?.any isSpace) = false := by
    cases head : s.head? with
    | none => simp
    | some c => simp [no_blank c head]
  have same (lead t : Text) : plain previous lead t = plain previous' lead t := by
    simp only [plain, word, if_neg (other .colon (.inr rfl)), if_neg (other' .colon (.inr rfl))]
  rw [read, read, no_indent, no_indent, if_neg (other .quote (.inl rfl)),
    if_neg (other' .quote (.inl rfl)), spaced, spaced]
  simp only [same]

theorem read_colon (s : Text) :
    read (some .property) (':' :: s) = .ok ⟨[], .colon, [':'], [':'], s⟩ := by
  refine (read_eq_plain (fun c head => ?_) (by simp) (by simp)).trans rfl
  cases head
  decide

theorem read_opening (s : Text) :
    read (some .colon) (' ' :: '"' :: s) = .ok ⟨[' '], .quote, ['"'], ['"'], s⟩ := rfl

theorem read_contents {s inside rest : Text} (h : closed? s = some (inside, rest)) :
    read (some .quote) s = .ok ⟨[], .text, inside, unescape inside, rest⟩ := by
  simp [read, Token.Kind.opensLine, h]

theorem read_closing (s : Text) :
    read (some .text) ('"' :: s) = .ok ⟨[], .quote, ['"'], ['"'], s⟩ := rfl

end Lexeme

/-! ## Reading on from a place -/

def Reads (previous : Option Token.Kind) (r : Reader) (s : Text) (result : Option (List Entry)) :
    Prop :=
  ∀ l : Lexer, l.rest = s → l.previous.map (·.kind) = previous →
    ((Stream.ofLexer l).entries? r).map (·.map Entry.bare) = result

namespace Reads

variable {previous : Option Token.Kind} {r : Reader} {s : Text} {x : Lexeme}
  {result : Option (List Entry)}

theorem lexeme_eq {l : Lexer} (rest : l.rest = s) (kind : l.previous.map (·.kind) = previous)
    (read : Lexeme.read previous s = .ok x) : l.lexeme = .ok x := by
  rw [Lexer.lexeme, rest, kind, read]

theorem pass {r' : Reader} (read : Lexeme.read previous s = .ok x) (more : x.kind ≠ .endOfInput)
    (step : ∀ place, r.step ⟨x.kind, x.value, place⟩ = some (none, r'))
    (later : Reads (some x.kind) r' x.rest result) : Reads previous r s result := by
  intro l rest kind
  rw [Stream.ofLexer_cons (lexeme_eq rest kind read) more, Stream.entries?,
    show r.step (l.token x) = some (none, r') from step _, ← later (l.after x) rfl rfl]
  simp

theorem take {e : Location → Entry} {bare : Entry} {r' : Reader}
    (read : Lexeme.read previous s = .ok x) (more : x.kind ≠ .endOfInput)
    (step : ∀ place, r.step ⟨x.kind, x.value, place⟩ = some (some (e place), r'))
    (same : ∀ place, (e place).bare = bare) (later : Reads (some x.kind) r' x.rest result) :
    Reads previous r s (result.map (bare :: ·)) := by
  intro l rest kind
  rw [Stream.ofLexer_cons (lexeme_eq rest kind read) more, Stream.entries?,
    show r.step (l.token x) = some (some (e (l.location.past x.lead)), r') from step _,
    ← later (l.after x) rfl rfl]
  simp only [Option.bind_eq_bind, Option.bind_some]
  cases (Stream.ofLexer (l.after x)).entries? r' with
  | none => rfl
  | some es => simp [same]

theorem refuse (read : Lexeme.read previous s = .ok x) (more : x.kind ≠ .endOfInput)
    (step : ∀ place, r.step ⟨x.kind, x.value, place⟩ = none) : Reads previous r s none := by
  intro l rest kind
  rw [Stream.ofLexer_cons (lexeme_eq rest kind read) more, Stream.entries?,
    show r.step (l.token x) = none from step _]
  rfl

theorem stop (read : Lexeme.read previous s = .ok x) (ended : x.kind = .endOfInput) :
    Reads previous r s (match r with | .item _ => some [] | .property .. => none) := by
  intro l rest kind
  rw [Stream.ofLexer_ended (lexeme_eq rest kind read) ended]
  cases r <;> rfl

theorem congr {previous' : Option Token.Kind} (h : Reads previous' r s result)
    (same : Lexeme.read previous s = Lexeme.read previous' s) : Reads previous r s result := by
  intro l rest kind
  have lexeme : l.lexeme =
      Lexer.lexeme { l with previous := previous'.map fun kind => ⟨kind, [], l.location⟩ } := by
    rw [Lexer.lexeme, Lexer.lexeme, rest, kind, same]
    simp [Function.comp_def]
  rw [Stream.ofLexer_congr lexeme rfl]
  refine h _ rest ?_
  simp [Function.comp_def]

theorem line_end {level : Nat} (later : Reads (some .lineBreak) (.item 0) s result) :
    Reads previous (.item level) ('\n' :: s) result :=
  pass (Lexeme.read_lineBreak previous s) (by simp) (fun _ => rfl) later

theorem indented {kind : Token.Kind} (opens : kind.opensLine) {n level : Nat}
    (no_blank : ∀ c ∈ s.head?, ¬isSpace c) (later : Reads none (.item (level + n)) s result) :
    Reads (some kind) (.item level) (indentation n ++ s) result := by
  induction n generalizing kind level with
  | zero =>
    have other : ∀ k, k = .quote ∨ k = .colon → some kind ≠ some k := by
      rintro k (rfl | rfl) ⟨⟩ <;> cases opens
    exact later.congr (Lexeme.read_congr no_blank other (by simp))
  | succ n ih =>
    have spaces : indentation (n + 1) ++ s = ' ' :: ' ' :: ' ' :: ' ' :: (indentation n ++ s) := by
      simp [indentation, Nat.mul_succ, List.replicate_succ]
    have read : Lexeme.read (some kind) (indentation (n + 1) ++ s) =
        .ok ⟨[], .indent, [' ', ' ', ' ', ' '], ['\t'], indentation n ++ s⟩ := by
      rw [spaces, Lexeme.read]
      simp [opens, isSpace, Lexeme.indent]
    have rest : Reads (some .indent) (.item (level + 1)) (indentation n ++ s) result :=
      ih rfl (by rwa [Nat.add_assoc, Nat.add_comm 1])
    exact pass read (by simp) (fun _ => rfl) rest

theorem name {name : Text} (isName : IsName name) {level : Nat}
    (later : Reads (some .colon) (.property level name .value) s result) :
    Reads none (.item level) (name ++ ':' :: s) result := by
  have colon : Reads (some .property) (.property level name .colon) (':' :: s) result :=
    pass (Lexeme.read_colon s) (by simp) (fun _ => rfl) later
  exact pass (Lexeme.read_property isName) (by simp) (fun _ => rfl) colon

theorem unclosed {level : Nat} {name : Text} (h : Lexeme.closed? s = none) :
    Reads (some .quote) (.property level name .contents) s none := by
  obtain ⟨x, same⟩ : ∃ x, x = Lexeme.spaced (some .quote) s := ⟨_, rfl⟩
  have read : Lexeme.read (some .quote) s = .ok x := by
    simp [Lexeme.read, Token.Kind.opensLine, h, same]
  by_cases ended : x.kind = .endOfInput
  · exact stop read ended
  by_cases text : x.kind = .text
  · -- The text goes up to the end of the line, so that no quote comes after it.
    have stops : ∀ c ∈ x.rest.head?, c = '\n' := by
      rw [same] at text ⊢
      exact Lexeme.plain_stops text
    have later : Reads (some x.kind) (.property level name (.closing x.value)) x.rest none := by
      cases rest : x.rest with
      | nil => exact stop (Lexeme.read_end _) rfl
      | cons c t =>
        rw [stops c (by rw [rest]; rfl)]
        exact refuse (Lexeme.read_lineBreak _ _) (by simp) fun _ => rfl
    exact pass read ended (fun place => by rw [text]; rfl) later
  · refine refuse read ended fun place => ?_
    simp only [Reader.step]
    split <;> simp_all

end Reads

/-! ## Written lines -/

def Entry.read? (e : Entry) (result : Option (List Entry)) : Option (List Entry) :=
  match e.item with
  | .text [] => result
  | .string _ s | .number _ s =>
    if s.getLast? = some '\\' then none else result.map (e.bare :: ·)
  | _ => result.map (e.bare :: ·)

theorem Reads.string {name contents s : Text} {result : Option (List Entry)} (isName : IsName name)
    (one_line : '\n' ∉ contents) {level : Nat}
    (later : Reads (some .lineBreak) (.item 0) s result) :
    Reads none (.item level)
      (name ++ [':', ' ', '"'] ++ escapeQuotes contents ++ ['"'] ++ '\n' :: s)
      (if contents.getLast? = some '\\' then none
        else result.map (⟨level, .string name contents⟩ :: ·)) := by
  simp only [List.append_assoc, List.cons_append, List.nil_append]
  have opening (h : Reads (some .quote) (.property level name .contents)
      (escapeQuotes contents ++ '"' :: '\n' :: s) (if contents.getLast? = some '\\' then none
        else result.map (⟨level, .string name contents⟩ :: ·))) :
      Reads (some .colon) (.property level name .value)
        (' ' :: '"' :: (escapeQuotes contents ++ '"' :: '\n' :: s)) _ :=
    pass (Lexeme.read_opening _) (by simp) (fun _ => rfl) h
  refine Reads.name isName (opening ?_)
  split
  · next last => exact unclosed (closed?_cut one_line last s)
  · next last =>
    have quote : Reads (some .text) (.property level name (.closing contents)) ('"' :: '\n' :: s)
        (result.map (⟨level, .string name contents⟩ :: ·)) :=
      take (Lexeme.read_closing _) (by simp) (fun _ => rfl) (fun _ => rfl) (line_end later)
    refine pass (Lexeme.read_contents (closed?_quoted one_line last _)) (by simp)
      (fun _ => ?_) quote
    rw [unescape_escapeQuotes]
    rfl

theorem Reads.line {e : Entry} {s : Text} {result : Option (List Entry)}
    (of : e.item.Of Line ('\n' ∉ ·)) (later : Reads (some .lineBreak) (.item 0) s result) :
    Reads none (.item e.level) (e.item.written ++ '\n' :: s) (e.read? result) := by
  obtain ⟨level, item⟩ := e
  cases item with
  | component name location =>
    exact take (Lexeme.read_marked of (.inl rfl)) (by simp) (fun _ => rfl) (fun _ => rfl)
      (line_end later)
  | text contents =>
    cases contents with
    | nil => exact line_end later
    | cons c r =>
      exact take (Lexeme.read_text (of (List.cons_ne_nil c r))) (by simp) (fun _ => rfl)
        (fun _ => rfl) (line_end later)
  | flag name =>
    exact take (Lexeme.read_marked of (.inr rfl)) (by simp) (fun _ => rfl) (fun _ => rfl)
      (line_end later)
  | string name contents => exact Reads.string of.1 of.2 later
  | number name contents => exact Reads.string of.1 of.2 later
  | block name opening =>
    have line : Reads (some .colon) (.property level name .value) ('\n' :: s)
        (result.map (⟨level, .block name .start⟩ :: ·)) :=
      take (Lexeme.read_lineBreak _ _) (by simp) (fun _ => rfl) (fun _ => rfl) later
    have whole := Reads.name of line
    rwa [show name ++ ':' :: '\n' :: s = name ++ [':'] ++ '\n' :: s by simp] at whole

theorem Item.no_blank_written {item : Item} (of : item.Of Line ('\n' ∉ ·)) (s : Text) :
    ∀ c ∈ (item.written ++ '\n' :: s).head?, ¬isSpace c := by
  have named {name : Text} (isName : IsName name) (t : Text) :
      ∀ c ∈ (name ++ t).head?, ¬isSpace c := by
    obtain ⟨c, r, rfl⟩ := List.exists_cons_of_ne_nil isName.1
    intro d head
    cases head
    exact Lexeme.isSpace_of_isNameChar (isName.2 c List.mem_cons_self)
  cases item with
  | component name location => intro c head; cases head; decide
  | text contents =>
    cases contents with
    | nil => intro c head; cases head; decide
    | cons c r =>
      intro d head
      cases head
      obtain ⟨no_space, no_tab⟩ := (of (List.cons_ne_nil c r)).no_blank c r rfl
      simp [isSpace, no_space, no_tab]
  | flag name => intro c head; cases head; decide
  | block name opening =>
    simp only [written, List.append_assoc]
    exact named of _
  | _ =>
    simp only [written, List.append_assoc]
    exact named of.1 _

theorem Reads.lines {es : List Entry} (of : ∀ e ∈ es, e.item.Of Line ('\n' ∉ ·)) :
    Reads (some .lineBreak) (.item 0) (es.flatMap Entry.written)
      (es.foldr Entry.read? (some [])) := by
  induction es with
  | nil => exact stop (Lexeme.read_end _) rfl
  | cons e es ih =>
    obtain ⟨here, later⟩ := List.forall_mem_cons.1 of
    have line := Reads.line here (ih later)
    have whole : (e :: es).flatMap Entry.written =
        indentation e.level ++ (e.item.written ++ '\n' :: es.flatMap Entry.written) := by
      simp [Entry.written, writeLine]
    rw [whole]
    exact indented rfl (Item.no_blank_written here _) (by rwa [Nat.zero_add])

theorem Document.entries?_toMarkup {d : Document}
    (of : ∀ e ∈ nodesEntries 0 d.nodes, e.item.Of Line ('\n' ∉ ·)) :
    ((Stream.ofText d.toMarkup).entries? (.item 0)).map (·.map Entry.bare) =
      (nodesEntries 0 d.nodes).foldr Entry.read? (some []) := by
  have no_blank : ∀ c ∈ d.toMarkup.head?, ¬isSpace c := by
    rw [Document.toMarkup_eq]
    cases first : nodesEntries 0 d.nodes with
    | nil => exact fun c head => nomatch head
    | cons e es =>
      have level : e.level = 0 := head_nodesEntries e (by rw [first]; rfl)
      have here := of e (by rw [first]; exact List.mem_cons_self)
      simpa [Entry.written, writeLine, level, indentation] using
        Item.no_blank_written here (es.flatMap Entry.written)
  have lines := Reads.lines of
  rw [← Document.toMarkup_eq] at lines
  -- No line end is in front of the first line, but nothing would be different if one were.
  have start : Reads none (.item 0) d.toMarkup _ :=
    lines.congr (Lexeme.read_congr no_blank (by simp) (by simp))
  exact start (.start d.toMarkup) rfl rfl

end Inlay.Markup
