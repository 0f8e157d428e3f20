import Inlay.Markup.Token

/-!
# Lexemes

A lexeme is one token as it stands in the text: the blanks in front of it, the characters it is
made of, what they mean, and what follows.  Which lexeme a text begins with depends on one thing
besides the text: the kind of the token before it.

* After a line break or an indent, spaces and tabs are indentation.
* After a quote that is closed on the same line, everything up to the closing quote is a text.
* After a colon, a number that ends its line is a number.

Main statements:

* `read_tiles` — blanks, characters and what follows make up the text that was read;
* `read_progress` — a lexeme takes at least one character, but for the end of the input and the
  empty string between two quotes.
-/

namespace Inlay.Markup

def isNameChar (c : Char) : Bool := Text.isLetter c || Text.isDigit c || c == '_'

def isSpace (c : Char) : Bool := c == ' ' || c == '\t'

structure Lexeme where
  lead : Text
  kind : Token.Kind
  source : Text
  value : Text
  rest : Text

namespace Lexeme

def skipBlanks : Text → Text × Text
  | '\r' :: '\n' :: r => (['\r'], '\n' :: r)
  | c :: r =>
    if isSpace c then let (lead, rest) := skipBlanks r; (c :: lead, rest)
    else ([], c :: r)
  | [] => ([], [])

/-- The inside of a string that is closed on its line, and the text from the closing quote on.  A
quote after a backslash does not close. -/
def closed? : Text → Option (Text × Text)
  | [] => none
  | '\\' :: '"' :: r => (closed? r).map fun (inside, rest) => ('\\' :: '"' :: inside, rest)
  | c :: r =>
    if c = '\n' then none
    else if c = '"' then some ([], c :: r)
    else (closed? r).map fun (inside, rest) => (c :: inside, rest)

def unescape : Text → Text
  | '\\' :: '"' :: r => '"' :: unescape r
  | c :: r => c :: unescape r
  | [] => []

def isDigits (s : Text) : Bool := !s.isEmpty && s.all Text.isDigit

def isNumber (s : Text) : Bool :=
  let unsigned := match s with
    | '-' :: r => r
    | _ => s
  match Text.split (· != '.') unsigned with
  | (whole, _ :: fraction) => isDigits whole && isDigits fraction
  | (whole, []) => isDigits whole

def number? (s : Text) : Option (Text × Text) :=
  let literal := Text.dropEnd (fun c => isSpace c || c == '\r') (s.takeWhile (· != '\n'))
  if isNumber literal then some (literal, s.drop literal.length) else none

def property? (s : Text) : Option (Text × Text) :=
  match Text.split isNameChar s with
  | (name, ':' :: rest) => some (name, ':' :: rest)
  | _ => none

/-- The rest of a line; carriage returns at its end belong to it but not to its value. -/
def line (lead s : Text) : Lexeme :=
  let (source, rest) := Text.split (· != '\n') s
  ⟨lead, .text, source, Text.dropEnd (· == '\r') source, rest⟩

def marked (lead : Text) (kind : Token.Kind) (mark : Char) (s : Text) : Lexeme :=
  let (name, rest) := Text.split isNameChar s
  ⟨lead, kind, mark :: name, name, rest⟩

def word (previous : Option Token.Kind) (lead s : Text) : Lexeme :=
  match (if previous = some .colon then number? s else none) with
  | some (literal, rest) => ⟨lead, .number, literal, literal, rest⟩
  | none => match property? s with
    | some (name, rest) => ⟨lead, .property, name, name, rest⟩
    | none => line lead s

def plain (previous : Option Token.Kind) (lead : Text) : Text → Lexeme
  | [] => ⟨lead, .endOfInput, [], [], []⟩
  | '"' :: r => ⟨lead, .quote, ['"'], ['"'], r⟩
  | ':' :: r => ⟨lead, .colon, [':'], [':'], r⟩
  | '\n' :: r => ⟨lead, .lineBreak, ['\n'], ['\n'], r⟩
  | c :: r =>
    if c = '\\' ∨ c = '!' then
      if (r.head?.any isNameChar) then
        marked lead (if c = '\\' then .component else .flag) c r
      else line lead (c :: r)
    else word previous lead (c :: r)

/-- One step of indentation.  Fewer than four spaces are an error, which tells them. -/
def indent (s : Text) : Except Text Lexeme :=
  match s with
  | '\t' :: r => .ok ⟨[], .indent, ['\t'], ['\t'], r⟩
  | ' ' :: ' ' :: ' ' :: ' ' :: r => .ok ⟨[], .indent, [' ', ' ', ' ', ' '], ['\t'], r⟩
  | s => .error (s.takeWhile (· == ' '))

def spaced (previous : Option Token.Kind) (s : Text) : Lexeme :=
  let (lead, rest) := skipBlanks s
  plain previous lead rest

def read (previous : Option Token.Kind) (s : Text) : Except Text Lexeme :=
  if previous.any Token.Kind.opensLine && s.head?.any isSpace then indent s
  else match (if previous = some .quote then closed? s else none) with
    | some (inside, rest) => .ok ⟨[], .text, inside, unescape inside, rest⟩
    | none => .ok (spaced previous s)

theorem skipBlanks_append (s : Text) : (skipBlanks s).1 ++ (skipBlanks s).2 = s := by
  fun_induction skipBlanks s <;> simp_all

theorem closed?_append {s inside rest : Text} (h : closed? s = some (inside, rest)) :
    inside ++ rest = s := by
  fun_induction closed? s generalizing inside rest with
  | case1 => simp at h
  | case2 r ih =>
    obtain ⟨⟨i, t⟩, found, same⟩ := Option.map_eq_some_iff.1 h
    grind
  | case3 => simp at h
  | case4 => simp_all
  | case5 c r _ _ _ ih =>
    obtain ⟨⟨i, t⟩, found, same⟩ := Option.map_eq_some_iff.1 h
    grind

theorem number?_append {s literal rest : Text} (h : number? s = some (literal, rest)) :
    literal ++ rest = s := by
  simp only [number?, Option.ite_none_right_eq_some, Option.some.injEq, Prod.mk.injEq] at h
  obtain ⟨_, rfl, rfl⟩ := h
  exact List.prefix_iff_eq_append.1
    ((Text.dropEnd_initial _ _).trans (List.takeWhile_prefix (· != '\n')))

theorem number?_ne_nil {s literal rest : Text} (h : number? s = some (literal, rest)) :
    literal ≠ [] := by
  simp only [number?, Option.ite_none_right_eq_some, Option.some.injEq, Prod.mk.injEq] at h
  obtain ⟨number, rfl, rfl⟩ := h
  intro empty
  simp [empty, isNumber, isDigits, Text.split] at number

theorem property?_append {s name rest : Text} (h : property? s = some (name, rest)) :
    name ++ rest = s := by
  have whole := Text.split_append isNameChar s
  unfold property? at h
  split at h
  · next found => rw [found] at whole; simp_all
  · simp at h

def Tiles (x : Lexeme) (s : Text) : Prop := x.lead ++ x.source ++ x.rest = s

theorem line_tiles (lead s : Text) : (line lead s).Tiles (lead ++ s) := by
  simp [line, Tiles, Text.split]

theorem marked_tiles (lead : Text) (kind : Token.Kind) (mark : Char) (s : Text) :
    (marked lead kind mark s).Tiles (lead ++ mark :: s) := by
  simp [marked, Tiles, Text.split]

theorem word_tiles (previous : Option Token.Kind) (lead s : Text) :
    (word previous lead s).Tiles (lead ++ s) := by
  unfold word
  split
  · next literal rest found =>
    split at found
    · simp [Tiles, number?_append found]
    · simp at found
  · split
    · next name rest found => simp [Tiles, property?_append found]
    · exact line_tiles lead s

theorem plain_tiles (previous : Option Token.Kind) (lead s : Text) :
    (plain previous lead s).Tiles (lead ++ s) := by
  unfold plain
  split
  · simp [Tiles]
  · simp [Tiles]
  · simp [Tiles]
  · simp [Tiles]
  · split
    · split
      · exact marked_tiles ..
      · exact line_tiles ..
    · exact word_tiles ..

theorem spaced_tiles (previous : Option Token.Kind) (s : Text) :
    (spaced previous s).Tiles s := by
  have blanks := skipBlanks_append s
  have rest := plain_tiles previous (skipBlanks s).1 (skipBlanks s).2
  rwa [blanks] at rest

theorem indent_tiles {s : Text} {x : Lexeme} (h : indent s = .ok x) : x.Tiles s := by
  unfold indent at h
  split at h
  · cases h; simp [Tiles]
  · cases h; simp [Tiles]
  · cases h

theorem read_tiles {previous : Option Token.Kind} {s : Text} {x : Lexeme}
    (h : read previous s = .ok x) : x.Tiles s := by
  unfold read at h
  split at h
  · exact indent_tiles h
  · split at h
    · next inside rest found =>
      cases h
      split at found
      · simp [Tiles, closed?_append found]
      · simp at found
    · cases h
      exact spaced_tiles previous s

theorem word_source_ne_nil (previous : Option Token.Kind) (lead : Text) {c : Char} {r : Text}
    (no_colon : c ≠ ':') (no_break : c ≠ '\n') : (word previous lead (c :: r)).source ≠ [] := by
  unfold word
  split
  · next literal rest found =>
    split at found
    · exact number?_ne_nil found
    · simp at found
  · split
    · next name rest found =>
      have whole := property?_append found
      intro empty
      simp only at empty
      subst empty
      unfold property? at found
      split at found
      · grind
      · simp at found
    · simp [line, Text.split, no_break]

theorem plain_progress (previous : Option Token.Kind) (lead s : Text) :
    (plain previous lead s).kind = .endOfInput ∨ (plain previous lead s).source ≠ [] := by
  unfold plain
  split
  · exact .inl rfl
  · exact .inr (by simp)
  · exact .inr (by simp)
  · exact .inr (by simp)
  · next c r _ no_colon no_break =>
    right
    split
    · split
      · simp [marked]
      · have no_break : c ≠ '\n' := no_break
        simp [line, Text.split, no_break]
    · exact word_source_ne_nil previous lead no_colon no_break

theorem read_progress {previous : Option Token.Kind} {s : Text} {x : Lexeme}
    (h : read previous s = .ok x) :
    x.kind = .endOfInput ∨ x.source ≠ [] ∨ (previous = some .quote ∧ x.kind = .text) := by
  unfold read at h
  split at h
  · unfold indent at h
    split at h
    · cases h; simp
    · cases h; simp
    · cases h
  · split at h
    · next found =>
      cases h
      split at found
      · next quote => exact .inr (.inr ⟨quote, rfl⟩)
      · simp at found
    · cases h
      exact (plain_progress previous _ _).imp_right .inl

end Lexeme
end Inlay.Markup
