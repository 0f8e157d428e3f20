import Inlay.Proofs.Markup.Levels
import Inlay.Proofs.Markup.Lookahead
import Mathlib.Data.List.Basic

namespace Inlay.Markup

inductive Units : Nat → Text → Prop
  | none : Units 0 []
  | tab {n : Nat} {u : Text} : Units n u → Units (n + 1) ('\t' :: u)
  | spaces {n : Nat} {u : Text} : Units n u → Units (n + 1) (' ' :: ' ' :: ' ' :: ' ' :: u)

/-- Whether nothing but blanks stands in front of the end of a line.  A carriage return is a blank
in front of a line feed only; anywhere else it is text. -/
def Blank (content ending : Text) : Prop := (Lexeme.skipBlanks (content ++ ending)).2 = ending

/-- Whether two lines are the same but for their units, and a map takes the depth of one to that of
the other unless they are blank. -/
inductive Shifted (f : Nat → Nat) (ending : Text) : Text → Text → Prop
  | line {n n' : Nat} {u u' content : Text} : Units n u → Units n' u' → '\n' ∉ content →
      Lexeme.NoUnit content → n' = f n ∨ Blank content ending →
      Shifted f ending (u ++ content) (u' ++ content)

/-- Whether two texts are the same line by line but for their units, and a map takes the depths of
one to those of the other. -/
inductive Reindented (f : Nat → Nat) : Text → Text → Prop
  | last {l l' : Text} : Shifted f [] l l' → Reindented f l l'
  | line {l l' s s' : Text} : Shifted f ['\n'] l l' → Reindented f s s' →
      Reindented f (l ++ '\n' :: s) (l' ++ '\n' :: s')

theorem Units.replicate (n : Nat) : Units n (List.replicate n '\t') := by
  induction n with
  | zero => exact .none
  | succ n ih => exact .tab ih

theorem exists_units (l : Text) : ∃ n u content, l = u ++ content ∧ Units n u ∧
    Lexeme.NoUnit content := by
  induction size : l.length using Nat.strong_induction_on generalizing l with
  | h k ih =>
    by_cases tab : ∃ r, l = '\t' :: r
    · obtain ⟨r, rfl⟩ := tab
      obtain ⟨n, u, content, rfl, units, none⟩ := ih r.length (by rw [← size]; simp) r rfl
      exact ⟨n + 1, '\t' :: u, content, rfl, .tab units, none⟩
    by_cases spaces : ∃ r, l = ' ' :: ' ' :: ' ' :: ' ' :: r
    · obtain ⟨r, rfl⟩ := spaces
      obtain ⟨n, u, content, rfl, units, none⟩ := ih r.length (by rw [← size]; simp; omega) r rfl
      exact ⟨n + 1, ' ' :: ' ' :: ' ' :: ' ' :: u, content, rfl, .spaces units, none⟩
    exact ⟨0, [], l, rfl, .none, fun r same => tab ⟨r, same⟩, fun r same => spaces ⟨r, same⟩⟩

theorem exists_shifted (f : Nat → Nat) (ending : Text) {l : Text} (no_break : '\n' ∉ l) :
    ∃ l', Shifted f ending l l' := by
  obtain ⟨n, u, content, rfl, units, none⟩ := exists_units l
  have no_break : '\n' ∉ content := fun member => no_break (List.mem_append_right u member)
  exact ⟨_, .line units (.replicate (f n)) no_break none (.inl rfl)⟩

theorem exists_reindented (f : Nat → Nat) (s : Text) : ∃ s', Reindented f s s' := by
  induction size : s.length using Nat.strong_induction_on generalizing s with
  | h k ih =>
    have whole := Text.split_append (· != '\n') s
    have no_break : '\n' ∉ (Text.split (· != '\n') s).1 := fun member => by
      have inside := List.mem_takeWhile_imp member
      simp at inside
    have stop := List.head?_dropWhile_not (· != '\n') s
    rw [Text.split] at whole no_break
    cases left : s.dropWhile (· != '\n') with
    | nil =>
      rw [left, List.append_nil] at whole
      obtain ⟨l', shifted⟩ := exists_shifted f [] no_break
      exact ⟨l', whole ▸ .last shifted⟩
    | cons c r =>
      rw [left] at whole stop
      obtain rfl : c = '\n' := by simpa using stop
      obtain ⟨l', shifted⟩ := exists_shifted f ['\n'] no_break
      obtain ⟨r', later⟩ := ih r.length (by rw [← size, ← whole]; simp; omega) r rfl
      exact ⟨l' ++ '\n' :: r', whole ▸ .line shifted later⟩

theorem Location.line_past (place : Location) (s : Text) :
    (place.past s).line = place.line + s.count '\n' := by
  induction s generalizing place with
  | nil => rfl
  | cons c s ih =>
    have first : (place.past (c :: s)).line = ((place.step c).past s).line := rfl
    rw [first, ih, step, List.count_cons]
    by_cases line_end : c = '\n'
    · simp only [if_pos line_end, beq_iff_eq]
      omega
    · simp only [if_neg line_end, beq_iff_eq]
      omega

theorem Location.line_past_congr {place place' : Location} (line : place.line = place'.line)
    (s : Text) : (place.past s).line = (place'.past s).line := by
  rw [line_past, line_past, line]

namespace Lexeme

theorem read_of_opens {previous : Option Token.Kind} {s : Text}
    (opens : previous.any Token.Kind.opensLine) (blank : s.head?.any isSpace) :
    read previous s = indent s := by
  rw [read, opens, blank]
  rfl

theorem ne_of_opens {previous : Option Token.Kind} (opens : previous.any Token.Kind.opensLine)
    {kind : Token.Kind} (other : ¬kind.opensLine) : previous ≠ some kind := by
  rintro rfl
  exact other opens

theorem read_congr_of_opens {previous previous' : Option Token.Kind}
    (opens : previous.any Token.Kind.opensLine) (opens' : previous'.any Token.Kind.opensLine) :
    read previous = read previous' := by
  funext s
  -- a blank is an indent after either; anything else is read as after any token but two
  by_cases blank : s.head?.any isSpace
  · rw [read_of_opens opens blank, read_of_opens opens' blank]
  · have other (kind : Token.Kind) (mark : kind = .quote ∨ kind = .colon) : ¬kind.opensLine := by
      rcases mark with rfl | rfl
      · exact nofun
      · exact nofun
    refine read_congr (fun c head space => blank ?_)
      (fun kind mark => ne_of_opens opens (other kind mark))
      fun kind mark => ne_of_opens opens' (other kind mark)
    rw [head]
    exact space

end Lexeme

theorem Token.Kind.opensLine_iff {kind : Token.Kind} :
    kind.opensLine ↔ kind = .lineBreak ∨ kind = .indent := by
  cases kind <;> simp [opensLine]

def Lexer.last (l : Lexer) : Option Token.Kind := l.previous.map (·.kind)

theorem Lexer.lexeme_of_opens {l : Lexer} (opens : l.last.any Token.Kind.opensLine)
    (blank : l.rest.head?.any isSpace) : l.lexeme = Lexeme.indent l.rest :=
  Lexeme.read_of_opens opens blank

def Lexer.Ahead (n : Nat) (l m : Lexer) : Prop :=
  (Stream.ofLexer l).Indented n (.ofLexer m) ∧ m.location.line = l.location.line

theorem Lexer.ahead_unit {n : Nat} {l m : Lexer} {unit rest : Text} (no_break : '\n' ∉ unit)
    (found : l.lexeme = .ok ⟨[], .indent, unit, ['\t'], rest⟩)
    (later : (l.after ⟨[], .indent, unit, ['\t'], rest⟩).Ahead n m) : l.Ahead (n + 1) m := by
  obtain ⟨indents, line⟩ := later
  refine ⟨?_, ?_⟩
  · rw [Stream.ofLexer_cons found nofun]
    exact .one rfl indents
  · rw [line]
    exact (l.location.line_past unit).trans (by rw [List.count_eq_zero.2 no_break]; rfl)

theorem Units.read {n : Nat} {u : Text} (units : Units n u) {l : Lexer} {t : Text}
    (rest : l.rest = u ++ t) (opens : l.last.any Token.Kind.opensLine) :
    ∃ m : Lexer, l.Ahead n m ∧ m.rest = t ∧ m.last.any Token.Kind.opensLine := by
  induction units generalizing l with
  | none => exact ⟨l, ⟨.none _, rfl⟩, rest, opens⟩
  | tab _ ih =>
    have found := Lexer.lexeme_of_opens opens (by rw [rest]; rfl)
    rw [rest] at found
    obtain ⟨m, later, behind⟩ := ih (l := l.after ⟨[], .indent, ['\t'], ['\t'], _⟩) rfl rfl
    exact ⟨m, Lexer.ahead_unit (by decide) found later, behind⟩
  | spaces _ ih =>
    have found := Lexer.lexeme_of_opens opens (by rw [rest]; rfl)
    rw [rest] at found
    obtain ⟨m, later, behind⟩ :=
      ih (l := l.after ⟨[], .indent, [' ', ' ', ' ', ' '], ['\t'], _⟩) rfl rfl
    exact ⟨m, Lexer.ahead_unit (by decide) found later, behind⟩

inductive Stream.Shifted (f : Nat → Nat) : Stream → Stream → Prop
  | line {n n' : Nat} {s s' rest rest' : Stream} : s.Indented n rest → s'.Indented n' rest' →
      n' = f n ∨ rest.Idle → rest.Alike f rest' → Shifted f s s'

def ReadAlike (f : Nat → Nat) (s s' : Text) : Prop :=
  ∀ l l' : Lexer, l.rest = s → l'.rest = s' → l.last = some .lineBreak → l'.last = some .lineBreak →
    l.location.line = l'.location.line → (Stream.ofLexer l).Shifted f (.ofLexer l')

inductive Closes : Text → Text → Prop
  | last : Closes [] []
  | line (s : Text) : Closes ['\n'] s

section

variable {ending content s : Text}

theorem Closes.exists_left (closes : Closes ending s) {a b : Text} (no_break : '\n' ∉ a)
    (whole : a ++ b = content ++ ending) : ∃ left, content = a ++ left ∧ b = left ++ ending := by
  rcases List.append_eq_append_iff.1 whole with ⟨left, inside, behind⟩ | ⟨beyond, inside, behind⟩
  · exact ⟨left, inside, behind⟩
  · cases beyond with
    | nil => exact ⟨[], by rw [inside, List.append_nil, List.append_nil], behind.symm⟩
    | cons c beyond =>
      cases closes with
      | last => exact nomatch behind
      | line =>
        obtain rfl : '\n' = c := (List.cons.inj behind).1
        exact absurd (inside ▸ List.mem_append_right content List.mem_cons_self) no_break

theorem Closes.noUnit (closes : Closes ending s) (none : Lexeme.NoUnit content) :
    Lexeme.NoUnit (content ++ ending) := by
  cases closes with
  | last => rwa [List.append_nil]
  | line => exact none.append_break []

theorem Closes.read_eq (closes : Closes ending s) (previous : Option Token.Kind) :
    Lexeme.read previous (content ++ ending ++ s) =
      (Lexeme.read previous (content ++ ending)).map (Lexeme.extend s) := by
  cases closes with
  | last =>
    rw [List.append_nil, List.append_nil]
    cases Lexeme.read previous content with
    | error spaces => rfl
    | ok x => exact congrArg Except.ok (by rw [Lexeme.extend, List.append_nil])
  | line => exact Lexeme.read_append (List.mem_append_right _ List.mem_cons_self) previous s

theorem Closes.read_takes (closes : Closes ending s) (no_break : '\n' ∉ content)
    {previous : Option Token.Kind} {x : Lexeme}
    (found : Lexeme.read previous (content ++ ending) = .ok x) :
    (∃ left, '\n' ∉ left ∧ x.rest = left ++ ending) ∧ x.kind ≠ .lineBreak ∨
      ending = ['\n'] ∧ x.rest = [] ∧ x.kind = .lineBreak := by
  -- blanks in front of a lexeme never end a line, so only a line end does
  obtain ⟨lead, line_break, source⟩ := Lexeme.read_within found
  have tiles : x.lead ++ x.source ++ x.rest = content ++ ending := Lexeme.read_tiles found
  by_cases kind : x.kind = .lineBreak
  · right
    rw [line_break kind, List.append_assoc] at tiles
    obtain ⟨left, rfl, behind⟩ := closes.exists_left lead tiles
    cases left with
    | nil =>
      cases closes with
      | last => exact nomatch behind
      | line => exact ⟨rfl, (List.cons.inj behind).2, kind⟩
    | cons c left =>
      obtain rfl : '\n' = c := (List.cons.inj behind).1
      exact absurd (List.mem_append_right _ List.mem_cons_self) no_break
  · left
    have taken : '\n' ∉ x.lead ++ x.source := fun member =>
      (List.mem_append.1 member).elim lead (source kind)
    obtain ⟨left, rfl, behind⟩ := closes.exists_left taken tiles
    exact ⟨⟨left, fun member => no_break (List.mem_append_right _ member), behind⟩, kind⟩

theorem Closes.lexeme_eq (closes : Closes ending s) {l : Lexer}
    (rest : l.rest = content ++ ending ++ s) :
    l.lexeme = (Lexeme.read l.last (content ++ ending)).map (Lexeme.extend s) := by
  rw [← closes.read_eq, ← rest]
  rfl

theorem Closes.idle (closes : Closes ending s) (blank : Blank content ending) {l : Lexer}
    (rest : l.rest = content ++ ending ++ s) (no_quote : l.last ≠ some .quote)
    (none : l.last.any Token.Kind.opensLine → Lexeme.NoUnit (content ++ ending)) :
    (Stream.ofLexer l).Idle := by
  have lexeme := closes.lexeme_eq rest
  cases found : Lexeme.read l.last (content ++ ending) with
  | error spaces =>
    rw [found] at lexeme
    rw [Stream.ofLexer_eq, lexeme]
    trivial
  | ok x =>
    rw [found] at lexeme
    -- without a unit in front, what is read is the end behind the blanks
    have spaced := Lexeme.read_eq_spaced no_quote none found
    have behind := congrArg (Lexeme.plain l.last (Lexeme.skipBlanks (content ++ ending)).1) blank
    have plain := spaced.trans behind
    cases closes with
    | last =>
      rw [Stream.ofLexer_ended lexeme (congrArg Lexeme.kind plain)]
      trivial
    | line =>
      have kind : x.kind = .lineBreak := congrArg Lexeme.kind plain
      rw [Stream.ofLexer_cons lexeme fun ended => nomatch kind.symm.trans ended]
      exact kind

end

structure Beside (line s s' : Text) (l l' : Lexer) : Prop where
  rest : l.rest = line ++ s
  rest' : l'.rest = line ++ s'
  read : Lexeme.read l.last = Lexeme.read l'.last
  place : l.location.line = l'.location.line
  none : l.last.any Token.Kind.opensLine → Lexeme.NoUnit line

inductive Ending (f : Nat → Nat) : Text → Text → Text → Prop
  | last : Ending f [] [] []
  | line {s s' : Text} : ReadAlike f s s' → Ending f ['\n'] s s'

section

variable {f : Nat → Nat} {ending content s s' : Text} {l l' : Lexer}

theorem Ending.closes (ends : Ending f ending s s') : Closes ending s ∧ Closes ending s' := by
  cases ends with
  | last => exact ⟨.last, .last⟩
  | line => exact ⟨.line s, .line s'⟩

theorem Beside.token {line : Text} (beside : Beside line s s' l l') (x : Lexeme) :
    (l.token (x.extend s)).Alike (l'.token (x.extend s')) :=
  ⟨rfl, rfl, Location.line_past_congr beside.place x.lead⟩

theorem Beside.place_after {line : Text} (beside : Beside line s s' l l') (x : Lexeme) :
    (l.after (x.extend s)).location.line = (l'.after (x.extend s')).location.line :=
  Location.line_past_congr (beside.token x).line x.source

theorem Beside.after {line : Text} (beside : Beside line s s' l l') {x : Lexeme}
    (inside : ¬x.kind.opensLine) :
    Beside x.rest s s' (l.after (x.extend s)) (l'.after (x.extend s')) where
  rest := rfl
  rest' := rfl
  read := rfl
  place := beside.place_after x
  none opens := absurd opens inside

theorem Ending.alike (ends : Ending f ending s s') (no_break : '\n' ∉ content)
    (beside : Beside (content ++ ending) s s' l l') :
    (Stream.ofLexer l).Alike f (.ofLexer l') := by
  -- behind an item both lexers are beside each other again, with less left of the line
  induction size : l.weight using Nat.strong_induction_on generalizing content l l' with
  | h n ih =>
    obtain ⟨closes, closes'⟩ := ends.closes
    have lexeme := closes.lexeme_eq beside.rest
    have lexeme' := closes'.lexeme_eq beside.rest'
    rw [← beside.read] at lexeme'
    cases found : Lexeme.read l.last (content ++ ending) with
    | error spaces =>
      rw [found] at lexeme lexeme'
      rw [Stream.ofLexer_eq l, Stream.ofLexer_eq l', lexeme, lexeme']
      exact .malformed beside.place
    | ok x =>
      rw [found] at lexeme lexeme'
      have token := beside.token x
      by_cases ended : x.kind = .endOfInput
      · rw [Stream.ofLexer_ended lexeme ended, Stream.ofLexer_ended lexeme' ended]
        exact .ended token.line
      rw [Stream.ofLexer_cons lexeme ended, Stream.ofLexer_cons lexeme' ended]
      rcases closes.read_takes no_break found with
        ⟨⟨left, one_line, rest⟩, no_end⟩ | ⟨line_end, rest, line_break⟩
      · have no_indent : x.kind ≠ .indent := Lexeme.read_ne_indent beside.none found
        have inside : ¬x.kind.opensLine := fun opens =>
          (Token.Kind.opensLine_iff.1 opens).elim no_end no_indent
        have lighter := Lexer.after_lighter lexeme ended
        have later := rest ▸ beside.after inside
        exact .token token no_indent no_end (ih _ (size ▸ lighter) one_line later rfl)
      · cases ends with
        | last => cases line_end
        | line next =>
          have kind : some x.kind = some .lineBreak := congrArg some line_break
          obtain ⟨indents, indents', mapped, alike⟩ := next (l.after (x.extend s))
            (l'.after (x.extend s')) (congrArg (· ++ s) rest) (congrArg (· ++ s') rest) kind kind
            (beside.place_after x)
          exact .line token line_break indents indents' mapped alike

theorem Shifted.readAlike {line line' : Text} (shifted : Shifted f ending line line')
    (ends : Ending f ending s s') : ReadAlike f (line ++ ending ++ s) (line' ++ ending ++ s') := by
  intro l l' rest rest' kind kind' place
  obtain ⟨closes, closes'⟩ := ends.closes
  cases shifted with
  | @line n n' u u' content units units' no_break none mapped =>
    rw [List.append_assoc, List.append_assoc, ← List.append_assoc content] at rest rest'
    -- behind the units it does not matter any more how many there were
    obtain ⟨m, ⟨indents, same⟩, behind, opens⟩ := units.read rest (by rw [kind]; rfl)
    obtain ⟨m', ⟨indents', same'⟩, behind', opens'⟩ := units'.read rest' (by rw [kind']; rfl)
    have beside : Beside (content ++ ending) s s' m m' :=
      ⟨behind, behind', Lexeme.read_congr_of_opens opens opens', by rw [same, same', place],
        fun _ => closes.noUnit none⟩
    refine .line indents indents' (mapped.imp_right fun blank => ?_) (ends.alike no_break beside)
    exact closes.idle blank behind (Lexeme.ne_of_opens opens nofun) beside.none

theorem Reindented.readAlike (moved : Reindented f s s') : ReadAlike f s s' := by
  induction moved with
  | last shifted => simpa using shifted.readAlike .last
  | line shifted _ ih => simpa using shifted.readAlike (.line ih)

/-- Only relative indentation matters: a text whose lines are moved by a strictly increasing map is
read as the same document but for places, or fails for the same cause on the same line. -/
theorem parse_reindented (increasing : StrictMono f) {first : Text}
    (line_break : first = ['\n'] ∨ first = ['\r', '\n']) (moved : Reindented f s s') :
    Agree Document.Alike (parse (first ++ s)) (parse (first ++ s')) := by
  obtain ⟨content, rfl, no_break, blank⟩ : ∃ content, first = content ++ ['\n'] ∧
      '\n' ∉ content ∧ Blank content ['\n'] := by
    rcases line_break with rfl | rfl
    · exact ⟨[], rfl, by decide, rfl⟩
    · exact ⟨['\r'], rfl, by decide, rfl⟩
  -- no level is known in front of the first line, and its end forgets that there was none
  have beside : Beside (content ++ ['\n']) s s' (.start (content ++ ['\n'] ++ s))
    (.start (content ++ ['\n'] ++ s')) := ⟨rfl, rfl, rfl, rfl, nofun⟩
  have ends : Ending f ['\n'] s s' := .line moved.readAlike
  have idle := ends.closes.1.idle blank beside.rest nofun beside.none
  have alike := ends.alike no_break beside
  rw [parse, parse, ← Machine.run_eq_ofStream, ← Machine.run_eq_ofStream]
  exact alike.run increasing (.idle idle (.root rfl))

theorem line_under_component_moved :
    StrictMono (fun n => 2 * n + 1) ∧
    Reindented (fun n => 2 * n + 1) "\\A\n\ttext".toList "\t\\A\n\t    \ttext".toList ∧
    Agree Document.Alike (parse "\n\\A\n\ttext".toList)
      (parse "\n\t\\A\n\t    \ttext".toList) ∧
    parse "\n\\A\n\ttext".toList =
      .ok ⟨[.component ⟨['A'], [], [.text "text".toList], ⟨2, 1⟩⟩]⟩ := by
  have increasing : StrictMono (fun n => 2 * n + 1) := fun m n less => by
    dsimp only
    omega
  have component : Shifted (fun n => 2 * n + 1) ['\n'] "\\A".toList "\t\\A".toList :=
    @Shifted.line _ _ 0 1 [] ['\t'] "\\A".toList .none (.tab .none) (by decide) ⟨nofun, nofun⟩
      (.inl rfl)
  have line : Shifted (fun n => 2 * n + 1) [] "\ttext".toList "\t    \ttext".toList :=
    @Shifted.line _ _ 1 3 ['\t'] "\t    \t".toList "text".toList (.tab .none)
      (.tab (.spaces (.tab .none))) (by decide) ⟨nofun, nofun⟩ (.inl rfl)
  have moved := Reindented.line component (.last line)
  have agree := parse_reindented increasing (.inl (rfl : ['\n'] = ['\n'])) moved
  exact ⟨increasing, moved, agree, by cbv⟩

end

end Inlay.Markup
