import Inlay.Proofs.Markup.Indentation
import Inlay.Proofs.Markup.Origins
import Inlay.Proofs.Markup.Tiling

namespace Inlay

theorem Text.dropEnd_append_of_all {p : Char → Bool} (s : Text) {t : Text} (all : ∀ c ∈ t, p c) :
    dropEnd p (s ++ t) = dropEnd p s := by
  have all' : ∀ c ∈ t.reverse, p c := fun c member => all c (List.mem_reverse.1 member)
  rw [dropEnd, List.reverse_append, List.dropWhile_append_of_pos all', dropEnd]

namespace Markup

/-! ## Texts line by line -/

inductive BlankLines : Text → Prop
  | none : BlankLines []
  | line {n : Nat} {u cr b : Text} : Units n u → IsReturn cr → BlankLines b →
      BlankLines (u ++ (cr ++ '\n' :: b))

/-- Whether a text becomes another by carriage returns in front of some of its line feeds and, if
lines may be inserted, blank lines behind some of its line ends. -/
inductive Reflowed (inserts : Bool) : Text → Text → Prop
  | last {l : Text} : '\n' ∉ l → Reflowed inserts l l
  | line {l cr b s s' : Text} : '\n' ∉ l → IsReturn cr → BlankLines b → inserts ∨ b = [] →
      Reflowed inserts s s' → Reflowed inserts (l ++ '\n' :: s) (l ++ (cr ++ '\n' :: (b ++ s')))

/-! ## What a line begins with -/

namespace Lexeme

inductive Begins (read : Text → Text → Except Text Lexeme) : Prop
  | malformed (spaces : Text) : (∀ cr r, IsReturn cr → read cr r = .error spaces) → Begins read
  | inside (x : Lexeme) :
      (∀ cr r, IsReturn cr → read cr r = .ok (x.extend (cr ++ '\n' :: r))) → Begins read
  | text (lead s : Text) :
      (∀ cr r, IsReturn cr → read cr r = .ok ⟨lead, .text, s ++ cr, s, '\n' :: r⟩) → Begins read
  | lineEnd (lead : Text) :
      (∀ cr r, IsReturn cr → read cr r = .ok ⟨lead ++ cr, .lineBreak, ['\n'], ['\n'], r⟩) →
      Begins read

section

variable {cr r : Text} (ret : IsReturn cr)
include ret

theorem takeWhile_append_lineEnd {s : Text} (no_break : '\n' ∉ s) :
    Text.split (· != '\n') (s ++ (cr ++ '\n' :: r)) = (s ++ cr, '\n' :: r) := by
  rw [← List.append_assoc]
  refine Text.split_of_stop (fun c member => ?_) (by simp)
  simp only [bne_iff_ne, ne_eq]
  rintro rfl
  exact (List.mem_append.1 member).elim no_break ret.no_break

theorem number?_append_lineEnd {s : Text} (no_break : '\n' ∉ s) :
    number? (s ++ (cr ++ '\n' :: r)) =
      (number? s).map fun (literal, rest) => (literal, rest ++ (cr ++ '\n' :: r)) := by
  have line := (Prod.mk.inj (takeWhile_append_lineEnd (r := r) ret no_break)).1
  have alone : s.takeWhile (· != '\n') = s := List.takeWhile_eq_self_iff.2 fun c member => by
    simp only [bne_iff_ne, ne_eq]
    rintro rfl
    exact no_break member
  have blank : ∀ c ∈ cr, (isSpace c || c == '\r') = true := by
    rcases ret with rfl | rfl <;> simp
  have short := (Text.dropEnd_initial (fun c => isSpace c || c == '\r') s).length_le
  simp only [number?, line, alone, Text.dropEnd_append_of_all s blank]
  split
  · rw [List.drop_append_of_le_length short]
    rfl
  · rfl

theorem line_append_lineEnd (lead : Text) {s : Text} (no_break : '\n' ∉ s) (no_return : '\r' ∉ s) :
    line lead (s ++ (cr ++ '\n' :: r)) = ⟨lead, .text, s ++ cr, s, '\n' :: r⟩ := by
  have returns : ∀ c ∈ cr, (c == '\r') = true := by
    rcases ret with rfl | rfl <;> simp
  have value : Text.dropEnd (· == '\r') (s ++ cr) = s := by
    rw [Text.dropEnd_append_of_all s returns]
    refine Text.dropEnd_eq_self fun c last same => ?_
    rw [beq_iff_eq.1 same] at last
    exact no_return (List.mem_of_getLast? last)
  rw [line, takeWhile_append_lineEnd ret no_break]
  exact congrArg (Lexeme.mk lead .text (s ++ cr) · ('\n' :: r)) value

end

section

variable {s : Text} (no_break : '\n' ∉ s) (no_return : '\r' ∉ s)
include no_break no_return

theorem word_begins (previous : Option Token.Kind) (lead : Text) :
    Begins fun cr r => .ok (word previous lead (s ++ (cr ++ '\n' :: r))) := by
  have number (cr r : Text) (ret : IsReturn cr) :
      (if previous = some .colon then number? (s ++ (cr ++ '\n' :: r)) else none) =
      (if previous = some .colon then number? s else none).map
        fun (literal, rest) => (literal, rest ++ (cr ++ '\n' :: r)) := by
    split
    · exact number?_append_lineEnd ret no_break
    · rfl
  have property (cr r : Text) (ret : IsReturn cr) := (Cut.before (s := s) r ret).property?_append
  cases found : (if previous = some .colon then number? s else none) with
  | some numeral =>
    refine .inside ⟨lead, .number, numeral.1, numeral.1, numeral.2⟩ fun cr r ret => ?_
    rw [word, number cr r ret, found]
    rfl
  | none =>
    cases named : property? s with
    | some name =>
      refine .inside ⟨lead, .property, name.1, name.1, name.2⟩ fun cr r ret => ?_
      rw [word, number cr r ret, found, property cr r ret, named]
      rfl
    | none =>
      refine .text lead s fun cr r ret => ?_
      rw [word, number cr r ret, found, property cr r ret, named]
      exact congrArg Except.ok (line_append_lineEnd ret lead no_break no_return)

end

theorem plain_begins (previous : Option Token.Kind) (lead : Text) {c : Char} {s : Text}
    (no_break : '\n' ∉ c :: s) (no_return : '\r' ∉ c :: s) :
    Begins fun cr r => .ok (plain previous lead (c :: s ++ (cr ++ '\n' :: r))) := by
  by_cases quote : c = '"'
  · rw [quote]
    exact .inside ⟨lead, .quote, ['"'], ['"'], s⟩ fun cr r ret => rfl
  by_cases colon : c = ':'
  · rw [colon]
    exact .inside ⟨lead, .colon, [':'], [':'], s⟩ fun cr r ret => rfl
  have line_end : c ≠ '\n' := fun same => no_break (same ▸ List.mem_cons_self)
  simp only [List.cons_append, plain_of_letter quote colon line_end]
  by_cases mark : c = '\\' ∨ c = '!'
  · simp only [if_pos mark]
    by_cases name : s.head?.any isNameChar
    · refine .inside (marked lead (if c = '\\' then .component else .flag) c s) fun cr r ret => ?_
      have meet : Cut s (cr ++ '\n' :: r) := .before r ret
      rw [meet.any_head? (by decide) (by decide), if_pos name, meet.marked_append]
    · refine .text lead (c :: s) fun cr r ret => ?_
      rw [(Cut.before (s := s) r ret).any_head? (by decide) (by decide), if_neg name]
      exact congrArg Except.ok (line_append_lineEnd ret lead no_break no_return)
  · simp only [if_neg mark]
    exact word_begins no_break no_return previous lead

theorem skipBlanks_content {s : Text} (no_return : '\r' ∉ s) (t : Text) :
    skipBlanks (s ++ t) =
      if s.dropWhile isSpace = [] then (s ++ (skipBlanks t).1, (skipBlanks t).2)
      else (s.takeWhile isSpace, s.dropWhile isSpace ++ t) := by
  induction s with
  | nil => rfl
  | cons c s ih =>
    have plain : c = '\r' → (s ++ t).head? ≠ some '\n' := by
      rintro rfl
      exact absurd List.mem_cons_self no_return
    have ih := ih fun member => no_return (List.mem_cons_of_mem c member)
    rw [List.cons_append, skipBlanks_cons plain, ih]
    by_cases space : isSpace c
    · rw [if_pos space, List.dropWhile_cons_of_pos space, List.takeWhile_cons_of_pos space]
      split <;> rfl
    · rw [if_neg space, List.dropWhile_cons_of_neg space, List.takeWhile_cons_of_neg space,
        if_neg (List.cons_ne_nil c s)]
      rfl

theorem spaced_begins (previous : Option Token.Kind) {s : Text} (no_break : '\n' ∉ s)
    (no_return : '\r' ∉ s) : Begins fun cr r => .ok (spaced previous (s ++ (cr ++ '\n' :: r))) := by
  by_cases blank : s.dropWhile isSpace = []
  · refine .lineEnd s fun cr r ret => ?_
    have line_end : skipBlanks (cr ++ '\n' :: r) = (cr, '\n' :: r) := by
      rcases ret with rfl | rfl <;> rfl
    rw [spaced, skipBlanks_content no_return, if_pos blank, line_end]
    rfl
  · have inside : s.dropWhile isSpace ⊆ s := (List.dropWhile_suffix isSpace).subset
    simp only [spaced, skipBlanks_content no_return, if_neg blank]
    cases left : s.dropWhile isSpace with
    | nil => exact absurd left blank
    | cons c t =>
      rw [left] at inside
      exact plain_begins previous _ (fun member => no_break (inside member))
        fun member => no_return (inside member)

theorem NoUnit.append_lineEnd {s cr : Text} (none : NoUnit s) (ret : IsReturn cr) (r : Text) :
    NoUnit (s ++ (cr ++ '\n' :: r)) := by
  rcases ret with rfl | rfl
  · exact none.append_break r
  · -- the carriage return is no blank, so it can be put to the line
    have line : NoUnit (s ++ ['\r']) := by
      refine ⟨fun u same => ?_, fun u same => ?_⟩
      · cases s with
        | nil => cases same
        | cons c s => cases same; exact none.no_tab s rfl
      · match s, none, same with
        | [], _, same => cases same
        | [_], _, same => cases same
        | [_, _], _, same => cases same
        | [_, _, _], _, same => cases same
        | _ :: _ :: _ :: _ :: s, none, same => cases same; exact none.no_spaces s rfl
    have whole := line.append_break r
    rwa [List.append_assoc] at whole

theorem indent_begins {s : Text} (blank : s.head?.any isSpace) :
    Begins fun cr r => indent (s ++ (cr ++ '\n' :: r)) := by
  by_cases tab : ∃ t, s = '\t' :: t
  · obtain ⟨t, rfl⟩ := tab
    exact .inside ⟨[], .indent, ['\t'], ['\t'], t⟩ fun cr r ret => rfl
  by_cases spaces : ∃ t, s = ' ' :: ' ' :: ' ' :: ' ' :: t
  · obtain ⟨t, rfl⟩ := spaces
    exact .inside ⟨[], .indent, [' ', ' ', ' ', ' '], ['\t'], t⟩ fun cr r ret => rfl
  have none : NoUnit s := ⟨fun t same => tab ⟨t, same⟩, fun t same => spaces ⟨t, same⟩⟩
  refine .malformed (s.takeWhile (· == ' ')) fun cr r ret => ?_
  have lead := (Prod.mk.inj ((Cut.before (s := s) r ret).split_append (p := (· == ' '))
    (by decide) (by decide))).1
  rw [indent_of_noUnit (none.append_lineEnd ret r)]
  exact congrArg Except.error lead

theorem Begins.congr {read read' : Text → Text → Except Text Lexeme} (begins : Begins read')
    (same : ∀ cr r, IsReturn cr → read cr r = read' cr r) : Begins read := by
  cases begins with
  | malformed spaces h => exact .malformed spaces fun cr r ret => (same cr r ret).trans (h cr r ret)
  | inside x h => exact .inside x fun cr r ret => (same cr r ret).trans (h cr r ret)
  | text lead s h => exact .text lead s fun cr r ret => (same cr r ret).trans (h cr r ret)
  | lineEnd lead h => exact .lineEnd lead fun cr r ret => (same cr r ret).trans (h cr r ret)

theorem begins (previous : Option Token.Kind) {s : Text} (no_break : '\n' ∉ s)
    (no_return : '\r' ∉ s) : Begins fun cr r => read previous (s ++ (cr ++ '\n' :: r)) := by
  have head (cr r : Text) (ret : IsReturn cr) :=
    (Cut.before (s := s) r ret).any_head? (p := isSpace) (by decide) (by decide)
  by_cases opens : (previous.any Token.Kind.opensLine && s.head?.any isSpace) = true
  · refine (indent_begins (Bool.and_eq_true_iff.1 opens).2).congr fun cr r ret => ?_
    rw [read, head cr r ret, if_pos opens]
  have closed (cr r : Text) (ret : IsReturn cr) :
      (if previous = some .quote then closed? (s ++ (cr ++ '\n' :: r)) else none) =
      (if previous = some .quote then closed? s else none).map
        fun (inside, rest) => (inside, rest ++ (cr ++ '\n' :: r)) := by
    split
    · exact (Cut.before r ret).closed?_append
    · rfl
  cases found : (if previous = some .quote then closed? s else none) with
  | some string =>
    refine .inside ⟨[], .text, string.1, unescape string.1, string.2⟩ fun cr r ret => ?_
    rw [read, head cr r ret, if_neg opens, closed cr r ret, found]
    rfl
  | none =>
    refine (spaced_begins previous no_break no_return).congr fun cr r ret => ?_
    rw [read, head cr r ret, if_neg opens, closed cr r ret, found]
    rfl

theorem read_lineEnd (previous : Option Token.Kind) {cr : Text} (ret : IsReturn cr) (r : Text) :
    read previous (cr ++ '\n' :: r) = .ok ⟨cr, .lineBreak, ['\n'], ['\n'], r⟩ := by
  rcases ret with rfl | rfl
  · exact read_lineBreak previous r
  · have closed : closed? ('\r' :: '\n' :: r) = none :=
      (Cut.before (s := []) r (.inr rfl : IsReturn ['\r'])).closed?_append
    rw [read, List.cons_append, List.nil_append]
    simp [closed, isSpace, spaced, skipBlanks, plain]

end Lexeme

/-! ## Places -/

structure Location.Moved (inserts : Bool) (place place' : Location) : Prop where
  column : place.column = place'.column
  line : inserts ∨ place.line = place'.line

structure Token.Moved (inserts : Bool) (t t' : Token) : Prop where
  column : t.kind ≠ .lineBreak → t.location.column = t'.location.column
  line : inserts ∨ t.location.line = t'.location.line

section

variable {inserts : Bool}

theorem Location.Moved.past {place place' : Location} (moved : place.Moved inserts place')
    (s : Text) : (place.past s).Moved inserts (place'.past s) := by
  induction s generalizing place place' with
  | nil => exact moved
  | cons c s ih =>
    have first : (place.step c).Moved inserts (place'.step c) := by
      unfold step
      split
      · exact ⟨rfl, moved.line.imp_right (congrArg (· + 1))⟩
      · exact ⟨congrArg (· + 1) moved.column, moved.line⟩
    exact ih first

structure Lexer.Along (inserts : Bool) (l l' : Lexer) : Prop where
  last : l.last = l'.last
  place : l.location.Moved inserts l'.location

def Lexer.Flows (inserts : Bool) (l l' : Lexer) : Prop :=
  (Stream.ofLexer l).Related (Token.Moved inserts)
    (fun place place' => inserts ∨ place.line = place'.line) (Stream.ofLexer l')

def Lexer.Meets (inserts : Bool) (l l' : Lexer) : Prop :=
  ∃ m, (Stream.ofLexer l').Blank (.ofLexer m) ∧ l.Flows inserts m

structure Lexer.Fresh (l : Lexer) (s : Text) : Prop where
  rest : l.rest = s
  last : l.last = some .lineBreak
  column : l.location.column = 1

def FlowsOn (inserts : Bool) (s s' : Text) : Prop :=
  ∀ l l' : Lexer, l.Fresh s → l'.Fresh s' → inserts ∨ l.location.line = l'.location.line →
    l.Meets inserts l'

theorem Location.line_past_of_no_break (place : Location) {s : Text} (no_break : '\n' ∉ s) :
    (place.past s).line = place.line := by
  rw [line_past, List.count_eq_zero.2 no_break, Nat.add_zero]

namespace Lexer

variable {l l' : Lexer}

theorem Along.malformed (along : l.Along inserts l') {spaces : Text}
    (read : l.lexeme = .error spaces) (read' : l'.lexeme = .error spaces) :
    l.Flows inserts l' := by
  rw [Flows, Stream.ofLexer_eq l, Stream.ofLexer_eq l', read, read']
  exact .malformed along.place.line

theorem Along.token (along : l.Along inserts l') {x x' : Lexeme} (lead : x.lead = x'.lead)
    (kind : x.kind = x'.kind) (value : x.value = x'.value) :
    (l.token x).Related (Token.Moved inserts) (l'.token x') := by
  have place := along.place.past x.lead
  refine ⟨kind, value, fun _ => ?_, ?_⟩
  · rw [Lexer.token, Lexer.token, ← lead]
    exact place.column
  · rw [Lexer.token, Lexer.token, ← lead]
    exact place.line

theorem Along.after (along : l.Along inserts l') {x x' : Lexeme} (lead : x.lead = x'.lead)
    (kind : x.kind = x'.kind) (source : x.source = x'.source) :
    (l.after x).Along inserts (l'.after x') := by
  refine ⟨congrArg some kind, ?_⟩
  rw [Lexer.after, Lexer.after, ← lead, ← source]
  exact (along.place.past x.lead).past x.source

theorem Along.last_line (along : l.Along inserts l') {s : Text} (no_break : '\n' ∉ s)
    (rest : l.rest = s) (rest' : l'.rest = s) : l.Flows inserts l' := by
  induction size : l.weight using Nat.strong_induction_on generalizing s l l' with
  | h n ih =>
    have same : l'.lexeme = l.lexeme := by
      rw [lexeme, lexeme, rest, rest', show l.previous.map (·.kind) = _ from along.last]
      rfl
    cases found : l.lexeme with
    | error spaces => exact along.malformed found (same.trans found)
    | ok x =>
      have found' := same.trans found
      have token := along.token (x := x) rfl rfl rfl
      -- either the input ends here, or what is left of the line is lighter
      by_cases ended : x.kind = .endOfInput
      · rw [Flows, Stream.ofLexer_ended found ended, Stream.ofLexer_ended found' ended]
        have column := token.places.column (by simp [Lexer.token, ended])
        exact .ended ⟨rfl, rfl, ⟨fun _ => column, token.places.line⟩⟩
      have tiles : x.lead ++ x.source ++ x.rest = l.rest := Lexeme.read_tiles found
      have behind : '\n' ∉ x.rest := fun member => no_break (by
        rw [← rest, ← tiles]
        exact List.mem_append_right _ member)
      have lighter := Lexer.after_lighter found ended
      rw [Flows, Stream.ofLexer_cons found ended, Stream.ofLexer_cons found' ended]
      exact .token token (ih _ (size ▸ lighter) (along.after rfl rfl rfl) behind rfl rfl rfl)

theorem fresh_after (l : Lexer) (lead s : Text) :
    (l.after ⟨lead, .lineBreak, ['\n'], ['\n'], s⟩).Fresh s :=
  ⟨rfl, rfl, rfl⟩

theorem broke {s s' lead lead' : Text} (later : FlowsOn inserts s s') (no_break : '\n' ∉ lead)
    (no_break' : '\n' ∉ lead') (read : l.lexeme = .ok ⟨lead, .lineBreak, ['\n'], ['\n'], s⟩)
    (read' : l'.lexeme = .ok ⟨lead', .lineBreak, ['\n'], ['\n'], s'⟩)
    (line : inserts ∨ l.location.line = l'.location.line) : l.Flows inserts l' := by
  have same : inserts ∨ (l.location.past lead).line = (l'.location.past lead').line := by
    rwa [Location.line_past_of_no_break _ no_break, Location.line_past_of_no_break _ no_break']
  -- wherever the line ends are in their lines, behind them both lexers are in the first column
  obtain ⟨m, blank, flows⟩ := later _ _ (fresh_after l lead s) (fresh_after l' lead' s')
    (same.imp_right (congrArg (· + 1)))
  rw [Flows, Stream.ofLexer_cons read (by simp), Stream.ofLexer_cons read' (by simp)]
  exact .line ⟨rfl, rfl, ⟨fun other => absurd rfl other, same⟩⟩ rfl blank flows

theorem line {content cr s s' : Text} (later : FlowsOn inserts s s') (no_break : '\n' ∉ content)
    (no_return : '\r' ∉ content) (ret : IsReturn cr) (rest : l.rest = content ++ '\n' :: s)
    (rest' : l'.rest = content ++ (cr ++ '\n' :: s')) (along : l.Along inserts l') :
    l.Flows inserts l' := by
  -- behind a lexeme inside the line both lexers are in front of what is left of it
  induction size : l.weight using Nat.strong_induction_on generalizing content l l' with
  | h n ih =>
    have lexeme : l.lexeme = Lexeme.read l.last (content ++ ([] ++ '\n' :: s)) := by
      rw [Lexer.lexeme, rest]
      rfl
    have lexeme' : l'.lexeme = Lexeme.read l.last (content ++ (cr ++ '\n' :: s')) := by
      rw [Lexer.lexeme, rest', along.last]
      rfl
    cases Lexeme.begins l.last no_break no_return with
    | malformed spaces read =>
      exact along.malformed (lexeme.trans (read [] s (.inl rfl))) (lexeme'.trans (read cr s' ret))
    | inside x read =>
      have found := lexeme.trans (read [] s (.inl rfl))
      have found' := lexeme'.trans (read cr s' ret)
      have tiles : x.lead ++ x.source ++ (x.rest ++ '\n' :: s) = l.rest := Lexeme.read_tiles found
      rw [rest, ← List.append_assoc, List.append_left_inj] at tiles
      have behind {c : Char} (none : c ∉ content) : c ∉ x.rest := fun member => none (by
        rw [← tiles]
        exact List.mem_append_right _ member)
      have more : x.kind ≠ .endOfInput := fun ended => by
        have nothing := (Lexeme.read_stands found).ended ended
        simp [Lexeme.extend] at nothing
      have lighter := Lexer.after_lighter found more
      rw [Flows, Stream.ofLexer_cons found more, Stream.ofLexer_cons found' more]
      exact .token (along.token rfl rfl rfl) (ih _ (size ▸ lighter) (behind no_break)
        (behind no_return) rfl rfl (along.after rfl rfl rfl) rfl)
    | text lead v read =>
      have found := lexeme.trans (read [] s (.inl rfl))
      have found' := lexeme'.trans (read cr s' ret)
      rw [Flows, Stream.ofLexer_cons found (by simp), Stream.ofLexer_cons found' (by simp)]
      refine .token (along.token rfl rfl rfl) ?_
      -- the text took all of the line, with the carriage return of one of them
      have taken := (Lexeme.read_within found).source (by simp)
      have taken' := (Lexeme.read_within found').source (by simp)
      have place : inserts ∨ ((l.location.past lead).past (v ++ [])).line =
          ((l'.location.past lead).past (v ++ cr)).line := by
        rw [Location.line_past_of_no_break _ taken, Location.line_past_of_no_break _ taken']
        exact (along.place.past lead).line
      exact broke later List.not_mem_nil List.not_mem_nil (Lexeme.read_lineBreak _ s)
        (Lexeme.read_lineBreak _ s') place
    | lineEnd lead read =>
      have found := lexeme.trans (read [] s (.inl rfl))
      have found' := lexeme'.trans (read cr s' ret)
      have within := Lexeme.read_within found
      have within' := Lexeme.read_within found'
      exact broke later within.lead within'.lead found found' along.place.line

end Lexer

theorem BlankLines.read {b : Text} (blank : BlankLines b) {l : Lexer} {t : Text}
    (fresh : l.Fresh (b ++ t)) : ∃ m, (Stream.ofLexer l).Blank (.ofLexer m) ∧ m.Fresh t := by
  induction blank generalizing l with
  | none => exact ⟨l, .none _, fresh⟩
  | @line n u cr b units ret _ ih =>
    obtain ⟨rest, last, -⟩ := fresh
    rw [List.append_assoc, List.append_assoc, List.cons_append] at rest
    obtain ⟨line_end, ⟨indents, -⟩, behind, opens⟩ := units.read rest (by rw [last]; rfl)
    have found : line_end.lexeme = .ok ⟨cr, .lineBreak, ['\n'], ['\n'], b ++ t⟩ := by
      rw [Lexer.lexeme, behind, Lexeme.read_lineEnd _ ret]
    obtain ⟨m, lines, fresh⟩ := ih (line_end.fresh_after cr (b ++ t))
    rw [Stream.ofLexer_cons found (by simp)] at indents
    exact ⟨m, .line indents rfl lines, fresh⟩

theorem Lexer.Fresh.along {l l' : Lexer} {s s' : Text} (fresh : l.Fresh s) (fresh' : l'.Fresh s')
    (line : inserts ∨ l.location.line = l'.location.line) : l.Along inserts l' :=
  ⟨fresh.last.trans fresh'.last.symm, fresh.column.trans fresh'.column.symm, line⟩

theorem Reflowed.flows {s s' : Text} (reflowed : Reflowed inserts s s') (no_return : '\r' ∉ s)
    {l l' : Lexer} (rest : l.rest = s) (rest' : l'.rest = s') (along : l.Along inserts l') :
    l.Flows inserts l' := by
  induction reflowed generalizing l l' with
  | last no_break => exact along.last_line no_break rest rest'
  | @line content cr b s s' no_break ret blank allowed _ ih =>
    have behind : '\r' ∉ s := fun member =>
      no_return (List.mem_append_right content (List.mem_cons_of_mem _ member))
    have later : FlowsOn inserts s (b ++ s') := by
      intro l l' fresh fresh' line
      rcases allowed with allowed | rfl
      · obtain ⟨m, lines, fresh_m⟩ := blank.read fresh'
        exact ⟨m, lines, ih behind fresh.rest fresh_m.rest (fresh.along fresh_m (.inl allowed))⟩
      · exact ⟨l', .none _, ih behind fresh.rest fresh'.rest (fresh.along fresh' line)⟩
    have inside : '\r' ∉ content := fun member => no_return (List.mem_append_left _ member)
    exact Lexer.line later no_break inside ret rest rest' along

/-! ## Documents -/

mutual

def Component.unlined : Component → Component
  | ⟨name, properties, children, location⟩ =>
    ⟨name, unlinedProperties properties, unlinedNodes children, ⟨1, location.column⟩⟩

def unlinedProperties : List Property → List Property
  | [] => []
  | ⟨name, value⟩ :: rest => ⟨name, value.unlined⟩ :: unlinedProperties rest

def Value.unlined : Value → Value
  | .string s => .string s
  | .flag => .flag
  | .component inner => .component inner.unlined

def unlinedNodes : List Node → List Node
  | [] => []
  | .text s :: rest => .text s :: unlinedNodes rest
  | .component inner :: rest => .component inner.unlined :: unlinedNodes rest

end

def Document.unlined (d : Document) : Document := ⟨unlinedNodes d.nodes⟩

mutual

theorem Component.Related.unlined {c c' : Component}
    (related : c.Related (Token.Moved inserts) c') :
    c.unlined = c'.unlined ∧ (inserts = false → c = c') := by
  match c, c', related with
  | ⟨name, ps, ns, location⟩, ⟨name', ps', ns', location'⟩, .mk mark properties children =>
    obtain ⟨unlined, same⟩ := properties.unlined
    obtain ⟨unlined', same'⟩ := children.unlined
    have named : name = name' := mark.value
    have column : location.column = location'.column := mark.places.column nofun
    refine ⟨?_, fun same_lines => ?_⟩
    · rw [Component.unlined, Component.unlined, unlined, unlined', named, column]
    · have line : location.line = location'.line :=
        mark.places.line.resolve_left fun allowed => nomatch same_lines.symm.trans allowed
      have place : location = location' := by
        rw [show location = ⟨location.line, location.column⟩ from rfl, line, column]
      rw [same same_lines, same' same_lines, named, place]

theorem RelatedProperties.unlined {ps ps' : List Property}
    (related : RelatedProperties (Token.Moved inserts) ps ps') :
    unlinedProperties ps = unlinedProperties ps' ∧ (inserts = false → ps = ps') := by
  match ps, ps', related with
  | [], [], .nil => exact ⟨rfl, fun _ => rfl⟩
  | ⟨name, v⟩ :: rest, ⟨_, v'⟩ :: rest', .cons value later =>
    obtain ⟨unlined, same⟩ := value.unlined
    obtain ⟨unlined', same'⟩ := later.unlined
    refine ⟨?_, fun same_lines => by rw [same same_lines, same' same_lines]⟩
    rw [unlinedProperties, unlinedProperties, unlined, unlined']

theorem Value.Related.unlined {v v' : Value} (related : v.Related (Token.Moved inserts) v') :
    v.unlined = v'.unlined ∧ (inserts = false → v = v') := by
  match v, v', related with
  | .string s, _, .string _ => exact ⟨rfl, fun _ => rfl⟩
  | .flag, _, .flag => exact ⟨rfl, fun _ => rfl⟩
  | .component inner, .component inner', .component value =>
    obtain ⟨unlined, same⟩ := value.unlined
    exact ⟨congrArg Value.component unlined,
      fun same_lines => congrArg Value.component (same same_lines)⟩

theorem RelatedNodes.unlined {ns ns' : List Node}
    (related : RelatedNodes (Token.Moved inserts) ns ns') :
    unlinedNodes ns = unlinedNodes ns' ∧ (inserts = false → ns = ns') := by
  match ns, ns', related with
  | [], [], .nil => exact ⟨rfl, fun _ => rfl⟩
  | .text s :: rest, .text _ :: rest', .text _ later =>
    obtain ⟨unlined, same⟩ := later.unlined
    exact ⟨congrArg (Node.text s :: ·) unlined, fun same_lines => by rw [same same_lines]⟩
  | .component inner :: rest, .component inner' :: rest', .component node later =>
    obtain ⟨unlined, same⟩ := node.unlined
    obtain ⟨unlined', same'⟩ := later.unlined
    refine ⟨?_, fun same_lines => by rw [same same_lines, same' same_lines]⟩
    rw [unlinedNodes, unlinedNodes, unlined, unlined']

end

/-- Line ends and blank lines are immaterial: a text with other ones is read as the same document
but for lines, or fails for the same cause; and without lines put in, nothing but columns of errors
is different. -/
theorem parse_reflowed {s s' : Text} (no_return : '\r' ∉ s) (reflowed : Reflowed inserts s s') :
    (∃ d d', parse s = .ok d ∧ parse s' = .ok d' ∧ d.unlined = d'.unlined ∧
      (inserts = false → d = d')) ∨
    ∃ e e', parse s = .error e ∧ parse s' = .error e' ∧ e.cause = e'.cause ∧
      (inserts = false → e.location.line = e'.location.line) := by
  have flows : (Lexer.start s).Flows inserts (.start s') :=
    reflowed.flows no_return rfl rfl ⟨rfl, rfl, .inr rfl⟩
  have traced := Stream.Related.parse flows
  generalize parse s = read, parse s' = read' at traced
  cases traced with
  | @ok d d' related =>
    obtain ⟨unlined, same⟩ := RelatedNodes.unlined related
    exact .inl ⟨d, d', rfl, rfl, congrArg Document.mk unlined,
      fun same_lines => congrArg Document.mk (same same_lines)⟩
  | @about e e' t t' token about about' cause =>
    refine .inr ⟨e, e', rfl, rfl, cause, fun same_lines => ?_⟩
    rw [about.1, about'.1]
    exact token.places.line.resolve_left fun allowed => nomatch same_lines.symm.trans allowed
  | malformed line =>
    exact .inr ⟨_, _, rfl, rfl, rfl, fun same_lines =>
      line.resolve_left fun allowed => nomatch same_lines.symm.trans allowed⟩

theorem reflowed_with_blank_lines :
    '\r' ∉ "\\A\n\tb:\n\t\t1\ntext".toList ∧
    Reflowed true "\\A\n\tb:\n\t\t1\ntext".toList
      "\\A\r\n\tb:\n\n    \t\r\n\t\t1\r\ntext".toList ∧
    ((∃ d d', parse "\\A\n\tb:\n\t\t1\ntext".toList = .ok d ∧
        parse "\\A\r\n\tb:\n\n    \t\r\n\t\t1\r\ntext".toList = .ok d' ∧
        d.unlined = d'.unlined ∧ (true = false → d = d')) ∨
      ∃ e e', parse "\\A\n\tb:\n\t\t1\ntext".toList = .error e ∧
        parse "\\A\r\n\tb:\n\n    \t\r\n\t\t1\r\ntext".toList = .error e' ∧
        e.cause = e'.cause ∧ (true = false → e.location.line = e'.location.line)) ∧
    parse "\\A\n\tb:\n\t\t1\ntext".toList =
      .ok ⟨[.component ⟨['A'], [⟨['b'], .string ['1']⟩], [], ⟨1, 1⟩⟩, .text "text".toList]⟩ := by
  have last : Reflowed true "text".toList "text".toList := .last (by decide)
  have value : Reflowed true "\t\t1\ntext".toList "\t\t1\r\ntext".toList :=
    .line (l := "\t\t1".toList) (b := []) (by decide) (.inr rfl) .none (.inr rfl) last
  have blank : BlankLines "\n    \t\r\n".toList :=
    .line (u := []) .none (.inl rfl)
      (.line (u := "    \t".toList) (.spaces (.tab .none)) (.inr rfl) .none)
  have property : Reflowed true "\tb:\n\t\t1\ntext".toList
      "\tb:\n\n    \t\r\n\t\t1\r\ntext".toList :=
    .line (l := "\tb:".toList) (by decide) (.inl rfl) blank (.inl rfl) value
  have component : Reflowed true "\\A\n\tb:\n\t\t1\ntext".toList
      "\\A\r\n\tb:\n\n    \t\r\n\t\t1\r\ntext".toList :=
    .line (l := "\\A".toList) (b := []) (by decide) (.inr rfl) .none (.inr rfl) property
  exact ⟨by decide, component, parse_reflowed (by decide) component, by cbv⟩

end

end Markup
end Inlay
