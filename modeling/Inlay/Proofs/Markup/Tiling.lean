import Inlay.Proofs.Markup.Descent
import Inlay.Proofs.Markup.Lexical
import Inlay.Proofs.Markup.Lookahead
import Inlay.Proofs.Markup.Origins
import Mathlib.Data.List.Induction

namespace Inlay

theorem Text.dropEnd_append (mark : Char) (s : Text) :
    ∃ n, s = dropEnd (· == mark) s ++ List.replicate n mark := by
  have run : ∀ c ∈ s.reverse.takeWhile (· == mark), c = mark := fun c member => by
    simpa using List.mem_takeWhile_imp member
  have marks := List.eq_replicate_iff.2 ⟨rfl, run⟩
  have whole := congrArg List.reverse (Text.split_append (· == mark) s.reverse)
  rw [Text.split, List.reverse_append, marks, List.reverse_replicate, List.reverse_reverse] at whole
  exact ⟨_, whole.symm⟩

namespace Markup

/-- The place behind a text: one line more than there are line ends, and one column more than there
are characters behind the last of them. -/
def Location.behind (before : Text) : Location :=
  ⟨1 + before.count '\n', 1 + (before.reverse.takeWhile (· != '\n')).length⟩

theorem Location.past_start (before : Text) : start.past before = behind before := by
  induction before using List.reverseRecOn with
  | nil => rfl
  | append_singleton s c ih =>
    rw [past_append, ih]
    by_cases line_end : c = '\n'
    · simp [past, step, behind, line_end, Nat.add_assoc]
    · simp [past, step, behind, line_end, Nat.add_assoc]

/-- Whether characters spell a value of a kind.  Between quotes, a quote is spelled with a backslash
in front; a text that is the rest of a line may have carriage returns behind it. -/
def Token.Kind.Spells (kind : Token.Kind) (quoted : Prop) (value source : Text) : Prop :=
  match kind with
  | .component => source = '\\' :: value
  | .flag => source = '!' :: value
  | .indent => source = ['\t'] ∨ source = [' ', ' ', ' ', ' ']
  | .text => (quoted → source = escapeQuotes value) ∧
      (¬quoted → ∃ n, source = value ++ List.replicate n '\r')
  | _ => source = value

def IsGap : Text → Text → Prop
  | [], _ => True
  | c :: gap, after =>
    (c = ' ' ∨ c = '\t' ∨ (c = '\r' ∧ (gap ++ after).head? = some '\n')) ∧ IsGap gap after

namespace Lexeme

theorem closed?_escaped {s inside rest : Text} (h : closed? s = some (inside, rest)) :
    inside = escapeQuotes (unescape inside) := by
  fun_induction closed? s generalizing inside rest with
  | case1 => cases h
  | case2 r ih =>
    obtain ⟨⟨i, t⟩, found, same⟩ := Option.map_eq_some_iff.1 h
    cases same
    rw [unescape, escapeQuotes_quote, ← ih found]
  | case3 => cases h
  | case4 => cases h; rfl
  | case5 c r unescaped no_break no_quote ih =>
    obtain ⟨⟨i, t⟩, found, same⟩ := Option.map_eq_some_iff.1 h
    cases same
    -- a backslash in front of a quote is an escape, which is another case
    have plain : c = '\\' → i.head? ≠ some '"' := by
      rintro rfl head
      have whole := closed?_append found
      cases i with
      | nil => cases head
      | cons d i =>
        cases head
        exact unescaped _ rfl whole.symm
    rw [unescape_cons plain, escapeQuotes_cons no_quote, ← ih found]

theorem skipBlanks_isGap (s : Text) : IsGap (skipBlanks s).1 (skipBlanks s).2 := by
  fun_induction skipBlanks s with
  | case1 r => exact ⟨.inr (.inr ⟨rfl, rfl⟩), trivial⟩
  | case2 c r _ blank lead rest same ih =>
    rw [same] at ih
    have space : c = ' ' ∨ c = '\t' := by simpa [isSpace] using blank
    exact ⟨space.imp_right .inl, ih⟩
  | case3 => trivial
  | case4 => trivial

theorem line_spells (lead s : Text) :
    Token.Kind.Spells .text False (line lead s).value (line lead s).source :=
  ⟨False.elim, fun _ => Text.dropEnd_append '\r' _⟩

theorem word_spells (previous : Option Token.Kind) (lead s : Text) :
    (word previous lead s).kind.Spells False (word previous lead s).value
      (word previous lead s).source := by
  unfold word
  split
  · rfl
  · split
    · rfl
    · exact line_spells lead s

theorem plain_spells (previous : Option Token.Kind) (lead s : Text) :
    (plain previous lead s).kind.Spells False (plain previous lead s).value
      (plain previous lead s).source := by
  unfold plain
  split
  · rfl
  · rfl
  · rfl
  · rfl
  · next c r _ _ _ =>
    split
    · next mark =>
      split
      · rcases mark with rfl | rfl <;> rfl
      · exact line_spells lead (c :: r)
    · exact word_spells previous lead (c :: r)

theorem plain_lead (previous : Option Token.Kind) (lead s : Text) :
    (plain previous lead s).lead = lead := by
  have word_lead (s : Text) : (word previous lead s).lead = lead := by
    unfold word
    split
    · rfl
    · split <;> rfl
  unfold plain
  split
  · rfl
  · rfl
  · rfl
  · rfl
  · split
    · split <;> rfl
    · exact word_lead _

theorem plain_ended {previous : Option Token.Kind} {lead s : Text}
    (ended : (plain previous lead s).kind = .endOfInput) : s = [] := by
  have word_goes_on (s : Text) : (word previous lead s).kind ≠ .endOfInput := by
    unfold word
    split
    · simp
    · split <;> simp [line]
  unfold plain at ended
  split at ended
  · rfl
  · cases ended
  · cases ended
  · cases ended
  · split at ended
    · split at ended
      · simp only [marked] at ended
        split at ended <;> cases ended
      · cases ended
    · exact absurd ended (word_goes_on _)

structure Stands (previous : Option Token.Kind) (x : Lexeme) : Prop where
  gap : IsGap x.lead (x.source ++ x.rest)
  spelled : (previous = some .quote ∧ x.kind = .text ∧ x.source = escapeQuotes x.value ∧
      ∃ r, x.rest = '"' :: r) ∨
    (x.kind.Spells False x.value x.source ∧ (x.kind = .text → ∀ c ∈ x.rest.head?, c = '\n'))
  ended : x.kind = .endOfInput → x.source ++ x.rest = []

theorem spaced_stands (previous : Option Token.Kind) (s : Text) :
    (spaced previous s).Stands previous := by
  have whole := plain_tiles previous (skipBlanks s).1 (skipBlanks s).2
  rw [Tiles, plain_lead, List.append_assoc, List.append_right_inj] at whole
  refine ⟨?_, .inr ⟨plain_spells previous _ _, plain_stops⟩, fun ended => ?_⟩
  · rw [spaced, plain_lead, whole]
    exact skipBlanks_isGap s
  · rw [spaced, whole]
    exact plain_ended ended

theorem indent_stands {previous : Option Token.Kind} {s : Text} {x : Lexeme}
    (found : indent s = .ok x) : x.Stands previous := by
  unfold indent at found
  split at found
  · cases found
    exact ⟨trivial, .inr ⟨.inl rfl, by simp⟩, by simp⟩
  · cases found
    exact ⟨trivial, .inr ⟨.inr rfl, by simp⟩, by simp⟩
  · cases found

theorem read_stands {previous : Option Token.Kind} {s : Text} {x : Lexeme}
    (found : read previous s = .ok x) : x.Stands previous := by
  unfold read at found
  split at found
  · exact indent_stands found
  · split at found
    · next closed =>
      cases found
      split at closed
      · next quote =>
        have string := closed?_escaped closed
        exact ⟨trivial, .inl ⟨quote, rfl, string, (closed?_means closed).2⟩, by simp⟩
      · cases closed
    · cases found
      exact spaced_stands previous s

theorem noUnit_of_read {previous : Option Token.Kind} {s spaces : Text}
    (failed : read previous s = .error spaces) : s.head? = some ' ' ∧ NoUnit s := by
  unfold read at failed
  split at failed
  · next opens =>
    simp only [Bool.and_eq_true] at opens
    have none : NoUnit s := by
      constructor
      · rintro r rfl
        cases failed
      · rintro r rfl
        cases failed
    refine ⟨?_, none⟩
    cases s with
    | nil => cases opens.2
    | cons c r =>
      have space : c = ' ' ∨ c = '\t' := by simpa [isSpace] using opens.2
      rcases space with rfl | rfl
      · rfl
      · exact absurd rfl (none.no_tab r)
  · split at failed <;> cases failed

theorem spaces_of_read {previous : Option Token.Kind} {s spaces : Text}
    (failed : read previous s = .error spaces) : s.takeWhile (· == ' ') = spaces := by
  have none := (noUnit_of_read failed).2
  unfold read at failed
  split at failed
  · exact Except.error.inj ((indent_of_noUnit none).symm.trans failed)
  · split at failed <;> cases failed

end Lexeme

/-- Whether tokens are what stands in a text up to what is left of it: one after the other, each at
the place that it says, spelled in full, and nothing but gaps between them.  In front of the text
is `before`, and the last token in there is `previous`. -/
inductive Tiled (left : Text) : Option Token.Kind → Text → List Token → Text → Prop
  | none (previous : Option Token.Kind) (before : Text) : Tiled left previous before [] left
  | token {previous : Option Token.Kind} {before gap source after : Text} {t : Token}
      {ts : List Token} :
      IsGap gap (source ++ after) →
      t.location = .behind (before ++ gap) →
      t.kind.Spells (previous = some .quote ∧ ts.head?.map (·.kind) = some .quote) t.value source →
      Tiled left (some t.kind) (before ++ gap ++ source) ts after →
      Tiled left previous before (t :: ts) (gap ++ source ++ after)

namespace Stream

def listed : Stream → List Token
  | .ended place => [⟨.endOfInput, [], place⟩]
  | .malformed _ => []
  | .cons t rest => t :: rest.listed

theorem tokens_cons {t : Token} {rest : Stream} {ts : List Token} (h : rest.tokens = .ok ts) :
    (cons t rest).tokens = .ok (t :: ts) := by
  rw [tokens, h]
  rfl

theorem tokens_cons_error {t : Token} {rest : Stream} {e : Error} (h : rest.tokens = .error e) :
    (cons t rest).tokens = .error e := by
  rw [tokens, h]
  rfl

theorem head?_listed {l : Lexer} (stops : ∀ c ∈ l.rest.head?, c = '\n') :
    (ofLexer l).listed.head?.map (·.kind) ≠ some .quote := by
  -- what comes behind a text outside of quotes is the end of its line, or that of the input
  cases rest : l.rest with
  | nil =>
    have found : l.lexeme = .ok ⟨[], .endOfInput, [], [], []⟩ := by
      rw [Lexer.lexeme, rest, Lexeme.read_end]
    rw [ofLexer_ended found rfl]
    simp [listed]
  | cons c r =>
    have line_end : c = '\n' := stops c (by rw [rest]; rfl)
    have found : l.lexeme = .ok ⟨[], .lineBreak, ['\n'], ['\n'], r⟩ := by
      rw [Lexer.lexeme, rest, line_end, Lexeme.read_lineBreak]
    rw [ofLexer_cons found (by simp)]
    simp [listed, Lexer.token]

theorem spells_listed {l : Lexer} {x : Lexeme} (found : l.lexeme = .ok x)
    (stands : x.Stands (l.previous.map (·.kind))) :
    x.kind.Spells (l.previous.map (·.kind) = some .quote ∧
      (ofLexer (l.after x)).listed.head?.map (·.kind) = some .quote) x.value x.source := by
  rcases stands.spelled with ⟨quote, text, source, r, rest⟩ | ⟨spelled, stops⟩
  · obtain ⟨y, read, kind⟩ := (Lexer.token_sound found).2 ⟨r, text, rest⟩
    rw [text, ofLexer_cons read (by simp [kind])]
    refine ⟨fun _ => source, fun not_quoted => absurd ⟨quote, ?_⟩ not_quoted⟩
    simp [listed, Lexer.token, kind]
  · by_cases text : x.kind = .text
    · rw [text] at spelled ⊢
      exact ⟨fun quoted => absurd quoted.2 (head?_listed (stops text)),
        fun _ => spelled.2 not_false⟩
    · cases kind : x.kind with
      | text => exact absurd kind text
      | _ => rw [kind] at spelled; exact spelled

def Ends (s : Stream) (whole left : Text) : Prop :=
  (s.tokens = .ok s.listed ∧ left = []) ∨
    ∃ taken, whole = taken ++ left ∧ s.tokens = .error ⟨.malformedIndent, .behind taken⟩ ∧
      left.head? = some ' ' ∧ Lexeme.NoUnit left

theorem tiled_listed (l : Lexer) {before : Text} (place : l.location = .behind before) :
    ∃ left, Tiled left (l.previous.map (·.kind)) before (ofLexer l).listed l.rest ∧
      (ofLexer l).Ends (before ++ l.rest) left := by
  -- a lexer is always at the place behind all that it has read
  have behind (s : Text) : l.location.past s = .behind (before ++ s) := by
    rw [place, ← Location.past_start, ← Location.past_append, Location.past_start]
  fun_induction ofLexer l generalizing before with
  | case1 l t l' taken ended =>
    obtain ⟨x, found, rfl, rfl⟩ := Lexer.next_eq_ok taken
    have stands := Lexeme.read_stands found
    obtain ⟨source, rest⟩ := List.append_eq_nil_iff.1 (stands.ended ended)
    have whole : x.lead ++ x.source ++ x.rest = l.rest := Lexeme.read_tiles found
    refine ⟨[], ?_, .inl ⟨rfl, rfl⟩⟩
    rw [← whole, rest]
    refine .token (rest ▸ stands.gap) (behind x.lead) ?_ (.none _ _)
    exact source
  | case2 l t l' taken more ih =>
    obtain ⟨x, found, rfl, rfl⟩ := Lexer.next_eq_ok taken
    have stands := Lexeme.read_stands found
    have whole : x.lead ++ x.source ++ x.rest = l.rest := Lexeme.read_tiles found
    have place' : (l.after x).location = .behind (before ++ x.lead ++ x.source) := by
      rw [Lexer.after, ← Location.past_append, behind, List.append_assoc]
    obtain ⟨left, tiled, ends⟩ := ih place' fun s => by
      rw [place', ← Location.past_start, ← Location.past_append, Location.past_start]
    have same : before ++ x.lead ++ x.source ++ (l.after x).rest = before ++ l.rest := by
      rw [← whole]
      simp [Lexer.after]
    rw [same] at ends
    refine ⟨left, ?_, ?_⟩
    · rw [← whole]
      exact .token stands.gap (behind x.lead) (spells_listed found stands) tiled
    · rcases ends with ⟨tokens, rfl⟩ | ⟨taken, whole, failed, short⟩
      · exact .inl ⟨tokens_cons tokens, rfl⟩
      · exact .inr ⟨taken, whole, tokens_cons_error failed, short⟩
  | case3 l e l' failed =>
    cases found : l.lexeme with
    | ok x => rw [Lexer.next, found] at failed; cases failed
    | error spaces =>
      rw [Lexer.next, found] at failed
      cases failed
      refine ⟨l.rest, .none _ _, .inr ⟨before, rfl, ?_, Lexeme.noUnit_of_read found⟩⟩
      rw [tokens, place]

theorem related_self {P : Token → Token → Prop} {M : Location → Location → Prop} {s : Stream}
    (token : ∀ t ∈ s.listed, P t t)
    (malformed : ∀ place, s.tokens = .error ⟨.malformedIndent, place⟩ → M place place) :
    s.Related P M s := by
  induction s with
  | ended place => exact .ended ⟨rfl, rfl, token _ List.mem_cons_self⟩
  | malformed place => exact .malformed (malformed place rfl)
  | cons t rest ih =>
    obtain ⟨here, later⟩ := List.forall_mem_cons.1 token
    refine .token ⟨rfl, rfl, here⟩ (ih later fun place failed => ?_)
    exact malformed place (tokens_cons_error failed)

end Stream

mutual

def Component.markers : Component → List Token
  | ⟨name, properties, children, location⟩ =>
    ⟨.component, name, location⟩ :: (propertiesMarkers properties ++ nodesMarkers children)

def propertiesMarkers : List Property → List Token
  | [] => []
  | ⟨_, value⟩ :: rest => value.markers ++ propertiesMarkers rest

def Value.markers : Value → List Token
  | .component inner => inner.markers
  | _ => []

def nodesMarkers : List Node → List Token
  | [] => []
  | .text _ :: rest => nodesMarkers rest
  | .component inner :: rest => inner.markers ++ nodesMarkers rest

end

def Document.markers (d : Document) : List Token := nodesMarkers d.nodes

section

variable {P : Token → Token → Prop}

mutual

theorem Component.Related.markers {c c' : Component} (related : c.Related P c') :
    ∀ m ∈ c.markers, ∃ m', P m m' := by
  match c, related with
  | ⟨name, properties, children, location⟩, .mk mark values nodes =>
    simp only [Component.markers, List.forall_mem_cons, List.forall_mem_append]
    exact ⟨⟨_, mark.places⟩, values.markers, nodes.markers⟩

theorem RelatedProperties.markers {ps ps' : List Property} (related : RelatedProperties P ps ps') :
    ∀ m ∈ propertiesMarkers ps, ∃ m', P m m' := by
  match ps, related with
  | [], .nil => exact fun m member => nomatch member
  | ⟨name, v⟩ :: rest, .cons value later =>
    rw [propertiesMarkers, List.forall_mem_append]
    exact ⟨value.markers, later.markers⟩

theorem Value.Related.markers {v v' : Value} (related : v.Related P v') :
    ∀ m ∈ v.markers, ∃ m', P m m' := by
  match v, related with
  | .string _, _ => exact fun m member => nomatch member
  | .flag, _ => exact fun m member => nomatch member
  | .component inner, .component same => exact same.markers

theorem RelatedNodes.markers {ns ns' : List Node} (related : RelatedNodes P ns ns') :
    ∀ m ∈ nodesMarkers ns, ∃ m', P m m' := by
  match ns, related with
  | [], .nil => exact fun m member => nomatch member
  | .text _ :: rest, .text _ later => exact later.markers
  | .component inner :: rest, .component same later =>
    rw [nodesMarkers, List.forall_mem_append]
    exact ⟨same.markers, later.markers⟩

end

end

/-- Every text is tiled by its tokens, to its end unless it has a malformed indentation.  Every
component of a parsed document is where its mark is, and every error is where the token is that it
is about. -/
theorem tokenize_tiles (s : Text) :
    ∃ ts left, Tiled left none [] ts s ∧
      ((tokenize s = .ok ts ∧ left = []) ∨
        ∃ taken, s = taken ++ left ∧ tokenize s = .error ⟨.malformedIndent, .behind taken⟩ ∧
          left.head? = some ' ' ∧ Lexeme.NoUnit left) ∧
      (∀ d, parse s = .ok d → ∀ m ∈ d.markers, m ∈ ts) ∧
      ∀ e, parse s = .error e → (∃ t ∈ ts, e.About t) ∨ tokenize s = .error e := by
  obtain ⟨left, tiled, ends⟩ := Stream.tiled_listed (.start s)
    (show (Lexer.start s).location = .behind [] from rfl)
  refine ⟨(Stream.ofText s).listed, left, tiled, ends, ?_⟩
  have traced : Traced (fun t t' => t = t' ∧ t ∈ (Stream.ofText s).listed)
      (fun place place' => place = place' ∧ tokenize s = .error ⟨.malformedIndent, place⟩)
      (Document.Related _) (parse s) (parse s) :=
    (Stream.related_self (fun t member => ⟨rfl, member⟩) fun place failed => ⟨rfl, failed⟩).parse
  constructor
  · intro d parsed m member
    rw [parsed] at traced
    cases traced with
    | ok related =>
      obtain ⟨-, -, listed⟩ := RelatedNodes.markers related m member
      exact listed
  · intro e failed
    rw [failed] at traced
    cases traced with
    | about token about _ _ => exact .inl ⟨_, token.places.2, about⟩
    | malformed places => exact .inr places.2

end Markup
end Inlay
