import Inlay.Proofs.Markup.Nesting
import Inlay.Proofs.Markup.Parts
import Mathlib.Data.List.TakeWhile

namespace Inlay.Markup
open Attempt

namespace Lexeme

/-- What a lexeme stands for; a text that is no line is followed by a quote. -/
def Sound (x : Lexeme) : Prop :=
  match x.kind with
  | .component | .flag | .property => IsName x.value
  | .text => '\n' ∉ x.value ∧ ((∃ r, x.rest = '"' :: r) ∨ Line x.value)
  | .number => '\n' ∉ x.value
  | _ => True

theorem closed?_means {s inside rest : Text} (h : closed? s = some (inside, rest)) :
    '\n' ∉ inside ∧ ∃ r, rest = '"' :: r := by
  fun_induction closed? s generalizing inside rest with
  | case1 => cases h
  | case2 r ih =>
    obtain ⟨⟨i, t⟩, found, same⟩ := Option.map_eq_some_iff.1 h
    cases same
    obtain ⟨one_line, quote⟩ := ih found
    exact ⟨by simp [one_line], quote⟩
  | case3 => cases h
  | case4 r => cases h; exact ⟨List.not_mem_nil, r, rfl⟩
  | case5 c r _ no_break _ ih =>
    obtain ⟨⟨i, t⟩, found, same⟩ := Option.map_eq_some_iff.1 h
    cases same
    obtain ⟨one_line, quote⟩ := ih found
    exact ⟨by simp [one_line, Ne.symm no_break], quote⟩

theorem mem_of_mem_unescape {s : Text} {c : Char} (h : c ∈ unescape s) : c ∈ s := by
  fun_induction unescape s with
  | case1 r ih =>
    rcases List.mem_cons.1 h with rfl | later
    · simp
    · exact List.mem_cons_of_mem _ (List.mem_cons_of_mem _ (ih later))
  | case2 d r _ ih =>
    rcases List.mem_cons.1 h with rfl | later
    · exact List.mem_cons_self
    · exact List.mem_cons_of_mem _ (ih later)
  | case3 => cases h

theorem number?_one_line {s literal rest : Text} (h : number? s = some (literal, rest)) :
    '\n' ∉ literal := by
  simp only [number?, Option.ite_none_right_eq_some, Option.some.injEq, Prod.mk.injEq] at h
  obtain ⟨-, rfl, -⟩ := h
  intro member
  have inside := List.mem_takeWhile_imp ((Text.dropEnd_initial _ _).subset member)
  simp at inside

theorem property?_named {s name rest : Text} (h : property? s = some (name, rest)) :
    (∀ c ∈ name, isNameChar c) ∧ ∃ r, rest = ':' :: r := by
  unfold property? at h
  split at h
  · next name r cut =>
    obtain ⟨rfl, rfl⟩ := Prod.mk.inj (Option.some.inj h)
    refine ⟨fun c member => ?_, r, rfl⟩
    rw [← show (Text.split isNameChar s).1 = name from congrArg Prod.fst cut] at member
    exact List.mem_takeWhile_imp member
  · cases h

theorem property?_isName {c : Char} {s name rest : Text} (no_colon : c ≠ ':')
    (h : property? (c :: s) = some (name, rest)) : IsName name := by
  obtain ⟨chars, r, rfl⟩ := property?_named h
  refine ⟨?_, chars⟩
  rintro rfl
  exact no_colon (List.cons.inj (property?_append h)).1.symm

theorem property?_of_name {name r : Text} (chars : ∀ c ∈ name, isNameChar c) :
    property? (name ++ ':' :: r) = some (name, ':' :: r) := by
  have no_colon : isNameChar ':' = false := by decide
  rw [property?, Text.split, List.takeWhile_append_of_pos chars, List.dropWhile_append_of_pos chars]
  simp [no_colon]

theorem marked_sound {lead : Text} {kind : Token.Kind} {mark : Char} {s : Text}
    (name : s.head?.any isNameChar) (named : kind = .component ∨ kind = .flag) :
    (marked lead kind mark s).Sound := by
  have value : IsName (marked lead kind mark s).value := by
    refine ⟨?_, fun d member => List.mem_takeWhile_imp member⟩
    cases s with
    | nil => cases name
    | cons c r =>
      have first : isNameChar c := name
      simp [marked, Text.split, first]
  rcases named with rfl | rfl
  · exact value
  · exact value

theorem line_sound {lead : Text} {c : Char} {r : Text} (no_blank : ¬isSpace c)
    (no_sign : c ≠ '"' ∧ c ≠ ':') (no_mark : c = '\\' ∨ c = '!' → ¬r.head?.any isNameChar)
    (no_property : c = '\\' ∨ c = '!' ∨ property? (c :: r) = none) :
    (line lead (c :: r)).Sound := by
  -- The value is the beginning of the text.
  have start : (line lead (c :: r)).value <+: c :: r :=
    (Text.dropEnd_initial _ _).trans (List.takeWhile_prefix _)
  have one_line : '\n' ∉ (line lead (c :: r)).value := by
    intro member
    have inside := List.mem_takeWhile_imp ((Text.dropEnd_initial _ _).subset member)
    simp at inside
  refine ⟨one_line, .inr fun nonempty => ?_⟩
  have first : ∀ d t, (line lead (c :: r)).value = d :: t → d = c ∧ t <+: r := by
    intro d t same
    rw [same] at start
    exact List.cons_prefix_cons.1 start
  refine ⟨nonempty, one_line, ?_, ?_, ?_, ?_, ?_⟩
  · exact fun last => Text.getLast?_dropEnd last (by rfl)
  · intro d t same
    obtain ⟨rfl, -⟩ := first d t same
    simpa [isSpace] using no_blank
  · intro d t same
    obtain ⟨rfl, -⟩ := first d t same
    exact no_sign
  · intro d m t same mark
    obtain ⟨rfl, tail⟩ := first d _ same
    obtain ⟨u, rfl⟩ := tail
    exact no_mark mark
  · intro name t same chars
    obtain ⟨u, whole⟩ := start
    rw [same] at whole
    have found : property? (c :: r) = some (name, ':' :: (t ++ u)) := by
      rw [← whole, List.append_assoc, List.cons_append]
      exact property?_of_name chars
    have named (d : Char) (other : ¬isNameChar d) (no_colon : d ≠ ':') : c ≠ d := by
      rintro rfl
      obtain ⟨nonempty, _⟩ := property?_isName no_colon found
      cases name with
      | nil => exact nonempty rfl
      | cons e es =>
        cases whole
        exact other (chars _ List.mem_cons_self)
    rcases no_property with rfl | rfl | none
    · exact named '\\' (by decide) (by decide) rfl
    · exact named '!' (by decide) (by decide) rfl
    · rw [found] at none
      cases none

theorem plain_sound {previous : Option Token.Kind} {lead s : Text}
    (no_blank : ∀ c ∈ s.head?, ¬isSpace c) : (plain previous lead s).Sound := by
  unfold plain
  split
  · trivial
  · trivial
  · trivial
  · trivial
  · next c r no_quote no_colon no_break =>
    have sign : c ≠ '"' ∧ c ≠ ':' := ⟨no_quote, no_colon⟩
    split
    · next mark =>
      split
      · next name =>
        refine marked_sound name ?_
        split
        · exact .inl rfl
        · exact .inr rfl
      · next name =>
        exact line_sound (no_blank c rfl) sign (fun _ => name) (mark.imp_right .inl)
    · next mark =>
      unfold word
      split
      · next found =>
        split at found
        · exact number?_one_line found
        · cases found
      · split
        · next found => exact property?_isName sign.2 found
        · next found =>
          exact line_sound (no_blank c rfl) sign (fun h => absurd h mark) (.inr (.inr found))

theorem plain_stops {previous : Option Token.Kind} {lead s : Text}
    (text : (plain previous lead s).kind = .text) :
    ∀ c ∈ (plain previous lead s).rest.head?, c = '\n' := by
  have stops (t : Text) : ∀ c ∈ (line lead t).rest.head?, c = '\n' := by
    intro c head
    have stop := List.head?_dropWhile_not (· != '\n') t
    rw [show (t.dropWhile (· != '\n')).head? = some c from head] at stop
    simpa using stop
  unfold plain at text ⊢
  split
  · cases text
  · cases text
  · cases text
  · cases text
  · next c r no_quote no_colon no_break =>
    split
    · split
      · simp only [*, if_true] at text
        split at text <;> cases text
      · exact stops _
    · unfold word at text ⊢
      split
      · simp_all
      · split
        · simp_all
        · exact stops _

theorem skipBlanks_no_blank (s : Text) : ∀ c ∈ (skipBlanks s).2.head?, ¬isSpace c := by
  fun_induction skipBlanks s with
  | case1 r => intro c head; cases head; decide
  | case2 c r _ _ lead rest same ih => rwa [same] at ih
  | case3 c r _ no_blank => intro d head; cases head; exact no_blank
  | case4 => intro c head; cases head

theorem read_sound {previous : Option Token.Kind} {s : Text} {x : Lexeme}
    (h : read previous s = .ok x) : x.Sound := by
  unfold read at h
  split at h
  · unfold indent at h
    split at h
    · cases h; trivial
    · cases h; trivial
    · cases h
  · split at h
    · next found =>
      cases h
      split at found
      · obtain ⟨one_line, quote⟩ := closed?_means found
        exact ⟨fun member => one_line (mem_of_mem_unescape member), .inl quote⟩
      · cases found
    · cases h
      exact plain_sound (skipBlanks_no_blank s)

end Lexeme

def Lexer.after (l : Lexer) (x : Lexeme) : Lexer :=
  ⟨x.rest, (l.location.past x.lead).past x.source, some (l.token x)⟩

theorem Lexer.next_eq_ok {l l' : Lexer} {t : Token} (h : l.next = (.ok t, l')) :
    ∃ x, l.lexeme = .ok x ∧ t = l.token x ∧ l' = l.after x := by
  unfold next at h
  split at h
  · next x found => cases h; exact ⟨x, found, rfl, rfl⟩
  · cases h

theorem Lexer.after_lighter {l : Lexer} {x : Lexeme} (found : l.lexeme = .ok x)
    (more : x.kind ≠ .endOfInput) : (l.after x).weight < l.weight := by
  have read : l.next = (.ok (l.token x), l.after x) := by
    rw [next, found]
    rfl
  exact (next_lighter read).resolve_left more

theorem Stream.ofLexer_eq (l : Lexer) :
    ofLexer l = match l.lexeme with
      | .error _ => .malformed l.location
      | .ok x =>
        if x.kind = .endOfInput then .ended (l.token x).location
        else .cons (l.token x) (ofLexer (l.after x)) := by
  rw [ofLexer]
  split
  · next t l' taken =>
    obtain ⟨x, found, rfl, rfl⟩ := Lexer.next_eq_ok taken
    simp only [found]
    rfl
  · next e l' failed =>
    cases found : l.lexeme with
    | ok x =>
      rw [Lexer.next, found] at failed
      cases failed
    | error spaces =>
      rw [Lexer.next, found] at failed
      cases failed
      rfl

theorem Stream.ofLexer_cons {l : Lexer} {x : Lexeme} (found : l.lexeme = .ok x)
    (more : x.kind ≠ .endOfInput) : ofLexer l = .cons (l.token x) (ofLexer (l.after x)) := by
  rw [ofLexer_eq, found]
  exact if_neg more

theorem Stream.ofLexer_ended {l : Lexer} {x : Lexeme} (found : l.lexeme = .ok x)
    (ended : x.kind = .endOfInput) : ofLexer l = .ended (l.token x).location := by
  rw [ofLexer_eq, found]
  exact if_pos ended

theorem Stream.ofLexer_congr {l l' : Lexer} (lexeme : l.lexeme = l'.lexeme)
    (place : l.location = l'.location) : ofLexer l = ofLexer l' := by
  have token (x : Lexeme) : l.token x = l'.token x := by rw [Lexer.token, Lexer.token, place]
  have after (x : Lexeme) : l.after x = l'.after x := by rw [Lexer.after, Lexer.after, token, place]
  rw [ofLexer_eq l, ofLexer_eq l', lexeme, place]
  cases l'.lexeme with
  | error spaces => rfl
  | ok x => simp only [token, after]

def Item.Of (line string : Text → Prop) : Item → Prop
  | component name _ => IsName name
  | text s => line s
  | flag name => IsName name
  | .string name s => IsName name ∧ string s
  | number name s => IsName name ∧ string s
  | block name _ => IsName name

theorem Item.Of.mono {line line' string string' : Text → Prop} (lines : ∀ s, line s → line' s)
    (strings : ∀ s, string s → string' s) {item : Item} (h : item.Of line string) :
    item.Of line' string' := by
  cases item with
  | component name location => exact h
  | text s => exact lines s h
  | flag name => exact h
  | string name s => exact ⟨h.1, strings s h.2⟩
  | number name s => exact ⟨h.1, strings s h.2⟩
  | block name opening => exact h

def Reader.Sound : Reader → Prop
  | item _ => True
  | property _ name await => IsName name ∧ ∀ s, await = .closing s → '\n' ∉ s

theorem Lexer.token_sound {l : Lexer} {x : Lexeme} (found : l.lexeme = .ok x) :
    x.Sound ∧ ((∃ r, x.kind = .text ∧ x.rest = '"' :: r) →
      ∃ y, (l.after x).lexeme = .ok y ∧ y.kind = .quote) := by
  refine ⟨Lexeme.read_sound found, ?_⟩
  rintro ⟨r, kind, rest⟩
  refine ⟨⟨[], .quote, ['"'], ['"'], r⟩, ?_, rfl⟩
  simp only [lexeme, after, token, Option.map_some, kind, rest]
  rfl

theorem Reader.step_sound {r r' : Reader} {l : Lexer} {x : Lexeme} {e : Option Entry}
    (sound : r.Sound) (token : x.Sound) (h : r.step (l.token x) = some (e, r')) :
    r'.Sound ∧ ((∀ e' ∈ e, e'.item.Of Line ('\n' ∉ ·)) ∨
      ((∃ level, r' = .item level) ∧ ∃ rest, x.kind = .text ∧ x.rest = '"' :: rest)) := by
  cases r with
  | item level =>
    simp only [step, Lexer.token] at h
    split at h <;> cases h <;> rename_i kind <;> simp only [Lexeme.Sound, kind] at token
    · exact ⟨trivial, .inl (by simp)⟩
    · exact ⟨trivial, .inl (by simp)⟩
    · exact ⟨trivial, .inl (by simpa [Item.Of] using token)⟩
    · refine ⟨trivial, ?_⟩
      rcases token.2 with ⟨rest, quote⟩ | line
      · exact .inr ⟨⟨level, rfl⟩, rest, kind, quote⟩
      · exact .inl (by simpa [Item.Of] using line)
    · exact ⟨trivial, .inl (by simpa [Item.Of] using token)⟩
    · exact ⟨⟨token, by simp⟩, .inl (by simp)⟩
  | property level name await =>
    obtain ⟨isName, closing⟩ := sound
    simp only [step, Lexer.token] at h
    split at h <;> cases h <;> rename_i kind <;> simp only [Lexeme.Sound, kind] at token
    · exact ⟨⟨isName, by simp⟩, .inl (by simp)⟩
    · exact ⟨⟨isName, by simp⟩, .inl (by simp)⟩
    · exact ⟨trivial, .inl (by simpa [Item.Of] using ⟨isName, token⟩)⟩
    · exact ⟨trivial, .inl (by simpa [Item.Of] using isName)⟩
    · refine ⟨⟨isName, fun s same => ?_⟩, .inl (by simp)⟩
      cases same
      exact token.1
    · exact ⟨trivial, .inl (by simpa [Item.Of] using ⟨isName, closing _ rfl⟩)⟩

theorem Stream.entries?_sound (l : Lexer) {r : Reader} {es : List Entry} (sound : r.Sound)
    (h : (Stream.ofLexer l).entries? r = some es) : ∀ e ∈ es, e.item.Of Line ('\n' ∉ ·) := by
  fun_induction Stream.ofLexer l generalizing r es with
  | case1 l t l' taken ended =>
    cases r with
    | item level => cases h; exact fun e member => nomatch member
    | property => cases h
  | case2 l t l' taken more ih =>
    obtain ⟨x, found, rfl, rfl⟩ := Lexer.next_eq_ok taken
    simp only [entries?, Option.bind_eq_bind, Option.bind_eq_some_iff] at h
    obtain ⟨⟨e, r'⟩, stepped, es', later, same⟩ := h
    cases same
    obtain ⟨token, quote⟩ := Lexer.token_sound found
    obtain ⟨next, entry⟩ := Reader.step_sound sound token stepped
    rcases entry with entry | ⟨⟨level, rfl⟩, quoted⟩
    · intro e' member
      rcases List.mem_append.1 member with here | after
      · exact entry e' (Option.mem_toList.1 here)
      · exact ih next later e' after
    · -- The quote at the end of the text is the next token, and no item begins with it.
      obtain ⟨y, read, kind⟩ := quote quoted
      rw [ofLexer_cons read (by simp [kind])] at later
      simp [entries?, Reader.step, Lexer.token, kind] at later
  | case3 l e l' failed => cases h

structure Carries (line inline string : Text → Prop) : Prop where
  inline : ∀ s, inline s → string s
  block : ∀ ls, (∀ l ∈ ls, line l) → string (['\n'].intercalate ls)

theorem blockValue_parts {line inline string : Text → Prop} (carries : Carries line inline string)
    {ns : List Node} {place : Location} {v : Value} (h : Parser.blockValue ns place = .ok v)
    (of : ∀ p ∈ nodesParts ns, p.Of line string) : ∀ p ∈ v.parts, p.Of line string := by
  rcases Parser.blockValue_eq_ok h with ⟨inner, rfl, rfl⟩ | ⟨-, rfl⟩
  · simpa [nodesParts, Value.parts] using of
  · intro p member
    cases List.mem_singleton.1 member
    exact carries.block _ fun s line => of _ (line_mem_of_text? line)

namespace Forest

theorem parts_of_nodes? {line inline string : Text → Prop} (carries : Carries line inline string)
    {f : Forest} (of : ∀ e ∈ f.flatten, e.item.Of line inline) :
    (∀ ns, f.nodes? = some ns → ∀ p ∈ nodesParts ns, p.Of line string) ∧
    (∀ ps ns, f.contents? = some (ps, ns) →
      ∀ p ∈ propertiesParts ps ++ nodesParts ns, p.Of line string) := by
  suffices parts :
      (∀ ns, f.nodes? = some ns → (∀ e ∈ f.flatten, e.item.Of line inline) →
        ∀ p ∈ nodesParts ns, p.Of line string) ∧
      ∀ ps ns, f.contents? = some (ps, ns) → (∀ e ∈ f.flatten, e.item.Of line inline) →
        (∀ p ∈ propertiesParts ps, p.Of line string) ∧ ∀ p ∈ nodesParts ns, p.Of line string from
    ⟨fun ns made => parts.1 ns made of,
      fun ps ns made => List.forall_mem_append.2 (parts.2 ps ns made of)⟩
  apply made_induction
  case nodes => exact fun _ => List.forall_mem_nil _
  case component =>
    intro level name location below rest ps under ns inner later of
    obtain ⟨isName, inside, after⟩ := forall_flatten_node.1 of
    simp only [nodesParts, Component.parts, List.forall_mem_append, List.forall_mem_cons]
    exact ⟨⟨isName, inner inside⟩, later after⟩
  case text =>
    intro level s rest ns later of
    obtain ⟨here, -, after⟩ := forall_flatten_node.1 of
    exact List.forall_mem_cons.2 ⟨here, later after⟩
  case contents => exact fun _ => ⟨List.forall_mem_nil _, List.forall_mem_nil _⟩
  case child =>
    intro level name location below rest inners under ps ns inner later of
    obtain ⟨isName, inside, after⟩ := forall_flatten_node.1 of
    simp only [nodesParts, Component.parts, List.forall_mem_append, List.forall_mem_cons]
    exact ⟨(later after).1, ⟨isName, inner inside⟩, (later after).2⟩
  case line =>
    intro level s rest ps ns later of
    obtain ⟨here, -, after⟩ := forall_flatten_node.1 of
    exact ⟨(later after).1, List.forall_mem_cons.2 ⟨here, (later after).2⟩⟩
  case flag =>
    intro level name rest ps ns later of
    obtain ⟨isName, -, after⟩ := forall_flatten_node.1 of
    exact ⟨List.forall_mem_cons.2 ⟨isName, (later after).1⟩, (later after).2⟩
  case string | number =>
    intro level name s rest ps ns later of
    obtain ⟨⟨isName, short⟩, -, after⟩ := forall_flatten_node.1 of
    simp only [propertiesParts, Value.parts, List.cons_append, List.nil_append,
      List.forall_mem_cons]
    exact ⟨⟨isName, carries.inline s short, (later after).1⟩, (later after).2⟩
  case block =>
    intro level name opening below rest inner v ps ns nodes made later of
    obtain ⟨isName, inside, after⟩ := forall_flatten_node.1 of
    simp only [propertiesParts, List.forall_mem_append, List.forall_mem_cons]
    exact ⟨⟨isName, blockValue_parts carries made (nodes inside), (later after).1⟩,
      (later after).2⟩

end Forest

theorem carries_lines {line : Text → Prop} (one_line : ∀ s, line s → '\n' ∉ s) :
    Carries line ('\n' ∉ ·) (Lines line) where
  inline s short several := absurd several short
  block ls lines several := by
    cases ls with
    | nil => cases several
    | cons l ls =>
      rw [Text.pieces_intercalate (List.cons_ne_nil _ _) fun l member =>
        one_line l (lines l member)]
      exact lines

theorem parts_of_parse {s : Text} {d : Document} (h : parse s = .ok d) :
    ∀ p ∈ d.parts, p.Of Line (Lines Line) := by
  obtain ⟨es, read, nodes⟩ := parse_eq_ok.1 h
  have entries : ∀ e ∈ (Forest.ofEntries es).flatten, e.item.Of Line ('\n' ∉ ·) := by
    rw [Forest.flatten_ofEntries]
    have start : (Reader.item 0).Sound := trivial
    exact Stream.entries?_sound _ start read
  have carries := carries_lines fun s (line : Line s) => line.one_line
  exact (Forest.parts_of_nodes? carries entries).1 d.nodes nodes

end Inlay.Markup
