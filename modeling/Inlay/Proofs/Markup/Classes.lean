import Inlay.Proofs.Markup.Numerals
import Inlay.Proofs.Markup.Tiling

namespace Inlay.Markup

/-! ## Texts of tokens -/

namespace Lexeme

variable {previous : Option Token.Kind} {lead s : Text} {x : Lexeme}

theorem unescape_ne_nil {s : Text} (nonempty : s ≠ []) : unescape s ≠ [] := by
  unfold unescape
  split
  · nofun
  · nofun
  · exact nonempty

theorem getLast?_unescape {inside rest : Text} (h : closed? s = some (inside, rest)) :
    (unescape inside).getLast? ≠ some '\\' := by
  fun_induction closed? s generalizing inside rest with
  | case1 => cases h
  | case2 r ih =>
    obtain ⟨⟨i, t⟩, found, same⟩ := Option.map_eq_some_iff.1 h
    cases same
    have later := ih found
    rw [unescape, List.getLast?_cons]
    cases last : (unescape i).getLast? with
    | none => simp
    | some c => simpa [last] using later
  | case3 => cases h
  | case4 => cases h; simp [unescape]
  | case5 c r unescaped no_break no_quote ih =>
    obtain ⟨⟨i, t⟩, found, same⟩ := Option.map_eq_some_iff.1 h
    cases same
    have later := ih found
    obtain ⟨-, t, rfl⟩ := closed?_means found
    -- behind a backslash there is no quote, neither one that is escaped nor the closing one
    have no_escape : c = '\\' → (i ++ '"' :: t).head? ≠ some '"' := by
      rw [closed?_append found]
      rintro rfl head
      cases r with
      | nil => cases head
      | cons d r =>
        cases head
        exact unescaped _ rfl rfl
    cases i with
    | nil =>
      have no_backslash : c ≠ '\\' := fun same => no_escape same rfl
      rw [unescape_cons (s := []) (by simp)]
      simpa [unescape] using no_backslash
    | cons d i =>
      have more := unescape_ne_nil (List.cons_ne_nil d i)
      rw [unescape_cons (s := d :: i) no_escape, List.getLast?_cons_of_ne_nil more]
      exact later

theorem plain_value_ne_nil (text : (plain previous lead s).kind = .text) (no_return : '\r' ∉ s) :
    (plain previous lead s).value ≠ [] := by
  have taken := (plain_progress previous lead s).resolve_left (by rw [text]; nofun)
  have spelled := plain_spells previous lead s
  have whole := plain_tiles previous lead s
  rw [text] at spelled
  obtain ⟨n, source⟩ := spelled.2 not_false
  rw [Tiles, plain_lead, List.append_assoc, List.append_right_inj] at whole
  intro empty
  rw [empty, List.nil_append] at source
  rw [source] at taken whole
  refine no_return (whole ▸ List.mem_append_left _ ?_)
  exact List.mem_replicate.2 ⟨fun none => taken (by rw [none]; rfl), rfl⟩

theorem read_text_ends (found : read previous s = .ok x) (text : x.kind = .text) :
    (x.value.getLast? ≠ some '\\' ∧ ∃ r, x.rest = '"' :: r) ∨
      (∀ c ∈ x.rest.head?, c = '\n') ∧ ('\r' ∉ s → x.value ≠ []) := by
  unfold read at found
  split at found
  · unfold indent at found
    split at found <;> cases found
    · cases text
    · cases text
  · split at found
    · next inside rest closed =>
      cases found
      split at closed
      · exact .inl ⟨getLast?_unescape closed, (closed?_means closed).2⟩
      · cases closed
    · cases found
      refine .inr ⟨plain_stops text, fun no_return => plain_value_ne_nil text fun member => ?_⟩
      exact no_return (skipBlanks_append s ▸ List.mem_append_right _ member)

theorem word_number (number : (word previous lead s).kind = .number) :
    isNumber (word previous lead s).value := by
  revert number
  unfold word
  split
  · next found =>
    split at found
    · intro _
      obtain ⟨number, same⟩ := Option.ite_none_right_eq_some.1 found
      cases same
      exact number
    · cases found
  · split <;> nofun

theorem plain_number (number : (plain previous lead s).kind = .number) :
    isNumber (plain previous lead s).value := by
  revert number
  unfold plain
  split
  · nofun
  · nofun
  · nofun
  · nofun
  · split
    · split
      · next mark _ => rcases mark with rfl | rfl <;> nofun
      · nofun
    · exact word_number

theorem read_number (found : read previous s = .ok x) (number : x.kind = .number) :
    isNumber x.value := by
  unfold read at found
  split at found
  · unfold indent at found
    split at found <;> cases found
    · cases number
    · cases number
  · split at found
    · cases found
      cases number
    · cases found
      exact plain_number number

end Lexeme

/-! ## Texts of entries -/

/-- What the reader knows of a string that is not closed yet: after a backslash, no quote will
follow. -/
def Reader.Awaits (l : Lexer) : Reader → Prop
  | property _ _ (.closing inside) =>
    inside.getLast? = some '\\' → ∀ c ∈ l.rest.head?, c = '\n'
  | _ => True

def Item.Fits (line string : Text → Prop) : Item → Prop
  | text s => line s
  | .string _ s | number _ s => string s
  | _ => True

theorem Item.Of.and {line line' string string' : Text → Prop} {item : Item}
    (h : item.Of line string) (h' : item.Fits line' string') :
    item.Of (fun s => line s ∧ line' s) fun s => string s ∧ string' s := by
  cases item with
  | component name location => exact h
  | text s => exact ⟨h, h'⟩
  | flag name => exact h
  | string name s => exact ⟨h.1, h.2, h'⟩
  | number name s => exact ⟨h.1, h.2, h'⟩
  | block name opening => exact h

theorem Lexer.kind_ne_quote {l : Lexer} {x : Lexeme} (found : l.lexeme = .ok x)
    (stops : ∀ c ∈ l.rest.head?, c = '\n') : x.kind ≠ .quote := by
  rw [lexeme] at found
  cases rest : l.rest with
  | nil =>
    rw [rest, Lexeme.read_end] at found
    cases found
    decide
  | cons c r =>
    obtain rfl : c = '\n' := stops c (by rw [rest]; rfl)
    rw [rest, Lexeme.read_lineBreak] at found
    cases found
    show Token.Kind.lineBreak ≠ .quote
    decide

theorem Stream.entries?_quoted {l : Lexer} {x : Lexeme} (found : l.lexeme = .ok x)
    (text : x.kind = .text) (quote : ∃ r, x.rest = '"' :: r) (level : Nat) :
    (ofLexer (l.after x)).entries? (.item level) = none := by
  obtain ⟨r, rest⟩ := quote
  obtain ⟨y, read, kind⟩ := (Lexer.token_sound found).2 ⟨r, text, rest⟩
  rw [ofLexer_cons read (by simp [kind])]
  simp [entries?, Reader.step, Lexer.token, kind]

theorem Reader.step_fits {source : Text} {l : Lexer} {r r' : Reader} {x : Lexeme}
    {e : Option Entry} (returns : '\r' ∉ source → '\r' ∉ l.rest) (awaits : r.Awaits l)
    (found : l.lexeme = .ok x) (h : r.step (l.token x) = some (e, r')) :
    r'.Awaits (l.after x) ∧
      ((∀ e' ∈ e, e'.item.Fits (fun s => '\r' ∉ source → s ≠ []) (·.getLast? ≠ some '\\')) ∨
        (Stream.ofLexer (l.after x)).entries? r' = none) := by
  cases r with
  | item level =>
    simp only [step, Lexer.token] at h
    split at h <;> cases h <;> rename_i kind
    · exact ⟨trivial, .inl (by simp)⟩
    · exact ⟨trivial, .inl (by simp)⟩
    · exact ⟨trivial, .inl (by simp [Item.Fits])⟩
    · refine ⟨trivial, ?_⟩
      rcases Lexeme.read_text_ends found kind with ⟨-, quote⟩ | ⟨-, nonempty⟩
      · exact .inr (Stream.entries?_quoted found kind quote level)
      · exact .inl (by simpa [Item.Fits] using fun none => nonempty (returns none))
    · exact ⟨trivial, .inl (by simp [Item.Fits])⟩
    · exact ⟨trivial, .inl (by simp)⟩
  | property level name await =>
    simp only [step, Lexer.token] at h
    split at h <;> cases h <;> rename_i kind
    · exact ⟨trivial, .inl (by simp)⟩
    · exact ⟨trivial, .inl (by simp)⟩
    · refine ⟨trivial, .inl ?_⟩
      obtain ⟨n, same⟩ := Lexeme.isNumber_iff.1 (Lexeme.read_number found kind)
      have digit : x.value.getLast? ≠ some '\\' := fun last =>
        absurd (n.isDigit_last (same ▸ last)) (by decide)
      simpa [Item.Fits] using digit
    · exact ⟨trivial, .inl (by simp [Item.Fits])⟩
    · refine ⟨fun last => ?_, .inl (by simp)⟩
      rcases Lexeme.read_text_ends found kind with ⟨other, -⟩ | ⟨stops, -⟩
      · exact absurd last other
      · exact stops
    · have closed := fun last => Lexer.kind_ne_quote found (awaits last) kind
      exact ⟨trivial, .inl (by simpa [Item.Fits] using closed)⟩

theorem Stream.entries?_fits {source : Text} (l : Lexer) {r : Reader} {es : List Entry}
    (returns : '\r' ∉ source → '\r' ∉ l.rest) (awaits : r.Awaits l)
    (h : (Stream.ofLexer l).entries? r = some es) :
    ∀ e ∈ es, e.item.Fits (fun s => '\r' ∉ source → s ≠ []) (·.getLast? ≠ some '\\') := by
  fun_induction Stream.ofLexer l generalizing r es with
  | case1 l t l' taken ended =>
    cases r with
    | item level => cases h; exact fun e member => absurd member List.not_mem_nil
    | property => cases h
  | case2 l t l' taken more ih =>
    obtain ⟨x, found, rfl, rfl⟩ := Lexer.next_eq_ok taken
    simp only [entries?, Option.bind_eq_bind, Option.bind_eq_some_iff] at h
    obtain ⟨⟨e, r'⟩, stepped, es', later, same⟩ := h
    cases same
    obtain ⟨awaits, entry⟩ := Reader.step_fits returns awaits found stepped
    have returns' : '\r' ∉ source → '\r' ∉ (l.after x).rest := fun none member =>
      returns none (Lexeme.read_tiles found ▸ List.mem_append_right _ member)
    rcases entry with fits | stuck
    · intro e' member
      rcases List.mem_append.1 member with here | after
      · exact fits e' (Option.mem_toList.1 here)
      · exact ih returns' awaits later e' after
    · rw [stuck] at later
      cases later
  | case3 l e l' failed => cases h

/-! ## Pieces of a document -/

inductive Piece
  | name (s : Text)
  | line (s : Text)
  | inline (s : Text)
  | block (s : Text)

namespace Piece

def part : Piece → Part
  | name s => .name s
  | line s => .line s
  | inline s | block s => .string s

def line? : Piece → Option Text
  | line s => some s
  | _ => none

def ofBlock : List Piece → List Piece
  | name s :: rest => name s :: rest
  | ps => [block (['\n'].intercalate (ps.filterMap line?))]

def Of (line inline : Text → Prop) : Piece → Prop
  | name s => IsName s
  | .line s => line s
  | .inline s => inline s
  | block s => ∀ p ∈ Text.pieces '\n' s, Line p

end Piece

namespace Forest

mutual

def nodePieces : Forest → List Piece
  | nil => []
  | node ⟨_, .component name _⟩ below rest =>
    .name name :: (below.contentPieces.1 ++ below.contentPieces.2) ++ rest.nodePieces
  | node ⟨_, .text s⟩ _ rest => .line s :: rest.nodePieces
  | node _ _ rest => rest.nodePieces

def contentPieces : Forest → List Piece × List Piece
  | nil => ([], [])
  | node ⟨_, .component name _⟩ below rest =>
    (rest.contentPieces.1,
      .name name :: (below.contentPieces.1 ++ below.contentPieces.2) ++ rest.contentPieces.2)
  | node ⟨_, .text s⟩ _ rest => (rest.contentPieces.1, .line s :: rest.contentPieces.2)
  | node ⟨_, .flag name⟩ _ rest => (.name name :: rest.contentPieces.1, rest.contentPieces.2)
  | node ⟨_, .string name s⟩ _ rest | node ⟨_, .number name s⟩ _ rest =>
    (.name name :: .inline s :: rest.contentPieces.1, rest.contentPieces.2)
  | node ⟨_, .block name _⟩ below rest =>
    (.name name :: Piece.ofBlock below.nodePieces ++ rest.contentPieces.1, rest.contentPieces.2)

end

end Forest

theorem Piece.eq_lines {ps : List Piece} {texts : List Text} (h : ps.map part = texts.map .line) :
    ps = texts.map .line := by
  induction ps generalizing texts with
  | nil =>
    rw [List.map_eq_nil_iff.1 h.symm]
    rfl
  | cons p ps ih =>
    cases texts with
    | nil => cases h
    | cons t texts =>
      obtain ⟨first, later⟩ := List.cons.inj h
      cases p with
      | line s =>
        cases first
        rw [ih later]
        rfl
      | _ => cases first

theorem nodesParts_of_text {nodes : List Node} (texts : nodes.filterMap Node.component? = []) :
    nodesParts nodes = (nodes.filterMap Node.text?).map .line := by
  induction nodes with
  | nil => rfl
  | cons n nodes ih =>
    cases n with
    | text s => exact congrArg (Part.line s :: ·) (ih texts)
    | component inner => cases texts

theorem Piece.map_part_ofBlock {ps : List Piece} {nodes : List Node} {place : Location} {v : Value}
    (same : ps.map part = nodesParts nodes) (made : Parser.blockValue nodes place = .ok v) :
    (ofBlock ps).map part = v.parts := by
  rcases Parser.blockValue_eq_ok made with ⟨⟨name, properties, children, location⟩, rfl, rfl⟩ |
    ⟨none, rfl⟩
  · rw [nodesParts, nodesParts, List.append_nil, Component.parts] at same
    rw [Value.parts, Component.parts]
    cases ps with
    | nil => cases same
    | cons p ps =>
      cases p with
      | name s => exact same
      | _ => cases (List.cons.inj same).1
  · rw [nodesParts_of_text none] at same
    rw [Piece.eq_lines same]
    have lines (texts : List Text) : (texts.map line).filterMap line? = texts := by
      simp [List.filterMap_map, Function.comp_def, line?]
    have block (texts : List Text) :
        ofBlock (texts.map line) = [.block (['\n'].intercalate texts)] := by
      rw [ofBlock, lines]
      rintro s rest same
      cases texts <;> cases same
    rw [block]
    rfl

namespace Forest

theorem map_part_pieces (f : Forest) :
    (∀ ns, f.nodes? = some ns → f.nodePieces.map Piece.part = nodesParts ns) ∧
    ∀ ps ns, f.contents? = some (ps, ns) → f.contentPieces.1.map Piece.part = propertiesParts ps ∧
      f.contentPieces.2.map Piece.part = nodesParts ns := by
  have tree {below : Forest} {ps : List Property} {under : List Node} (name : Text)
      (location : Location) (inner : below.contentPieces.1.map Piece.part = propertiesParts ps ∧
        below.contentPieces.2.map Piece.part = nodesParts under) :
      (Piece.name name :: (below.contentPieces.1 ++ below.contentPieces.2)).map Piece.part =
        (Component.mk name ps under location).parts := by
    rw [List.map_cons, List.map_append, inner.1, inner.2, Component.parts]
    rfl
  apply made_induction
  case nodes => rfl
  case component =>
    intro level name location below rest ps under ns inner later
    rw [nodePieces, List.map_append, tree name location inner, later, nodesParts]
  case text =>
    intro level s rest ns later
    exact congrArg (Part.line s :: ·) later
  case contents => exact ⟨rfl, rfl⟩
  case child =>
    rintro level name location below rest inners under ps ns inner ⟨properties, children⟩
    rw [contentPieces, List.map_append, tree name location inner, properties, children, nodesParts]
    exact ⟨rfl, rfl⟩
  case line =>
    rintro level s rest ps ns ⟨properties, children⟩
    exact ⟨properties, congrArg (Part.line s :: ·) children⟩
  case flag =>
    rintro level name rest ps ns ⟨properties, children⟩
    exact ⟨congrArg (Part.name name :: ·) properties, children⟩
  case string | number =>
    rintro level name s rest ps ns ⟨properties, children⟩
    exact ⟨congrArg (Part.name name :: Part.string s :: ·) properties, children⟩
  case block =>
    rintro level name opening below rest inner v ps ns nodes made ⟨properties, children⟩
    rw [contentPieces, List.map_append, List.map_cons, Piece.map_part_ofBlock nodes made,
      properties, children, propertiesParts]
    exact ⟨rfl, rfl⟩

end Forest

theorem Piece.of_ofBlock {line inline : Text → Prop} (lines : ∀ s, line s → Line s)
    {ps : List Piece} (of : ∀ p ∈ ps, p.Of line inline) : ∀ p ∈ ofBlock ps, p.Of line inline := by
  unfold ofBlock
  split
  · exact of
  · intro p member
    rw [List.mem_singleton.1 member]
    have all : ∀ l ∈ ps.filterMap line?, Line l := by
      intro l found
      obtain ⟨q, member, same⟩ := List.mem_filterMap.1 found
      cases q with
      | line s =>
        cases same
        exact lines _ (of _ member)
      | _ => cases same
    intro piece inside
    by_cases none : ps.filterMap line? = []
    · rw [none] at inside
      cases List.mem_singleton.1 inside
      exact fun nonempty => absurd rfl nonempty
    · rw [Text.pieces_intercalate none fun l member => (all l member).one_line] at inside
      exact all piece inside

namespace Forest

theorem pieces_of {line inline : Text → Prop} (lines : ∀ s, line s → Line s) {f : Forest}
    (of : ∀ e ∈ f.flatten, e.item.Of line inline) :
    (∀ p ∈ f.nodePieces, p.Of line inline) ∧
    ∀ p ∈ f.contentPieces.1 ++ f.contentPieces.2, p.Of line inline := by
  induction f with
  | nil => exact ⟨nofun, nofun⟩
  | node e below rest ihBelow ihRest =>
    obtain ⟨level, item⟩ := e
    obtain ⟨here, inside, after⟩ := forall_flatten_node.1 of
    obtain ⟨belowNodes, belowContents⟩ := ihBelow inside
    obtain ⟨restNodes, restContents⟩ := ihRest after
    simp only [List.forall_mem_append] at belowContents restContents
    cases item with
    | component name location =>
      simp only [nodePieces, contentPieces, List.forall_mem_append, List.forall_mem_cons]
      exact ⟨⟨⟨here, belowContents⟩, restNodes⟩, restContents.1, ⟨here, belowContents⟩,
        restContents.2⟩
    | text s =>
      simp only [nodePieces, contentPieces, List.forall_mem_append, List.forall_mem_cons]
      exact ⟨⟨here, restNodes⟩, restContents.1, here, restContents.2⟩
    | flag name =>
      simp only [nodePieces, contentPieces, List.forall_mem_append, List.forall_mem_cons]
      exact ⟨restNodes, ⟨here, restContents.1⟩, restContents.2⟩
    | block name opening =>
      simp only [nodePieces, contentPieces, List.forall_mem_append, List.forall_mem_cons]
      exact ⟨restNodes, ⟨⟨here, Piece.of_ofBlock lines belowNodes⟩, restContents.1⟩, restContents.2⟩
    | _ =>
      simp only [nodePieces, contentPieces, List.forall_mem_append, List.forall_mem_cons]
      exact ⟨restNodes, ⟨here.1, here.2, restContents.1⟩, restContents.2⟩

end Forest

/-- Every text of a document that is read is a name, a line, a string on one line, or a block, as
the entries say that it was read from.  Names are names.  Lines, and those of a block, are plain or
empty; without carriage returns no line is empty.  A string on one line ends in no backslash. -/
theorem pieces_of_parse {s : Text} {d : Document} (parsed : parse s = .ok d) :
    ∃ (ts : List Token) (f : Forest), tokenize s = .ok ts ∧
      marks 0 ts = f.flatten.flatMap Entry.marks ∧ f.nodes? = some d.nodes ∧
      f.nodePieces.map Piece.part = d.parts ∧
      ∀ p ∈ f.nodePieces, p.Of (fun t => Line t ∧ ('\r' ∉ s → t ≠ []))
        fun t => '\n' ∉ t ∧ t.getLast? ≠ some '\\' := by
  obtain ⟨es, divided, nodes⟩ := parse_eq_ok.1 parsed
  obtain ⟨ts, tokens, same⟩ := Stream.entries?_marks divided
  have start : (Reader.item 0).Sound := trivial
  have sound := Stream.entries?_sound _ start divided
  have awaits : (Reader.item 0).Awaits (.start s) := trivial
  have fits := Stream.entries?_fits (.start s) id awaits divided
  refine ⟨ts, .ofEntries es, tokens, ?_, nodes, ((Forest.map_part_pieces _).1 _ nodes), ?_⟩
  · rw [Forest.flatten_ofEntries]
    exact same
  · refine (Forest.pieces_of (fun t line => line.1) ?_).1
    rw [Forest.flatten_ofEntries]
    exact fun e member => (sound e member).and (fits e member)

/-- A string in quotes, a block that ends in a backslash, and a line. -/
theorem quoted_and_block_pieces :
    ∃ d, parse "\\A\n\tN: \"a\"\n\tM:\n\t\tb\n\t\tc\\\n\td".toList = .ok d ∧
      ∃ (ts : List Token) (f : Forest),
        tokenize "\\A\n\tN: \"a\"\n\tM:\n\t\tb\n\t\tc\\\n\td".toList = .ok ts ∧
        marks 0 ts = f.flatten.flatMap Entry.marks ∧ f.nodes? = some d.nodes ∧
        f.nodePieces.map Piece.part = d.parts ∧
        ∀ p ∈ f.nodePieces, p.Of (fun t => Line t ∧ t ≠ []) fun t =>
          '\n' ∉ t ∧ t.getLast? ≠ some '\\' := by
  have parsed : parse "\\A\n\tN: \"a\"\n\tM:\n\t\tb\n\t\tc\\\n\td".toList =
      .ok ⟨[.component ⟨['A'], [⟨['N'], .string ['a']⟩, ⟨['M'], .string "b\nc\\".toList⟩],
        [.text ['d']], ⟨1, 1⟩⟩]⟩ := by cbv
  have no_return : '\r' ∉ "\\A\n\tN: \"a\"\n\tM:\n\t\tb\n\t\tc\\\n\td".toList := by
    decide
  obtain ⟨ts, f, tokens, same, nodes, parts, classes⟩ := pieces_of_parse parsed
  refine ⟨_, parsed, ts, f, tokens, same, nodes, parts, fun p member => ?_⟩
  have lines (t : Text) (line : Line t ∧ (_ → t ≠ [])) : Line t ∧ t ≠ [] :=
    ⟨line.1, line.2 no_return⟩
  cases p with
  | line t => exact lines t (classes _ member)
  | _ => exact classes _ member

end Inlay.Markup
