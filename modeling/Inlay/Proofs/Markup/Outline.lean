import Inlay.Markup.Printer
import Inlay.Proofs.Markup.Lexical

namespace Inlay.Markup
open Attempt

/-! ## Entries of a tree -/

mutual

def Component.entries (level : Nat) : Component → List Entry
  | ⟨name, properties, children, location⟩ =>
    ⟨level, .component name location⟩ ::
      (propertiesEntries (level + 1) properties ++ nodesEntries (level + 1) children)

def propertiesEntries (level : Nat) : List Property → List Entry
  | [] => []
  | ⟨name, value⟩ :: rest => value.entries level name ++ propertiesEntries level rest

def Value.entries (level : Nat) (name : Text) : Value → List Entry
  | .string s =>
    if '\n' ∈ s then ⟨level, .block name .start⟩ :: (textLines s).map (⟨level + 1, .text ·⟩)
    else [⟨level, .string name s⟩]
  | .flag => [⟨level, .flag name⟩]
  | .component inner => ⟨level, .block name .start⟩ :: inner.entries (level + 1)

def nodesEntries (level : Nat) : List Node → List Entry
  | [] => []
  | .text s :: rest => ⟨level, .text s⟩ :: nodesEntries level rest
  | .component inner :: rest => inner.entries level ++ nodesEntries level rest

end

def Item.written : Item → Text
  | component name _ => '\\' :: name
  | text s => s
  | flag name => '!' :: name
  | .string name s | number name s => name ++ [':', ' ', '"'] ++ escapeQuotes s ++ ['"']
  | block name _ => name ++ [':']

def Entry.written (e : Entry) : Text := writeLine e.level e.item.written

mutual

theorem Component.write_eq (level : Nat) (c : Component) :
    c.write level = (c.entries level).flatMap Entry.written := by
  obtain ⟨name, properties, children, location⟩ := c
  simp only [Component.write, Component.entries, List.flatMap_cons, List.flatMap_append]
  rw [writeProperties_eq (level + 1) properties, writeNodes_eq (level + 1) children,
    List.append_assoc]
  rfl

theorem writeProperties_eq (level : Nat) (ps : List Property) :
    writeProperties level ps = (propertiesEntries level ps).flatMap Entry.written := by
  cases ps with
  | nil => rfl
  | cons p rest =>
    obtain ⟨name, value⟩ := p
    simp only [writeProperties, propertiesEntries, List.flatMap_append]
    rw [Value.write_eq level name value, writeProperties_eq level rest]

theorem Value.write_eq (level : Nat) (name : Text) (v : Value) :
    v.write level name = (v.entries level name).flatMap Entry.written := by
  cases v with
  | string s =>
    simp only [Value.write, writeString, Value.entries]
    by_cases several : '\n' ∈ s
    · simp [several, Entry.written, Item.written, List.flatMap_map]
    · simp [several, Entry.written, Item.written]
  | flag => simp [Value.write, Value.entries, Entry.written, Item.written]
  | component inner =>
    simp only [Value.write, Value.entries, List.flatMap_cons]
    rw [Component.write_eq (level + 1) inner]
    rfl

theorem writeNodes_eq (level : Nat) (ns : List Node) :
    writeNodes level ns = (nodesEntries level ns).flatMap Entry.written := by
  cases ns with
  | nil => rfl
  | cons n rest =>
    cases n with
    | text s =>
      simp only [writeNodes, nodesEntries, List.flatMap_cons]
      rw [writeNodes_eq level rest]
      rfl
    | component inner =>
      simp only [writeNodes, nodesEntries, List.flatMap_append]
      rw [Component.write_eq level inner, writeNodes_eq level rest]

end

theorem Document.toMarkup_eq (d : Document) :
    d.toMarkup = (nodesEntries 0 d.nodes).flatMap Entry.written := writeNodes_eq 0 d.nodes

/-! ## Bare entries -/

def Item.bare : Item → Item
  | component name _ => component name .start
  | block name _ => block name .start
  | number name s => .string name s
  | item => item

def Entry.bare (e : Entry) : Entry := ⟨e.level, e.item.bare⟩

theorem Entry.written_bare (e : Entry) : e.bare.written = e.written := by
  obtain ⟨level, item⟩ := e
  cases item <;> rfl

mutual

theorem Component.entries_unplaced (level : Nat) (c : Component) :
    c.unplaced.entries level = (c.entries level).map Entry.bare := by
  obtain ⟨name, properties, children, location⟩ := c
  simp only [Component.unplaced, Component.entries, List.map_cons, List.map_append]
  rw [propertiesEntries_unplaced (level + 1) properties, nodesEntries_unplaced (level + 1) children]
  rfl

theorem propertiesEntries_unplaced (level : Nat) (ps : List Property) :
    propertiesEntries level (unplacedProperties ps) =
      (propertiesEntries level ps).map Entry.bare := by
  cases ps with
  | nil => rfl
  | cons p rest =>
    obtain ⟨name, value⟩ := p
    simp only [unplacedProperties, propertiesEntries, List.map_append]
    rw [Value.entries_unplaced level name value, propertiesEntries_unplaced level rest]

theorem Value.entries_unplaced (level : Nat) (name : Text) (v : Value) :
    v.unplaced.entries level name = (v.entries level name).map Entry.bare := by
  cases v with
  | string s =>
    simp only [Value.unplaced, Value.entries]
    split
    · simp [Entry.bare, Item.bare]
    · rfl
  | flag => rfl
  | component inner =>
    simp only [Value.unplaced, Value.entries, List.map_cons]
    rw [Component.entries_unplaced (level + 1) inner]
    rfl

theorem nodesEntries_unplaced (level : Nat) (ns : List Node) :
    nodesEntries level (unplacedNodes ns) = (nodesEntries level ns).map Entry.bare := by
  cases ns with
  | nil => rfl
  | cons n rest =>
    cases n with
    | text s =>
      simp only [unplacedNodes, nodesEntries, List.map_cons]
      rw [nodesEntries_unplaced level rest]
      rfl
    | component inner =>
      simp only [unplacedNodes, nodesEntries, List.map_append]
      rw [Component.entries_unplaced level inner, nodesEntries_unplaced level rest]

end

theorem Document.toMarkup_eq_of_unplaced_eq {d d' : Document} (same : d.unplaced = d'.unplaced) :
    d.toMarkup = d'.toMarkup := by
  have written (d : Document) : d.unplaced.toMarkup = d.toMarkup := by
    rw [toMarkup_eq, toMarkup_eq, unplaced, nodesEntries_unplaced, List.flatMap_map]
    congr
    funext e
    exact e.written_bare
  rw [← written, same, written]

/-! ## Texts of the entries -/

def Written (line inline : Text → Prop) (s : Text) : Prop :=
  ('\n' ∈ s → ∀ l ∈ textLines s, line l) ∧ ('\n' ∉ s → inline s)

section

variable {line inline : Text → Prop}

mutual

theorem Component.entries_of (level : Nat) (c : Component) :
    (∀ e ∈ c.entries level, e.item.Of line inline) ↔
      ∀ p ∈ c.parts, p.Of line (Written line inline) := by
  obtain ⟨name, properties, children, location⟩ := c
  simp only [Component.entries, Component.parts, List.forall_mem_cons, List.forall_mem_append]
  rw [propertiesEntries_of (level + 1) properties, nodesEntries_of (level + 1) children]
  rfl

theorem propertiesEntries_of (level : Nat) (ps : List Property) :
    (∀ e ∈ propertiesEntries level ps, e.item.Of line inline) ↔
      ∀ p ∈ propertiesParts ps, p.Of line (Written line inline) := by
  cases ps with
  | nil => simp [propertiesEntries, propertiesParts]
  | cons p rest =>
    obtain ⟨name, value⟩ := p
    simp only [propertiesEntries, propertiesParts, List.forall_mem_cons, List.forall_mem_append]
    rw [Value.entries_of level name value, propertiesEntries_of level rest, and_assoc]
    rfl

theorem Value.entries_of (level : Nat) (name : Text) (v : Value) :
    (∀ e ∈ v.entries level name, e.item.Of line inline) ↔
      IsName name ∧ ∀ p ∈ v.parts, p.Of line (Written line inline) := by
  cases v with
  | string s =>
    simp only [Value.entries, Value.parts]
    by_cases several : '\n' ∈ s
    · simp [several, Item.Of, Part.Of, Written]
    · simp [several, Item.Of, Part.Of, Written]
  | flag => simp [Value.entries, Value.parts, Item.Of]
  | component inner =>
    simp only [Value.entries, Value.parts, List.forall_mem_cons]
    rw [Component.entries_of (level + 1) inner]
    rfl

theorem nodesEntries_of (level : Nat) (ns : List Node) :
    (∀ e ∈ nodesEntries level ns, e.item.Of line inline) ↔
      ∀ p ∈ nodesParts ns, p.Of line (Written line inline) := by
  cases ns with
  | nil => simp [nodesEntries, nodesParts]
  | cons n rest =>
    cases n with
    | text s =>
      simp only [nodesEntries, nodesParts, List.forall_mem_cons]
      rw [nodesEntries_of level rest]
      rfl
    | component inner =>
      simp only [nodesEntries, nodesParts, List.forall_mem_append]
      rw [Component.entries_of level inner, nodesEntries_of level rest]

end

end

/-! ## Levels of the entries -/

namespace Forest

theorem ofEntries_owner {e : Entry} (opens : e.item.opens) {inner after : List Entry}
    (deeper : ∀ x ∈ inner, e.level < x.level) (shallow : ∀ x ∈ after.head?, x.level ≤ e.level) :
    ofEntries (e :: (inner ++ after)) = node e (ofEntries inner) (ofEntries after) := by
  have all : ∀ x ∈ inner, decide (e.level < x.level) = true := fun x member =>
    decide_eq_true (deeper x member)
  have inside : e.inside (inner ++ after) = inner := by
    rw [Entry.inside, List.takeWhile_append_of_pos all]
    cases after with
    | nil => simp
    | cons x rest =>
      rw [List.takeWhile_cons_of_neg (by simpa using shallow x rfl), List.append_nil]
  have beyond : e.beyond (inner ++ after) = after := by
    rw [Entry.beyond, List.dropWhile_append_of_pos all]
    cases after with
    | nil => rfl
    | cons x rest => rw [List.dropWhile_cons_of_neg (by simpa using shallow x rfl)]
  rw [ofEntries_open opens, inside, beyond]

end Forest

mutual

theorem Component.level_entries {level : Nat} (c : Component) :
    ∀ e ∈ c.entries level, level ≤ e.level := by
  obtain ⟨name, properties, children, location⟩ := c
  simp only [Component.entries, List.forall_mem_cons, List.forall_mem_append]
  refine ⟨Nat.le_refl _, fun e member => ?_, fun e member => ?_⟩
  · exact Nat.le_of_succ_le (level_propertiesEntries properties e member)
  · exact Nat.le_of_succ_le (level_nodesEntries children e member)

theorem level_propertiesEntries {level : Nat} (ps : List Property) :
    ∀ e ∈ propertiesEntries level ps, level ≤ e.level := by
  cases ps with
  | nil => exact fun e member => nomatch member
  | cons p rest =>
    obtain ⟨name, value⟩ := p
    simp only [propertiesEntries, List.forall_mem_append]
    exact ⟨Value.level_entries name value, level_propertiesEntries rest⟩

theorem Value.level_entries {level : Nat} (name : Text) (v : Value) :
    ∀ e ∈ v.entries level name, level ≤ e.level := by
  cases v with
  | string s =>
    simp only [Value.entries]
    split
    · simp
    · simp
  | flag => simp [Value.entries]
  | component inner =>
    simp only [Value.entries, List.forall_mem_cons]
    exact ⟨Nat.le_refl _, fun e member =>
      Nat.le_of_succ_le (Component.level_entries inner e member)⟩

theorem level_nodesEntries {level : Nat} (ns : List Node) :
    ∀ e ∈ nodesEntries level ns, level ≤ e.level := by
  cases ns with
  | nil => exact fun e member => nomatch member
  | cons n rest =>
    cases n with
    | text s =>
      simp only [nodesEntries, List.forall_mem_cons]
      exact ⟨Nat.le_refl _, level_nodesEntries rest⟩
    | component inner =>
      simp only [nodesEntries, List.forall_mem_append]
      exact ⟨Component.level_entries inner, level_nodesEntries rest⟩

end

theorem head_nodesEntries {level : Nat} {ns : List Node} :
    ∀ e ∈ (nodesEntries level ns).head?, e.level = level := by
  intro e head
  cases ns with
  | nil => cases head
  | cons n rest =>
    cases n with
    | text s => cases head; rfl
    | component inner =>
      obtain ⟨name, properties, children, location⟩ := inner
      simp only [nodesEntries, Component.entries] at head
      cases head
      rfl

theorem head_propertiesEntries {level : Nat} {ps : List Property} {after : List Entry}
    (shallow : ∀ e ∈ after.head?, e.level ≤ level) :
    ∀ e ∈ (propertiesEntries level ps ++ after).head?, e.level ≤ level := by
  intro e head
  cases ps with
  | nil => exact shallow e head
  | cons p rest =>
    obtain ⟨name, value⟩ := p
    cases value with
    | string s =>
      simp only [propertiesEntries, Value.entries] at head
      split at head
      · cases head; exact Nat.le_refl _
      · cases head; exact Nat.le_refl _
    | flag => cases head; exact Nat.le_refl _
    | component inner => cases head; exact Nat.le_refl _

/-! ## Lines of a string -/

theorem textLines_of_last {s p : Text} (last : (Text.pieces '\n' s).getLast? = some p)
    (no_return : ∀ p ∈ Text.pieces '\n' s, p.getLast? ≠ some '\r') :
    textLines s = (Text.pieces '\n' s).dropLast ++ if p = [] then [] else [p] := by
  have whole : (Text.pieces '\n' s).dropLast.map (fun line =>
      if line.getLast? = some '\r' then line.dropLast else line) =
        (Text.pieces '\n' s).dropLast := by
    refine (List.map_congr_left fun p member => ?_).trans (List.map_id _)
    rw [if_neg (no_return p (List.dropLast_subset _ member))]
    rfl
  simp only [textLines, whole, last]
  cases p <;> simp

theorem last_piece (s : Text) : ∃ p, (Text.pieces '\n' s).getLast? = some p :=
  Option.ne_none_iff_exists'.1 (mt List.getLast?_eq_none_iff.1 (Text.pieces_ne_nil '\n' s))

theorem mem_pieces_of_mem_textLines {s l : Text}
    (no_return : ∀ p ∈ Text.pieces '\n' s, p.getLast? ≠ some '\r') (h : l ∈ textLines s) :
    l ∈ Text.pieces '\n' s := by
  obtain ⟨p, last⟩ := last_piece s
  rw [textLines_of_last last no_return] at h
  rcases List.mem_append.1 h with first | final
  · exact List.dropLast_subset _ first
  · split at final
    · cases final
    · rw [List.mem_singleton.1 final]
      exact List.mem_of_getLast? last

theorem textLines_of_plain {s : Text} (plain : ∀ p ∈ Text.pieces '\n' s, Plain p) :
    textLines s = Text.pieces '\n' s := by
  obtain ⟨p, last⟩ := last_piece s
  have nonempty : p ≠ [] := (plain p (List.mem_of_getLast? last)).nonempty
  rw [textLines_of_last last fun p member => (plain p member).no_return, if_neg nonempty]
  obtain ⟨first, same⟩ := List.getLast?_eq_some_iff.1 last
  rw [same, List.dropLast_concat]

/-! ## Nesting the entries again -/

theorem nodes?_lines (level : Nat) (ls : List Text) :
    (Forest.ofEntries (ls.map fun l => ⟨level, .text l⟩)).nodes? = some (ls.map .text) := by
  induction ls with
  | nil => simp [Forest.ofEntries, Forest.nodes?]
  | cons l ls ih =>
    rw [List.map_cons, Forest.ofEntries_leaf (by simp [Item.opens]), Forest.nodes?, ih]
    rfl

theorem blockValue_lines (ls : List Text) (place : Location) :
    Parser.blockValue (ls.map .text) place = .ok (.string (['\n'].intercalate ls)) := by
  have other : ∀ inner, ls.map Node.text ≠ [.component inner] := by
    intro inner same
    cases ls <;> cases same
  have no_component : (ls.map Node.text).filterMap Node.component? = [] := by
    simp [List.filterMap_map, Function.comp_def, Node.component?]
  have lines : (ls.map Node.text).filterMap Node.text? = ls := by
    simp [List.filterMap_map, Function.comp_def, Node.text?]
  rw [Parser.blockValue_of_ne other, no_component, lines]
  rfl

theorem Component.mk_fields (c : Component) :
    Component.mk c.name c.properties c.children c.location = c := by
  cases c
  rfl

mutual

theorem Component.nested_entries {level : Nat} {c : Component}
    (writable : ∀ p ∈ c.parts, p.Writable) {after : List Entry}
    (shallow : ∀ e ∈ after.head?, e.level ≤ level) :
    ∃ below, Forest.ofEntries (c.entries level ++ after) =
        .node ⟨level, .component c.name c.location⟩ below (.ofEntries after) ∧
      below.contents? = some (c.properties, c.children) := by
  obtain ⟨name, properties, children, location⟩ := c
  simp only [Component.parts, List.forall_mem_cons, List.forall_mem_append] at writable
  obtain ⟨-, inProperties, inChildren⟩ := writable
  refine ⟨.ofEntries (propertiesEntries (level + 1) properties ++
    nodesEntries (level + 1) children), ?_, ?_⟩
  · simp only [Component.entries, List.cons_append]
    refine Forest.ofEntries_owner rfl (fun x member => ?_) shallow
    rcases List.mem_append.1 member with inside | inside
    · exact level_propertiesEntries properties x inside
    · exact level_nodesEntries children x inside
  · rw [contents?_propertiesEntries inProperties fun e head =>
      Nat.le_of_eq (head_nodesEntries e head),
      (nested_nodesEntries inChildren).2]
    simp

theorem contents?_propertiesEntries {level : Nat} {ps : List Property}
    (writable : ∀ p ∈ propertiesParts ps, p.Writable) {after : List Entry}
    (shallow : ∀ e ∈ after.head?, e.level ≤ level) :
    (Forest.ofEntries (propertiesEntries level ps ++ after)).contents? =
      (Forest.ofEntries after).contents?.map fun (qs, ns) => (ps ++ qs, ns) := by
  cases ps with
  | nil => simp [propertiesEntries]
  | cons p rest =>
    obtain ⟨name, value⟩ := p
    simp only [propertiesParts, List.forall_mem_cons, List.forall_mem_append] at writable
    obtain ⟨-, inValue, inRest⟩ := writable
    simp only [propertiesEntries, List.append_assoc]
    rw [Value.contents?_entries inValue (head_propertiesEntries shallow),
      contents?_propertiesEntries inRest shallow, Option.map_map]
    rfl

theorem Value.contents?_entries {level : Nat} {name : Text} {v : Value}
    (writable : ∀ p ∈ v.parts, p.Writable) {after : List Entry}
    (shallow : ∀ e ∈ after.head?, e.level ≤ level) :
    (Forest.ofEntries (v.entries level name ++ after)).contents? =
      (Forest.ofEntries after).contents?.map fun (ps, ns) => (⟨name, v⟩ :: ps, ns) := by
  cases v with
  | string s =>
    have storable : Storable s := writable _ List.mem_cons_self
    simp only [Value.entries]
    by_cases several : '\n' ∈ s
    · have plain := (storable_iff.1 storable).1 several
      rw [if_pos several, List.cons_append, Forest.ofEntries_owner rfl (by simp) shallow,
        Forest.contents?, nodes?_lines]
      simp only [Option.bind_eq_bind, Option.bind_some, blockValue_lines, textLines_of_plain plain,
        Text.intercalate_pieces]
      cases (Forest.ofEntries after).contents? <;> rfl
    · rw [if_neg several, List.cons_append, List.nil_append,
        Forest.ofEntries_leaf (by simp [Item.opens]), Forest.contents?]
      cases (Forest.ofEntries after).contents? <;> rfl
  | flag =>
    simp only [Value.entries]
    rw [List.cons_append, List.nil_append, Forest.ofEntries_leaf (by simp [Item.opens]),
      Forest.contents?]
    cases (Forest.ofEntries after).contents? <;> rfl
  | component inner =>
    have no_more : ∀ e ∈ ([] : List Entry).head?, e.level ≤ level + 1 := fun _ head => nomatch head
    obtain ⟨below, nested, contents⟩ := Component.nested_entries writable no_more
    rw [List.append_nil] at nested
    simp only [Value.entries]
    rw [List.cons_append, Forest.ofEntries_owner rfl
        (fun x member => Component.level_entries inner x member) shallow,
      Forest.contents?, nested, Forest.nodes?, contents]
    simp only [Forest.ofEntries, Forest.nodes?, Option.bind_eq_bind, Option.bind_some,
      Component.mk_fields, Parser.blockValue_component]
    cases (Forest.ofEntries after).contents? <;> rfl

theorem nested_nodesEntries {level : Nat} {ns : List Node}
    (writable : ∀ p ∈ nodesParts ns, p.Writable) :
    (Forest.ofEntries (nodesEntries level ns)).nodes? = some ns ∧
      (Forest.ofEntries (nodesEntries level ns)).contents? = some ([], ns) := by
  cases ns with
  | nil => simp [nodesEntries, Forest.ofEntries, Forest.nodes?, Forest.contents?]
  | cons n rest =>
    cases n with
    | text s =>
      simp only [nodesParts, List.forall_mem_cons] at writable
      obtain ⟨nodes, contents⟩ := nested_nodesEntries writable.2
      simp only [nodesEntries]
      rw [Forest.ofEntries_leaf (by simp [Item.opens]), Forest.nodes?, Forest.contents?, nodes,
        contents]
      exact ⟨rfl, rfl⟩
    | component inner =>
      simp only [nodesParts, List.forall_mem_append] at writable
      have shallow : ∀ e ∈ (nodesEntries level rest).head?, e.level ≤ level :=
        fun e head => Nat.le_of_eq (head_nodesEntries e head)
      obtain ⟨nodes, contents⟩ := nested_nodesEntries writable.2
      obtain ⟨below, nested, inside⟩ := Component.nested_entries writable.1 shallow
      simp only [nodesEntries]
      rw [nested, Forest.nodes?, Forest.contents?, inside, nodes, contents]
      simp [Component.mk_fields]

end

/-! ## Nesting bare entries -/

def Forest.bare : Forest → Forest
  | nil => nil
  | node e below rest => node e.bare below.bare rest.bare

theorem Entry.opens_bare (e : Entry) : e.bare.item.opens = e.item.opens := by
  obtain ⟨level, item⟩ := e
  cases item <;> rfl

theorem Forest.ofEntries_bare (es : List Entry) :
    ofEntries (es.map Entry.bare) = (ofEntries es).bare := by
  fun_induction ofEntries es with
  | case1 => simp [ofEntries, bare]
  | case2 e es opens below rest =>
    have inside : e.bare.inside (es.map Entry.bare) =
        (e.inside es).map Entry.bare := by
      simp only [Entry.inside, List.takeWhile_map]
      rfl
    have beyond : e.bare.beyond (es.map Entry.bare) =
        (e.beyond es).map Entry.bare := by
      simp only [Entry.beyond, List.dropWhile_map]
      rfl
    rw [List.map_cons, ofEntries_open (by rwa [Entry.opens_bare]), inside, beyond, below, rest]
    rfl
  | case3 e es leaf rest =>
    rw [List.map_cons, ofEntries_leaf (by rwa [Entry.opens_bare]), rest]
    rfl

theorem components_unplaced (ns : List Node) :
    (unplacedNodes ns).filterMap Node.component? =
      (ns.filterMap Node.component?).map Component.unplaced := by
  induction ns with
  | nil => rfl
  | cons n rest ih => cases n <;> simp [unplacedNodes, List.filterMap_cons, Node.component?, ih]

theorem texts_unplaced (ns : List Node) :
    (unplacedNodes ns).filterMap Node.text? = ns.filterMap Node.text? := by
  induction ns with
  | nil => rfl
  | cons n rest ih => cases n <;> simp [unplacedNodes, List.filterMap_cons, Node.text?, ih]

theorem blockValue_unplaced (ns : List Node) (place place' : Location) :
    Parser.blockValue (unplacedNodes ns) place' =
      match Parser.blockValue ns place with
      | .ok value => .ok value.unplaced
      | .error e => .error ⟨e.cause, place'⟩ := by
  by_cases single : ∃ inner, ns = [.component inner]
  · obtain ⟨inner, rfl⟩ := single
    simp only [unplacedNodes, Parser.blockValue_component]
    rfl
  · have single' : ∀ inner, unplacedNodes ns ≠ [.component inner] := by
      intro inner same
      match ns with
      | [] => cases same
      | [.text s] => cases same
      | [.component c] => exact single ⟨c, rfl⟩
      | .text s :: _ :: _ => cases same
      | .component c :: .text s :: _ => cases same
      | .component c :: .component c' :: _ => cases same
    have none : ∀ inner, ns ≠ [.component inner] := fun inner same => single ⟨inner, same⟩
    rw [Parser.blockValue_of_ne single', Parser.blockValue_of_ne none, components_unplaced,
      texts_unplaced,
      List.length_map]
    split
    · rfl
    · split <;> rfl

theorem Forest.nested_bare (f : Forest) :
    f.bare.nodes? = f.nodes?.map unplacedNodes ∧
    f.bare.contents? =
      f.contents?.map fun (ps, ns) => (unplacedProperties ps, unplacedNodes ns) := by
  induction f with
  | nil => exact ⟨rfl, rfl⟩
  | node e below rest ihBelow ihRest =>
    obtain ⟨level, item⟩ := e
    obtain ⟨belowNodes, belowContents⟩ := ihBelow
    obtain ⟨restNodes, restContents⟩ := ihRest
    cases item with
    | component name location =>
      simp only [bare, Entry.bare, Item.bare, nodes?, contents?, belowContents,
        restNodes, restContents]
      cases below.contents? <;> cases rest.nodes? <;> cases rest.contents? <;> exact ⟨rfl, rfl⟩
    | block name opening =>
      simp only [bare, Entry.bare, Item.bare, nodes?, contents?, belowNodes,
        restContents]
      cases below.nodes? with
      | none => exact ⟨rfl, rfl⟩
      | some ns =>
        simp only [Option.map_some, Option.bind_eq_bind, Option.bind_some,
          blockValue_unplaced ns opening]
        cases Parser.blockValue ns opening <;> cases rest.contents? <;> exact ⟨rfl, rfl⟩
    | _ =>
      cases below with
      | nil =>
        simp only [bare, Entry.bare, Item.bare, nodes?, contents?, restNodes,
          restContents]
        cases rest.nodes? <;> cases rest.contents? <;> exact ⟨rfl, rfl⟩
      | node => exact ⟨rfl, rfl⟩

end Inlay.Markup
