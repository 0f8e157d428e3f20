import Inlay.Proofs.Render.Writes
import Inlay.Render.Html

namespace Inlay.Render

open Inlay.Markdown (Node Leaf Branch)

def Bare (s : Text) : Prop := ∀ c ∈ s, c ≠ '<' ∧ c ≠ '>'

def attributeNames : List String :=
  ["id", "start", "type", "disabled", "checked", "class", "href", "title", "src", "alt"]

def voidNames : List String := ["input", "img", "br", "hr"]

inductive IsElement : String → Prop
  | heading (depth : Nat) : IsElement (Html.headingName depth)
  | other (name : String) : name ∈ ["p", "blockquote", "ol", "ul", "li", "em", "strong", "del",
      "code", "pre", "a", "table", "tr", "td"] → IsElement name

inductive Attributes : Text → Prop
  | none : Attributes []
  | value {name : String} {value rest : Text} : name ∈ attributeNames → Bare value →
      '"' ∉ value → Attributes rest →
      Attributes (' ' :: name.toList ++ ['=', '"'] ++ value ++ ['"'] ++ rest)
  | mention {name : String} {rest : Text} : name ∈ attributeNames → Attributes rest →
      Attributes (' ' :: name.toList ++ rest)

/-- Characters and elements one after the other.  An element without an end tag has nothing in it;
every other one ends with the end tag of its own name. -/
inductive WellNested : Text → Prop
  | nil : WellNested []
  | char {c : Char} {rest : Text} : c ≠ '<' → c ≠ '>' → WellNested rest → WellNested (c :: rest)
  | void {name : String} {attributes rest : Text} : name ∈ voidNames → Attributes attributes →
      WellNested rest →
      WellNested ('<' :: name.toList ++ attributes ++ [' ', '/', '>'] ++ rest)
  | element {name : String} {attributes inner rest : Text} : IsElement name →
      Attributes attributes → WellNested inner → WellNested rest →
      WellNested ('<' :: name.toList ++ attributes ++ ['>'] ++ inner ++
        '<' :: '/' :: name.toList ++ ['>'] ++ rest)

namespace WellNested

theorem append {s t : Text} (first : WellNested s) (second : WellNested t) :
    WellNested (s ++ t) := by
  induction first with
  | nil => exact second
  | char no_open no_close _ ih => exact .char no_open no_close ih
  | void name attributes _ ih =>
    have whole := WellNested.void name attributes ih
    simpa using whole
  | element name attributes inner _ _ ih =>
    have whole := WellNested.element name attributes inner ih
    simpa using whole

theorem ofBare {s : Text} (bare : Bare s) : WellNested s := by
  induction s with
  | nil => exact .nil
  | cons c s ih =>
    obtain ⟨⟨no_open, no_close⟩, later⟩ := List.forall_mem_cons.1 bare
    exact .char no_open no_close (ih later)

end WellNested

namespace Html

def IsReference (s : Text) : Prop :=
  ∃ name : Text, (∀ c ∈ name, c = '#' ∨ c.isAlphanum) ∧ s = '&' :: name ++ [';']

def Replaces (marks : List Char) (f : Text → Text) : Prop :=
  ∃ reference : Char → Text, (∀ c ∈ marks, IsReference (reference c)) ∧
    ∀ s, f s = s.flatMap fun c => if c ∈ marks then reference c else [c]

/-- What is assumed of escaping. -/
structure Escape.Sound (escape : Escape) : Prop where
  text : Replaces ['&', '<', '>'] escape.text
  value : Replaces ['&', '<', '>', '"'] escape.value

theorem IsReference.plain {s : Text} (reference : IsReference s) :
    '<' ∉ s ∧ '>' ∉ s ∧ '"' ∉ s := by
  obtain ⟨name, named, rfl⟩ := reference
  have outside (c : Char) (other : ¬(c = '#' ∨ c.isAlphanum)) (mark : c ≠ '&' ∧ c ≠ ';') :
      c ∉ '&' :: name ++ [';'] := by
    have inside : c ∉ name := fun member => other (named c member)
    simp [mark, inside]
  exact ⟨outside _ (by decide) (by decide), outside _ (by decide) (by decide),
    outside _ (by decide) (by decide)⟩

theorem Replaces.not_mem {marks : List Char} {f : Text → Text} (replaces : Replaces marks f)
    {c : Char} (mark : c ∈ marks) (bracket : c = '<' ∨ c = '>' ∨ c = '"') (s : Text) :
    c ∉ f s := by
  obtain ⟨reference, references, replaced⟩ := replaces
  rw [replaced]
  intro member
  obtain ⟨d, -, written⟩ := List.mem_flatMap.1 member
  split at written
  · next marked =>
    obtain ⟨no_open, no_close, no_quote⟩ := (references d marked).plain
    rcases bracket with rfl | rfl | rfl
    · exact no_open written
    · exact no_close written
    · exact no_quote written
  · next plain =>
    rw [List.mem_singleton.1 written] at mark
    exact plain mark

section

variable {escape : Escape} (sound : escape.Sound)
include sound

theorem bare_text (s : Text) : Bare (escape.text s) := by
  intro c member
  constructor
  · rintro rfl
    exact sound.text.not_mem (by decide) (by decide) s member
  · rintro rfl
    exact sound.text.not_mem (by decide) (by decide) s member

theorem bare_value (s : Text) : Bare (escape.value s) := by
  intro c member
  constructor
  · rintro rfl
    exact sound.value.not_mem (by decide) (by decide) s member
  · rintro rfl
    exact sound.value.not_mem (by decide) (by decide) s member

theorem attributes_attr {name : String} (known : name ∈ attributeNames) (s : Text) {rest : Text}
    (more : Attributes rest) : Attributes (attr escape name s ++ rest) := by
  have no_quote : '"' ∉ escape.value s := sound.value.not_mem (by decide) (by decide) s
  have whole := Attributes.value known (bare_value sound s) no_quote more
  have blank : (" " ++ name ++ "=\"").toList = ' ' :: name.toList ++ ['=', '"'] := by simp
  rwa [attr, blank]

theorem attributes_optional {name : String} (known : name ∈ attributeNames) (s : Option Text)
    {rest : Text} (more : Attributes rest) : Attributes (optional escape name s ++ rest) := by
  cases s with
  | none => exact more
  | some s => exact attributes_attr sound known s more

theorem attributes_startNumber (start : Option Nat) : Attributes (startNumber escape start) := by
  cases start with
  | none => exact .none
  | some n =>
    simp only [startNumber]
    split
    · exact .none
    · have whole := attributes_attr sound (show "start" ∈ attributeNames by decide)
        (Nat.toDigits 10 n) .none
      rwa [List.append_nil] at whole

end

theorem wellNested_element {name : String} (known : IsElement name) {attributes inner : Text}
    (written : Attributes attributes) (nested : WellNested inner) :
    WellNested (opening name attributes ++ inner ++ tag name false) := by
  have whole := WellNested.element known written nested .nil
  have close : tag name false = '<' :: '/' :: name.toList ++ ['>'] := rfl
  rw [opening, close]
  simpa using whole

theorem wellNested_tags {name : String} (known : IsElement name) {inner : Text}
    (nested : WellNested inner) : WellNested (tag name true ++ inner ++ tag name false) := by
  have start : tag name true = opening name [] := by simp [tag, opening]
  rw [start]
  exact wellNested_element known .none nested

theorem wellNested_void {name : String} (known : name ∈ voidNames) {attributes : Text}
    (written : Attributes attributes) : WellNested (void name attributes) := by
  have whole := WellNested.void known written .nil
  have close : " />".toList = [' ', '/', '>'] := rfl
  rw [void, close]
  simpa using whole

section

variable {escape : Escape} (sound : escape.Sound)
include sound

theorem wellNested_box (checked : Option Bool) : WellNested (box escape checked) := by
  cases checked with
  | none => exact .nil
  | some set =>
    have mentioned : Attributes (if set then mention "checked" else []) := by
      cases set with
      | false => exact .none
      | true => exact .mention (show "checked" ∈ attributeNames by decide) .none
    have disabled := Attributes.mention (show "disabled" ∈ attributeNames by decide) mentioned
    have written := attributes_attr sound (show "type" ∈ attributeNames by decide)
      "checkbox".toList disabled
    have blank : WellNested [' '] := .char (by decide) (by decide) .nil
    rw [← List.append_assoc] at written
    exact (wellNested_void (by decide) written).append blank

theorem wellNested_code (lang : Option Text) (value : Text) :
    WellNested (code escape lang value) := by
  have line_end : Bare (if value.isEmpty then [] else ['\n']) := by
    split
    · exact fun c member => nomatch member
    · intro c member
      rw [List.mem_singleton.1 member]
      decide
  have contents : WellNested (escape.text value ++ if value.isEmpty then [] else ['\n']) :=
    (WellNested.ofBare (bare_text sound value)).append (.ofBare line_end)
  have language : Attributes (optional escape "class" (lang.map ("language-".toList ++ ·)) ++ []) :=
    attributes_optional sound (by decide) _ .none
  rw [List.append_nil] at language
  have inside := wellNested_element (.other "code" (by decide)) language contents
  have whole := wellNested_tags (.other "pre" (by decide)) inside
  simpa [code] using whole

theorem wellNested_leaf (l : Leaf) : WellNested (leaf escape false l) := by
  cases l with
  | thematicBreak => exact wellNested_void (by decide) .none
  | html s => exact .ofBare (bare_text sound s)
  | code lang value place => exact wellNested_code sound lang value
  | text s => exact .ofBare (bare_text sound s)
  | inlineCode s =>
    exact wellNested_tags (.other "code" (by decide)) (.ofBare (bare_text sound s))
  | lineBreak => exact wellNested_void (by decide) .none
  | image url title alt =>
    have titled := attributes_optional sound (show "title" ∈ attributeNames by decide) title .none
    have described := attributes_attr sound (show "alt" ∈ attributeNames by decide) alt titled
    have written := attributes_attr sound (show "src" ∈ attributeNames by decide) url described
    rw [List.append_nil, ← List.append_assoc] at written
    exact wellNested_void (by decide) written
  | definition | imageReference | footnoteReference | extension => exact .nil

theorem wellNested_branch (d : Host.Document) (b : Branch) {inner : Text}
    (nested : WellNested inner) : WellNested (enter escape d b ++ inner ++ leave b) := by
  cases b with
  | heading depth place =>
    have written := attributes_optional sound (show "id" ∈ attributeNames by decide)
      (d.headingId? place) .none
    rw [List.append_nil] at written
    exact wellNested_element (.heading depth) written nested
  | list ordered start =>
    cases ordered with
    | false => exact wellNested_tags (.other "ul" (by decide)) nested
    | true =>
      exact wellNested_element (.other "ol" (by decide)) (attributes_startNumber sound start) nested
  | listItem checked =>
    have whole := wellNested_tags (.other "li" (by decide))
      ((wellNested_box sound checked).append nested)
    simpa [enter, leave] using whole
  | link url title =>
    have titled := attributes_optional sound (show "title" ∈ attributeNames by decide) title .none
    have written := attributes_attr sound (show "href" ∈ attributeNames by decide) url titled
    rw [List.append_nil] at written
    exact wellNested_element (.other "a" (by decide)) written nested
  | paragraph => exact wellNested_tags (.other "p" (by decide)) nested
  | blockquote => exact wellNested_tags (.other "blockquote" (by decide)) nested
  | emphasis => exact wellNested_tags (.other "em" (by decide)) nested
  | strong => exact wellNested_tags (.other "strong" (by decide)) nested
  | delete => exact wellNested_tags (.other "del" (by decide)) nested
  | table => exact wellNested_tags (.other "table" (by decide)) nested
  | tableRow => exact wellNested_tags (.other "tr" (by decide)) nested
  | tableCell => exact wellNested_tags (.other "td" (by decide)) nested
  | root | footnoteDefinition | linkReference | extension => simpa [enter, leave] using nested

end

mutual

def tree (escape : Escape) (allowRawHtml : Bool) (d : Host.Document) : Node → Text
  | .leaf l => leaf escape allowRawHtml l
  | .branch b below => enter escape d b ++ trees escape allowRawHtml d below ++ leave b

def trees (escape : Escape) (allowRawHtml : Bool) (d : Host.Document) : List Node → Text
  | [] => []
  | n :: rest => tree escape allowRawHtml d n ++ trees escape allowRawHtml d rest

end

mutual

theorem wellNested_tree {escape : Escape} (sound : escape.Sound) (d : Host.Document) (n : Node) :
    WellNested (tree escape false d n) := by
  cases n with
  | leaf l => exact wellNested_leaf sound l
  | branch b below => exact wellNested_branch sound d b (wellNested_trees sound d below)

theorem wellNested_trees {escape : Escape} (sound : escape.Sound) (d : Host.Document)
    (ns : List Node) : WellNested (trees escape false d ns) := by
  cases ns with
  | nil => exact .nil
  | cons n rest => exact (wellNested_tree sound d n).append (wellNested_trees sound d rest)

end

end Html

section

variable {visit : Visitor Emit} {n : Node} {each : Emit Unit} {below : Emit Status} {last : Status}
  {s t u : Text}

theorem writes_tourNode {status : Status} (entering : Writes (visit n each true) .continue s)
    (inside : Writes below status t) (goes : status ≠ .stop)
    (leaving : Writes (visit n each false) last u) :
    Writes (tourNode visit n each below) last (s ++ (t ++ u)) := by
  refine entering.bind (inside.bind ?_)
  cases status with
  | stop => exact absurd rfl goes
  | _ => exact leaving

theorem writes_tourNode_skip (entering : Writes (visit n each true) .skipChildren s)
    (leaving : Writes (visit n each false) last u) :
    Writes (tourNode visit n each below) last (s ++ u) :=
  entering.bind leaving

end

section

variable (escape : Html.Escape) (allowRawHtml : Bool) (d : Host.Document) (source : Text)

def htmlVisitor : Visitor Emit := fun n _ entering =>
    htmlFallback escape allowRawHtml d source n entering

theorem writes_leaf (l : Leaf) :
    ∃ status, status ≠ .stop ∧
      Writes (tour (htmlVisitor escape allowRawHtml d source) (.leaf l)) status
        (Html.leaf escape allowRawHtml l) := by
  have entering : Writes (htmlFallback escape allowRawHtml d source (.leaf l) true)
      (if Html.skips l then .skipChildren else .continue) (Html.leaf escape allowRawHtml l ++ []) :=
    (Writes.text _).bind (.pure _)
  have leaving : Writes (htmlFallback escape allowRawHtml d source (.leaf l) false)
      (if Html.skips l then .skipChildren else .continue) [] := .pure _
  rw [List.append_nil] at entering
  by_cases skips : Html.skips l
  · rw [if_pos skips] at entering leaving
    have whole : Writes (tour (htmlVisitor escape allowRawHtml d source) (.leaf l)) .skipChildren
        (Html.leaf escape allowRawHtml l ++ []) := writes_tourNode_skip entering leaving
    rw [List.append_nil] at whole
    exact ⟨.skipChildren, by simp, whole⟩
  · rw [if_neg skips] at entering leaving
    have whole : Writes (tour (htmlVisitor escape allowRawHtml d source) (.leaf l)) .continue
        (Html.leaf escape allowRawHtml l ++ ([] ++ [])) :=
      writes_tourNode entering (.pure Status.continue) (by simp) leaving
    rw [List.append_nil, List.append_nil] at whole
    exact ⟨.continue, by simp, whole⟩

mutual

theorem writes_tour (n : Node) :
    ∃ status, status ≠ .stop ∧
      Writes (tour (htmlVisitor escape allowRawHtml d source) n) status
        (Html.tree escape allowRawHtml d n) := by
  cases n with
  | leaf l => exact writes_leaf escape allowRawHtml d source l
  | branch b below =>
    have entering : Writes (htmlFallback escape allowRawHtml d source (.branch b below) true)
        .continue (Html.enter escape d b ++ []) := (Writes.text _).bind (.pure _)
    have leaving : Writes (htmlFallback escape allowRawHtml d source (.branch b below) false)
        .continue (Html.leave b ++ []) := (Writes.text _).bind (.pure _)
    rw [List.append_nil] at entering leaving
    refine ⟨.continue, by simp, ?_⟩
    rw [tour, Html.tree, List.append_assoc]
    exact writes_tourNode entering (writes_tourAll below) (by simp) leaving

theorem writes_tourAll (ns : List Node) :
    Writes (tourAll (htmlVisitor escape allowRawHtml d source) ns) .continue
      (Html.trees escape allowRawHtml d ns) := by
  cases ns with
  | nil => exact .pure Status.continue
  | cons n rest =>
    obtain ⟨status, goes, first⟩ := writes_tour n
    rw [tourAll, Html.trees]
    refine first.bind ?_
    cases status with
    | stop => exact absurd rfl goes
    | _ => exact writes_tourAll rest

end

/-- On a sink without a limit, the whole tree is written, and nothing else. -/
theorem walkDocument_run (root : Node) :
    (walkDocument (htmlFallback escape allowRawHtml) d source root).run none =
      (.ok (), Text.utf8 (Html.tree escape allowRawHtml d root)) := by
  obtain ⟨status, -, written⟩ := writes_tour escape allowRawHtml d source root
  have whole : Writes (walkDocument (htmlFallback escape allowRawHtml) d source root) ()
      (Html.tree escape allowRawHtml d root ++ []) := written.bind (.pure ())
  rw [List.append_nil] at whole
  exact whole.run

end

/-- What is written of any tree without raw HTML, with the headings of any document: texts and
elements, with nothing in them that could be taken for a tag. -/
theorem walkDocument_wellNested {escape : Html.Escape} (sound : escape.Sound) (d : Host.Document)
    (source : Text) (root : Node) :
    ∃ out, (walkDocument (htmlFallback escape false) d source root).run none =
        (.ok (), Text.utf8 out) ∧ WellNested out :=
  ⟨Html.tree escape false d root, walkDocument_run escape false d source root,
    Html.wellNested_tree sound d root⟩

namespace Html

theorem isReference_named : ∀ c ∈ ['&', '<', '>', '"'], IsReference (namedReference c) := by
  simp only [List.forall_mem_cons, List.not_mem_nil, false_imp_iff, implies_true, and_true]
  exact ⟨⟨['a', 'm', 'p'], by simp, rfl⟩, ⟨['l', 't'], by simp, rfl⟩,
    ⟨['g', 't'], by simp, rfl⟩, ⟨['q', 'u', 'o', 't'], by simp, rfl⟩⟩

theorem sound_named : Escape.named.Sound where
  text := ⟨namedReference, fun c mark => isReference_named c (List.mem_append_left ['"'] mark),
    fun _ => rfl⟩
  value := ⟨namedReference, isReference_named, fun _ => rfl⟩

end Html

/-- A link with marks in its address and its text. -/
theorem wellNested_link :
    let link := Node.branch (.link "/?a<b&c=\"d\"".toList none) [.leaf (.text "a < b & c".toList)]
    Html.Escape.named.Sound ∧ ∃ out,
      (walkDocument (htmlFallback .named false) ⟨link, [], .empty⟩ [] link).run none =
        (.ok (), Text.utf8 out) ∧ WellNested out :=
  ⟨Html.sound_named, walkDocument_wellNested Html.sound_named _ _ _⟩

end Inlay.Render
