import Inlay.Markup.Lexeme
import Inlay.Markup.Tree

namespace Inlay.Markup

inductive Part
  | name (s : Text)
  | line (s : Text)
  | string (s : Text)

mutual

def Component.parts : Component → List Part
  | ⟨name, properties, children, _⟩ =>
    .name name :: (propertiesParts properties ++ nodesParts children)

def propertiesParts : List Property → List Part
  | [] => []
  | ⟨name, value⟩ :: rest => .name name :: (value.parts ++ propertiesParts rest)

def Value.parts : Value → List Part
  | .string s => [.string s]
  | .flag => []
  | .component inner => inner.parts

def nodesParts : List Node → List Part
  | [] => []
  | .text s :: rest => .line s :: nodesParts rest
  | .component inner :: rest => inner.parts ++ nodesParts rest

end

def Document.parts (d : Document) : List Part := nodesParts d.nodes

section

variable {c inner : Component} {properties : List Property} {nodes : List Node}

theorem line_mem_nodesParts {s : Text} (member : .text s ∈ nodes) :
    .line s ∈ nodesParts nodes := by
  induction nodes with
  | nil => cases member
  | cons n rest ih =>
    rcases List.mem_cons.1 member with rfl | later
    · exact List.mem_cons_self
    · cases n with
      | text s => exact List.mem_cons_of_mem _ (ih later)
      | component inner => exact List.mem_append_right _ (ih later)

theorem line_mem_of_text? {s : Text} (member : s ∈ nodes.filterMap Node.text?) :
    .line s ∈ nodesParts nodes := by
  obtain ⟨n, member, text⟩ := List.mem_filterMap.1 member
  cases n with
  | text s =>
    cases text
    exact line_mem_nodesParts member
  | component inner => cases text

theorem parts_subset_nodesParts (member : .component inner ∈ nodes) :
    inner.parts ⊆ nodesParts nodes := by
  intro p part
  induction nodes with
  | nil => cases member
  | cons n rest ih =>
    rcases List.mem_cons.1 member with rfl | later
    · exact List.mem_append_left _ part
    · cases n with
      | text s => exact List.mem_cons_of_mem _ (ih later)
      | component inner => exact List.mem_append_right _ (ih later)

theorem parts_subset_propertiesParts {name : Text} {value : Value}
    (member : ⟨name, value⟩ ∈ properties) : value.parts ⊆ propertiesParts properties := by
  intro p part
  induction properties with
  | nil => cases member
  | cons first rest ih =>
    rcases List.mem_cons.1 member with rfl | later
    · exact List.mem_cons_of_mem _ (List.mem_append_left _ part)
    · obtain ⟨_, _⟩ := first
      exact List.mem_cons_of_mem _ (List.mem_append_right _ (ih later))

theorem Component.parts_of_property {name : Text} {value : Value}
    (member : ⟨name, value⟩ ∈ c.properties) : value.parts ⊆ c.parts := by
  obtain ⟨_, properties, _, _⟩ := c
  intro p part
  exact List.mem_cons_of_mem _
    (List.mem_append_left _ (parts_subset_propertiesParts member part))

theorem Component.parts_of_children : nodesParts c.children ⊆ c.parts := by
  obtain ⟨_, _, children, _⟩ := c
  intro p part
  exact List.mem_cons_of_mem _ (List.mem_append_right _ part)

end

def IsName (s : Text) : Prop := s ≠ [] ∧ ∀ c ∈ s, isNameChar c

/-- A line that is read as a text, as a whole and with nothing taken from it.  A colon right behind
name characters at its beginning would make them the name of a property. -/
structure Plain (s : Text) : Prop where
  nonempty : s ≠ []
  one_line : '\n' ∉ s
  no_return : s.getLast? ≠ some '\r'
  no_blank : ∀ c r, s = c :: r → c ≠ ' ' ∧ c ≠ '\t'
  no_sign : ∀ c r, s = c :: r → c ≠ '"' ∧ c ≠ ':'
  no_mark : ∀ c m r, s = c :: m :: r → c = '\\' ∨ c = '!' → ¬isNameChar m
  no_property : ∀ name r, s = name ++ ':' :: r → ¬∀ c ∈ name, isNameChar c

def Line (s : Text) : Prop := s ≠ [] → Plain s

def Lines (line : Text → Prop) (s : Text) : Prop := '\n' ∈ s → ∀ p ∈ Text.pieces '\n' s, line p

/-- A string that is read back: in quotes, or as a block of lines. -/
def Storable (s : Text) : Prop :=
  ('\n' ∉ s ∧ s.getLast? ≠ some '\\') ∨ ('\n' ∈ s ∧ ∀ p ∈ Text.pieces '\n' s, Plain p)

def Part.Of (line string : Text → Prop) : Part → Prop
  | name s => IsName s
  | .line s => line s
  | .string s => string s

def Part.Writable : Part → Prop := Part.Of Plain Storable

theorem Plain.line {s : Text} (h : Plain s) : Line s := fun _ => h

theorem Line.one_line {s : Text} (h : Line s) : '\n' ∉ s := by
  intro member
  exact (h (List.ne_nil_of_mem member)).one_line member

theorem storable_iff {s : Text} :
    Storable s ↔ Lines Plain s ∧ ('\n' ∉ s → s.getLast? ≠ some '\\') := by
  by_cases several : '\n' ∈ s
  · simp [Storable, Lines, several]
  · simp [Storable, Lines, several]

theorem Part.Of.mono {line line' string string' : Text → Prop} (lines : ∀ s, line s → line' s)
    (strings : ∀ s, string s → string' s) {p : Part} (h : p.Of line string) :
    p.Of line' string' := by
  cases p with
  | name s => exact h
  | line s => exact lines s h
  | string s => exact strings s h

theorem Part.Of.and {line line' string string' : Text → Prop} {p : Part} (h : p.Of line string)
    (h' : p.Of line' string') : p.Of (fun s => line s ∧ line' s) fun s => string s ∧ string' s := by
  cases p with
  | name s => exact h
  | line s => exact ⟨h, h'⟩
  | string s => exact ⟨h, h'⟩

mutual

def Component.unplaced : Component → Component
  | ⟨name, properties, children, _⟩ =>
    ⟨name, unplacedProperties properties, unplacedNodes children, .start⟩

def unplacedProperties : List Property → List Property
  | [] => []
  | ⟨name, value⟩ :: rest => ⟨name, value.unplaced⟩ :: unplacedProperties rest

def Value.unplaced : Value → Value
  | .string s => .string s
  | .flag => .flag
  | .component inner => .component inner.unplaced

def unplacedNodes : List Node → List Node
  | [] => []
  | .text s :: rest => .text s :: unplacedNodes rest
  | .component inner :: rest => .component inner.unplaced :: unplacedNodes rest

end

def Document.unplaced (d : Document) : Document := ⟨unplacedNodes d.nodes⟩

mutual

theorem Component.parts_unplaced (c : Component) : c.unplaced.parts = c.parts := by
  obtain ⟨name, properties, children, location⟩ := c
  simp only [Component.unplaced, Component.parts]
  rw [propertiesParts_unplaced properties, nodesParts_unplaced children]

theorem propertiesParts_unplaced (ps : List Property) :
    propertiesParts (unplacedProperties ps) = propertiesParts ps := by
  cases ps with
  | nil => rfl
  | cons p rest =>
    obtain ⟨name, value⟩ := p
    simp only [unplacedProperties, propertiesParts]
    rw [Value.parts_unplaced value, propertiesParts_unplaced rest]

theorem Value.parts_unplaced (v : Value) : v.unplaced.parts = v.parts := by
  cases v with
  | string s => rfl
  | flag => rfl
  | component inner => exact Component.parts_unplaced inner

theorem nodesParts_unplaced (ns : List Node) : nodesParts (unplacedNodes ns) = nodesParts ns := by
  cases ns with
  | nil => rfl
  | cons n rest =>
    cases n with
    | text s =>
      simp only [unplacedNodes, nodesParts]
      rw [nodesParts_unplaced rest]
    | component inner =>
      simp only [unplacedNodes, nodesParts]
      rw [Component.parts_unplaced inner, nodesParts_unplaced rest]

end

theorem Document.parts_eq_of_unplaced_eq {d d' : Document} (same : d.unplaced = d'.unplaced) :
    d.parts = d'.parts := by
  have nodes : unplacedNodes d.nodes = unplacedNodes d'.nodes := congrArg Document.nodes same
  rw [Document.parts, Document.parts, ← nodesParts_unplaced, nodes, nodesParts_unplaced]

end Inlay.Markup
