import Inlay.Proofs.Markup.Reading
import Mathlib.Data.List.Basic

namespace Inlay.Markup

def Item.Kept : Item → Prop := Item.Of Plain fun s => '\n' ∉ s ∧ s.getLast? ≠ some '\\'

theorem Entry.read?_kept {e : Entry} (kept : e.item.Kept) (result : Option (List Entry)) :
    e.read? result = result.map (e.bare :: ·) := by
  obtain ⟨level, item⟩ := e
  cases item with
  | text s =>
    obtain ⟨c, r, rfl⟩ := List.exists_cons_of_ne_nil (Plain.nonempty kept)
    rfl
  | string name s => exact if_neg kept.2.2
  | number name s => exact if_neg kept.2.2
  | _ => rfl

theorem read?_kept {es : List Entry} (kept : ∀ e ∈ es, e.item.Kept) :
    es.foldr Entry.read? (some []) = some (es.map Entry.bare) := by
  induction es with
  | nil => rfl
  | cons e es ih =>
    obtain ⟨here, later⟩ := List.forall_mem_cons.1 kept
    rw [List.foldr_cons, ih later, Entry.read?_kept here]
    rfl

theorem Entry.of_read? {e : Entry} {result : Option (List Entry)} {read : List Entry}
    (of : e.item.Of Line ('\n' ∉ ·)) (h : e.read? result = some read) :
    e.item.Of (fun _ => True) (fun s => s.getLast? ≠ some '\\') ∧
    ∃ rest, result = some rest ∧
      (read = rest ∨ (read = e.bare :: rest ∧ e.bare.item.Of Plain ('\n' ∉ ·))) := by
  obtain ⟨level, item⟩ := e
  cases item with
  | text s =>
    cases s with
    | nil => exact ⟨trivial, read, h, .inl rfl⟩
    | cons c r =>
      obtain ⟨rest, found, rfl⟩ := Option.map_eq_some_iff.1 h
      exact ⟨trivial, rest, found, .inr ⟨rfl, of (List.cons_ne_nil c r)⟩⟩
  | string name s =>
    simp only [read?, Option.ite_none_left_eq_some] at h
    obtain ⟨rest, found, rfl⟩ := Option.map_eq_some_iff.1 h.2
    exact ⟨⟨of.1, h.1⟩, rest, found, .inr ⟨rfl, of⟩⟩
  | number name s =>
    simp only [read?, Option.ite_none_left_eq_some] at h
    obtain ⟨rest, found, rfl⟩ := Option.map_eq_some_iff.1 h.2
    exact ⟨⟨of.1, h.1⟩, rest, found, .inr ⟨rfl, of⟩⟩
  | _ =>
    obtain ⟨rest, found, rfl⟩ := Option.map_eq_some_iff.1 h
    exact ⟨of, rest, found, .inr ⟨rfl, of⟩⟩

theorem of_read? {es read : List Entry} (of : ∀ e ∈ es, e.item.Of Line ('\n' ∉ ·))
    (h : es.foldr Entry.read? (some []) = some read) :
    (∀ e ∈ es, e.item.Of (fun _ => True) fun s => s.getLast? ≠ some '\\') ∧
    (∀ e ∈ read, e.item.Of Plain ('\n' ∉ ·)) := by
  induction es generalizing read with
  | nil => cases h; simp
  | cons e es ih =>
    obtain ⟨here, later⟩ := List.forall_mem_cons.1 of
    obtain ⟨closed, rest, found, cases⟩ := Entry.of_read? here h
    obtain ⟨others, kept⟩ := ih later found
    refine ⟨List.forall_mem_cons.2 ⟨closed, others⟩, ?_⟩
    rcases cases with rfl | ⟨rfl, first⟩
    · exact kept
    · exact List.forall_mem_cons.2 ⟨first, kept⟩

namespace Document

variable {d d' : Document}

theorem written_of_lines {s : Text} (h : Lines Line s) : Written Line ('\n' ∉ ·) s := by
  refine ⟨fun several l member => ?_, fun one_line => one_line⟩
  refine h several l (mem_pieces_of_mem_textLines (fun p piece => ?_) member)
  by_cases empty : p = []
  · simp [empty]
  · exact (h several p piece empty).no_return

theorem written_of_storable {s : Text} (h : Storable s) :
    Written Plain (fun s => '\n' ∉ s ∧ s.getLast? ≠ some '\\') s := by
  obtain ⟨lines, closed⟩ := storable_iff.1 h
  refine ⟨fun several l member => ?_, fun one_line => ⟨one_line, closed one_line⟩⟩
  rw [textLines_of_plain (lines several)] at member
  exact lines several l member

theorem of_reparse (parsed : parse d.toMarkup = .ok d') (same : d'.unplaced = d.unplaced) :
    ∀ e ∈ nodesEntries 0 d.nodes, e.item.Of Line ('\n' ∉ ·) := by
  refine (nodesEntries_of 0 d.nodes).2 fun p member => ?_
  have part := parts_of_parse parsed p (parts_eq_of_unplaced_eq same ▸ member)
  exact part.mono (fun _ line => line) fun _ lines => written_of_lines lines

theorem writable_of_reparse (parsed : parse d.toMarkup = .ok d')
    (same : d'.unplaced = d.unplaced) : ∀ p ∈ d.parts, p.Writable := by
  have entries := of_reparse parsed same
  obtain ⟨es, divided, nodes⟩ := parse_eq_ok.1 parsed
  have read := entries?_toMarkup entries
  rw [divided, Option.map_some] at read
  obtain ⟨closed, kept⟩ := of_read? entries read.symm
  -- The strings of the document are those that were written, its lines those that were read.
  have strings := (nodesEntries_of 0 d.nodes).1 closed
  have lines : ∀ p ∈ d.parts, p.Of Plain (Lines Plain) := by
    have again : (Forest.ofEntries (es.map Entry.bare)).nodes? = some d.unplaced.nodes := by
      rw [Forest.ofEntries_bare, (Forest.nested_bare _).1, nodes, ← same]
      rfl
    have carries := carries_lines fun s (plain : Plain s) => plain.one_line
    have flat : ∀ e ∈ (Forest.ofEntries (es.map Entry.bare)).flatten,
        e.item.Of Plain ('\n' ∉ ·) := by
      rw [Forest.flatten_ofEntries]
      exact kept
    have parts := (Forest.parts_of_nodes? carries flat).1 _ again
    rwa [unplaced, nodesParts_unplaced] at parts
  intro p member
  refine ((lines p member).and (strings p member)).mono (fun _ line => line.1) fun s string => ?_
  exact storable_iff.2 ⟨string.1, string.2.2⟩

theorem reparse_of_writable (writable : ∀ p ∈ d.parts, p.Writable) :
    ∃ d', parse d.toMarkup = .ok d' ∧ d'.unplaced = d.unplaced := by
  have kept : ∀ e ∈ nodesEntries 0 d.nodes, e.item.Kept :=
    (nodesEntries_of 0 d.nodes).2 fun p member =>
      (writable p member).mono (fun _ plain => plain) fun _ string => written_of_storable string
  have read := entries?_toMarkup fun e member =>
    (kept e member).mono (fun _ plain => plain.line) fun _ string => string.1
  rw [read?_kept kept, ← nodesEntries_unplaced] at read
  obtain ⟨es, divided, bare⟩ := Option.map_eq_some_iff.1 read
  have nested : (Forest.ofEntries es).nodes?.map unplacedNodes = some (unplacedNodes d.nodes) := by
    have writable' : ∀ p ∈ nodesParts (unplacedNodes d.nodes), p.Writable := by
      rw [nodesParts_unplaced]
      exact writable
    rw [← (Forest.nested_bare _).1, ← Forest.ofEntries_bare, bare]
    exact (nested_nodesEntries writable').1
  obtain ⟨ns, nodes, same⟩ := Option.map_eq_some_iff.1 nested
  exact ⟨⟨ns⟩, parse_eq_ok.2 ⟨es, divided, nodes⟩, congrArg Document.mk same⟩

/-- A document comes back from what it is written as, but for places, if and only if all its names,
lines and strings can be written. -/
theorem parse_toMarkup_iff (d : Document) :
    (∃ d', parse d.toMarkup = .ok d' ∧ d'.unplaced = d.unplaced) ↔ ∀ p ∈ d.parts, p.Writable :=
  ⟨fun ⟨_, parsed, same⟩ => writable_of_reparse parsed same, reparse_of_writable⟩

end Document

def passes : Nat → Text → Except Error Text
  | 0, s => .ok s
  | n + 1, s => do
    let d ← parse s
    passes n d.toMarkup

/-- What a text of a parsed document needs to be read back. -/
def Part.Survives : Part → Prop
  | name _ => True
  | line s => s ≠ []
  | string s => if '\n' ∈ s then [] ∉ Text.pieces '\n' s else s.getLast? ≠ some '\\'

theorem Part.writable_iff {p : Part} (of : p.Of Line (Lines Line)) : p.Writable ↔ p.Survives := by
  cases p with
  | name s => exact ⟨fun _ => trivial, fun _ => of⟩
  | line s => exact ⟨Plain.nonempty, of⟩
  | string s =>
    have storable : (Part.string s).Writable ↔ Storable s := Iff.rfl
    rw [storable, storable_iff, Survives]
    by_cases several : '\n' ∈ s
    · rw [if_pos several]
      refine ⟨fun h empty => (h.1 several [] empty).nonempty rfl, fun h =>
        ⟨fun _ p member => ?_, ?_⟩⟩
      · exact of several p member fun empty => h (empty ▸ member)
      · exact fun one_line => absurd several one_line
    · rw [if_neg several]
      exact ⟨fun h => h.2 several, fun h => ⟨fun line => absurd line several, fun _ => h⟩⟩

theorem passes_fixed {d d' : Document} (parsed : parse d.toMarkup = .ok d')
    (same : d'.unplaced = d.unplaced) (n : Nat) : passes n d.toMarkup = .ok d.toMarkup := by
  induction n with
  | zero => rfl
  | succ n ih =>
    rw [passes, parsed, Attempt.ok_bind, Document.toMarkup_eq_of_unplaced_eq same, ih]

/-- A document that has been read comes back from what it is written as, pass after pass, if and
only if none of its lines is empty, no string of several lines has an empty one, and no string of
one line ends in a backslash. -/
theorem reparse_iff {s : Text} {d : Document} (parsed : parse s = .ok d) :
    (∃ d', parse d.toMarkup = .ok d' ∧ d'.unplaced = d.unplaced ∧
      ∀ n, passes n d.toMarkup = .ok d.toMarkup) ↔ ∀ p ∈ d.parts, p.Survives := by
  have survives : (∀ p ∈ d.parts, p.Writable) ↔ ∀ p ∈ d.parts, p.Survives :=
    forall₂_congr fun p member => Part.writable_iff (parts_of_parse parsed p member)
  rw [← survives]
  constructor
  · rintro ⟨d', again, same, -⟩
    exact Document.writable_of_reparse again same
  · intro writable
    obtain ⟨d', again, same⟩ := Document.reparse_of_writable writable
    exact ⟨d', again, same, passes_fixed again same⟩

/-- A block of one line that ends in a backslash is written as a string that is not closed. -/
theorem backslash_block_not_reparsed :
    ∃ d, parse "\\A\n    Name:\n        foo\\".toList = .ok d ∧
      ¬∃ d', parse d.toMarkup = .ok d' ∧ d'.unplaced = d.unplaced ∧
        ∀ n, passes n d.toMarkup = .ok d.toMarkup := by
  have parsed : parse "\\A\n    Name:\n        foo\\".toList =
      .ok ⟨[.component ⟨['A'], [⟨"Name".toList, .string "foo\\".toList⟩], [], ⟨1, 1⟩⟩]⟩ := by cbv
  refine ⟨_, parsed, fun again => ?_⟩
  have survives := (reparse_iff parsed).1 again (.string "foo\\".toList)
    (by simp [Document.parts, nodesParts, Component.parts, propertiesParts, Value.parts])
  rw [Part.Survives, if_neg (by decide)] at survives
  exact survives (by decide)

end Inlay.Markup
