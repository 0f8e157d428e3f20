import Inlay.Markup.Lexer
import Inlay.Markup.Tree

/-!
# Parsing markup

Nesting is indentation.  The level of a token is the number of indents on its line.  A component,
or a block of lines that is the value of a property, holds the lines after it that are deeper than
the line it begins on, and ends at the first that is not.

Each function reads from a cursor and gives back the cursor behind what it read, with the fact that
no more tokens are left there than before; that is why they end.
-/

namespace Inlay.Markup

structure Cursor where
  stream : Stream
  level : Nat

def Cursor.size (c : Cursor) : Nat := c.stream.length

def Cursor.skipLayout (c : Cursor) : Cursor := go c.level c.stream
where
  go (level : Nat) : Stream → Cursor
    | .cons t rest =>
      match t.kind with
      | .indent => go (level + 1) rest
      | .lineBreak => go 0 rest
      | _ => ⟨.cons t rest, level⟩
    | s => ⟨s, level⟩

theorem Cursor.skipLayout_size (c : Cursor) : c.skipLayout.size ≤ c.size := by
  suffices ∀ level s, (skipLayout.go level s).size ≤ s.length from this ..
  intro level s
  induction s generalizing level with
  | cons t rest ih =>
    have indented := ih (level + 1)
    have broken := ih 0
    unfold skipLayout.go
    split <;> simp only [Cursor.size, Stream.length] at * <;> omega
  | _ => exact Nat.le_refl _

/-- Something read, and a cursor behind it with fewer than `bound` tokens left. -/
structure Parsed (bound : Nat) (α : Type) where
  value : α
  rest : Cursor
  fewer : rest.size < bound

namespace Parser

def string (s : Stream) : Except Error (Text × { r : Stream // r.length ≤ s.length }) :=
  match h₁ : s.next with
  | .error e => .error e
  | .ok (opening, s₁) =>
    if opening.kind ≠ .quote then
      .error ⟨.malformedString (.notOpened opening.value), opening.location⟩
    else match h₂ : s₁.next with
      | .error e => .error e
      | .ok (inside, s₂) =>
        if inside.kind ≠ .text then
          .error ⟨.malformedString (.noContents inside.kind), inside.location⟩
        else match h₃ : s₂.next with
          | .error e => .error e
          | .ok (closing, s₃) =>
            if closing.kind ≠ .quote then
              .error ⟨.malformedString (.notClosed closing.kind), closing.location⟩
            else .ok (inside.value, ⟨s₃, Nat.le_trans (Stream.next_length h₃)
              (Nat.le_trans (Stream.next_length h₂) (Stream.next_length h₁))⟩)

def blockValue (nodes : List Node) (place : Location) : Except Error Value :=
  let count := (nodes.filterMap Node.component?).length
  if 1 < count then .error ⟨.tooManyComponents count, place⟩
  else match nodes with
    | [.component inner] => .ok (.component inner)
    | nodes =>
      if count = 0 then .ok (.string (['\n'].intercalate (nodes.filterMap Node.text?)))
      else .error ⟨.mixedValue, place⟩

theorem blockValue_component (inner : Component) (place : Location) :
    blockValue [.component inner] place = .ok (.component inner) := by
  simp [blockValue, Node.component?]

theorem blockValue_of_ne {nodes : List Node} (other : ∀ inner, nodes ≠ [.component inner])
    (place : Location) :
    blockValue nodes place =
      if 1 < (nodes.filterMap Node.component?).length then
        .error ⟨.tooManyComponents (nodes.filterMap Node.component?).length, place⟩
      else if (nodes.filterMap Node.component?).length = 0 then
        .ok (.string (['\n'].intercalate (nodes.filterMap Node.text?)))
      else .error ⟨.mixedValue, place⟩ := by
  unfold blockValue
  split
  · next inner => exact absurd rfl (other inner)
  · rfl

theorem blockValue_eq_ok {nodes : List Node} {place : Location} {value : Value}
    (made : blockValue nodes place = .ok value) :
    (∃ inner, nodes = [.component inner] ∧ value = .component inner) ∨
      nodes.filterMap Node.component? = [] ∧
        value = .string (['\n'].intercalate (nodes.filterMap Node.text?)) := by
  by_cases single : ∃ inner, nodes = [.component inner]
  · obtain ⟨inner, rfl⟩ := single
    rw [blockValue_component] at made
    cases made
    exact .inl ⟨inner, rfl, rfl⟩
  · rw [blockValue_of_ne fun inner same => single ⟨inner, same⟩] at made
    split at made
    · cases made
    · split at made
      · next none =>
        cases made
        exact .inr ⟨List.length_eq_zero_iff.1 none, rfl⟩
      · cases made

mutual

def block (base : Nat) (c : Cursor) : Except Error (Parsed (c.size + 1) (List Node)) :=
  have skipped := c.skipLayout_size
  match h : c.skipLayout with
  | ⟨.ended place, level⟩ =>
    .ok ⟨[], ⟨.ended place, level⟩, by rw [h] at skipped; omega⟩
  | ⟨.malformed place, _⟩ => .error ⟨.malformedIndent, place⟩
  | ⟨.cons t rest, level⟩ =>
    have : rest.length + 1 ≤ c.size := by rw [h] at skipped; exact skipped
    if base ≠ 0 ∧ level ≤ base then
      .ok ⟨[], ⟨.cons t rest, level⟩, by rw [h] at skipped; omega⟩
    else match t.kind with
      | .component => do
        let ⟨(properties, children), c₁, _⟩ ← body level ⟨rest, level⟩
        have : c₁.size < c.size := by simp only [Cursor.size] at *; omega
        let ⟨nodes, c₂, _⟩ ← block base c₁
        .ok ⟨.component ⟨t.value, properties, children, t.location⟩ :: nodes, c₂, by omega⟩
      | .text => do
        let ⟨nodes, c₁, fewer⟩ ← block base ⟨rest, level⟩
        .ok ⟨.text t.value :: nodes, c₁, by simp only [Cursor.size] at *; omega⟩
      | kind => .error ⟨.unexpectedToken kind t.value, t.location⟩
termination_by 2 * c.size
decreasing_by all_goals simp only [Cursor.size] at *; omega

def body (base : Nat) (c : Cursor) :
    Except Error (Parsed (c.size + 1) (List Property × List Node)) :=
  have skipped := c.skipLayout_size
  match h : c.skipLayout with
  | ⟨.ended place, level⟩ =>
    .ok ⟨([], []), ⟨.ended place, level⟩, by rw [h] at skipped; omega⟩
  | ⟨.malformed place, _⟩ => .error ⟨.malformedIndent, place⟩
  | ⟨.cons t rest, level⟩ =>
    have : rest.length + 1 ≤ c.size := by rw [h] at skipped; exact skipped
    if level ≤ base then
      .ok ⟨([], []), ⟨.cons t rest, level⟩, by rw [h] at skipped; omega⟩
    else match t.kind with
      | .text => do
        let ⟨(properties, children), c₁, _⟩ ← body base ⟨rest, level⟩
        .ok ⟨(properties, .text t.value :: children), c₁, by simp only [Cursor.size] at *; omega⟩
      | .component => do
        let ⟨(inner, below), c₁, _⟩ ← body level ⟨rest, level⟩
        have : c₁.size < c.size := by simp only [Cursor.size] at *; omega
        let ⟨(properties, children), c₂, _⟩ ← body base c₁
        .ok ⟨(properties, .component ⟨t.value, inner, below, t.location⟩ :: children), c₂,
          by omega⟩
      | .flag => do
        let ⟨(properties, children), c₁, _⟩ ← body base ⟨rest, level⟩
        .ok ⟨(⟨t.value, .flag⟩ :: properties, children), c₁,
          by simp only [Cursor.size] at *; omega⟩
      | .property => do
        let ⟨value, c₁, _⟩ ← property ⟨rest, level⟩
        have : c₁.size < c.size := by simp only [Cursor.size] at *; omega
        let ⟨(properties, children), c₂, _⟩ ← body base c₁
        .ok ⟨(⟨t.value, value⟩ :: properties, children), c₂, by omega⟩
      | kind => .error ⟨.unexpectedToken kind t.value, t.location⟩
termination_by 2 * c.size
decreasing_by all_goals simp only [Cursor.size] at *; omega

def property (c : Cursor) : Except Error (Parsed (c.size + 1) Value) :=
  match h₁ : c.stream.next with
  | .error e => .error e
  | .ok (colon, s₁) =>
    if colon.kind ≠ .colon then .error ⟨.expectedColon colon.value, colon.location⟩
    else match h₂ : s₁.next with
      | .error e => .error e
      | .ok (head, s₂) =>
        have one := Stream.next_length h₁
        have two := Stream.next_length h₂
        match head.kind with
        | .quote => do
          let (text, ⟨s₃, three⟩) ← string s₁
          .ok ⟨.string text, ⟨s₃, c.level⟩, by simp only [Cursor.size]; omega⟩
        | .number => .ok ⟨.string head.value, ⟨s₂, c.level⟩, by simp only [Cursor.size]; omega⟩
        | .lineBreak => do
          let ⟨nodes, c₁, _⟩ ← block c.level ⟨s₂, 0⟩
          let value ← blockValue nodes head.location
          .ok ⟨value, c₁, by simp only [Cursor.size] at *; omega⟩
        | _ => .error ⟨.expectedValue head.value, head.location⟩
termination_by 2 * c.size + 1
decreasing_by simp only [Cursor.size] at *; omega

end

end Parser

def Document.ofStream (s : Stream) : Except Error Document := do
  let parsed ← Parser.block 0 ⟨s, 0⟩
  .ok ⟨parsed.value⟩

def parse (s : Text) : Except Error Document := Document.ofStream (.ofText s)

end Inlay.Markup
