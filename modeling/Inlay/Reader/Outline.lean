import Inlay.Reader.Flow

/-!
# Outline

The open containers of a document — block quotes, list items, footnotes — are frames, one inside
of the other.  A line

1. goes on with the containers that it can;
2. opens new ones, which close those that it did not go on with;
3. is a step of the flow in the innermost container.

A line of a paragraph need not go on with the containers around it.
-/

namespace Inlay.Markdown

inductive Container
  | quote
  | item (bullet : Bullet) (opened depth : Nat) (empty : Bool)
  | footnote (label : Text)

structure Frame where
  container : Container
  entries : List Entry

def Frame.block (f : Frame) (sticks : Bool) : Block :=
  match f.container with
  | .quote => .quote (blocksOf [] false none f.entries)
  | .item bullet opened _ _ => .item bullet sticks (blocksOf [] false (some opened) f.entries)
  | .footnote label => .footnote label (blocksOf [] false none f.entries)

def closedEntry (sticks : Bool) : List Frame → List Entry
  | [] => []
  | f :: inner =>
    let entries := (closedEntry false inner).foldl (fun all e => addEntry e all) f.entries
    [.block ({ f with entries := entries }.block sticks)]

def giveInnermost (entries : List Entry) : List Frame → List Frame
  | [] => []
  | [f] => [{ f with entries := entries.foldl (fun all e => addEntry e all) f.entries }]
  | f :: inner => f :: giveInnermost entries inner

def Container.continue? (o : Options) (l : Line) (c : Container) : Option Line :=
  match c with
  | .quote =>
    match l.unindented? o with
    | some (.char '>' :: r) => some ((l.dropTo r).dropBlanks 1)
    | _ => none
  | .item _ _ depth empty =>
    if l.isBlank then if empty then none else some (l.dropBlanks depth)
    else if depth ≤ l.indent then some (l.dropBlanks depth)
    else none
  | .footnote _ =>
    if l.isBlank then some (l.dropBlanks 4)
    else if 4 ≤ l.indent then some (l.dropBlanks 4)
    else none

def Container.seen (l : Line) : Container → Container
  | .item bullet opened depth empty => .item bullet opened depth (empty && l.isBlank)
  | c => c

def continueFrames (o : Options) (l : Line) : List Frame → Nat × List Frame × Line
  | [] => (0, [], l)
  | f :: inner =>
    let f' := { f with container := f.container.seen l }
    match f.container.continue? o l with
    | some l =>
      let (n, inner, l) := continueFrames o l inner
      (n + 1, f' :: inner, l)
    | none => (0, f' :: inner, l)

def item? (o : Options) (interrupts : Bool) (l : Line) : Option (Container × Line) := do
  let s ← l.unindented? o
  let (bullet, behind) ← Bullet.read? interrupts s
  let depth (rest : List Symbol) := extent (l.rest.take (l.rest.length - rest.length)) rest
  if allBlank behind then
    if interrupts then none
    else
      let gap := if behind.isEmpty then max 1 l.ending.length else 1
      some (.item bullet l.number (depth behind + gap) true, l.dropTo behind)
  else
    let columns := (behind.takeWhile Symbol.isBlank).length
    if columns = 0 then none
    else
      let rest := behind.drop (if columns ≤ 4 then columns else 1)
      some (.item bullet l.number (depth rest) false, l.dropTo rest)

def looksLikeItem (o : Options) (l : Line) : Bool :=
  (l.unindented? o).any fun s =>
    isRule s && (s.head? == some (.char '*') || s.head? == some (.char '-'))

def container? (o : Options) (interrupts : Bool) (l : Line) : Option (Container × Line) :=
  match l.unindented? o with
  | none => none
  | some s =>
    match s with
    | .char '>' :: r => some (.quote, (l.dropTo r).dropBlanks 1)
    | _ => (item? o interrupts l).or
      (if o.gfm then (footnoteLabel? s).map fun (label, rest) => (.footnote label, l.dropTo rest)
        else none)

def containers (o : Options) (others : Bool) : Nat → Bool → Line → List Container × Line
  | 0, _, l => ([], l)
  | fuel + 1, interrupts, l =>
    match container? o interrupts l with
    | some (c, l) =>
      let (inner, l) := containers o others fuel others l
      (c :: inner, l)
    | none => ([], l)

structure Outline where
  entries : List Entry
  frames : List Frame
  flow : Flow
  interrupts : Bool
  takesLazy : Bool
  lazy : Bool

namespace Outline

def start : Outline := ⟨[], [], .start, false, false, false⟩

def give (d : Outline) (entries : List Entry) : Outline :=
  match d.frames with
  | [] => { d with entries := entries.foldl (fun all e => addEntry e all) d.entries }
  | frames => { d with frames := giveInnermost entries frames }

def close (d : Outline) (kept : Nat) (sticks : Bool) : Outline :=
  let d' := { d with frames := d.frames.take kept, flow := { d.flow with inParagraph := false } }
  d'.give (closedEntry (sticks && kept == 0) (d.frames.drop kept))

def flush (d : Outline) (kept : Nat) : Outline :=
  let (entries, sticks, flow) := d.flow.finish d.lazy
  ({ d with flow := flow }.give entries).close kept sticks

def stepFlow (o : Options) (continued : Nat) (fresh : Bool) (d : Outline) (l : Line) : Outline :=
  let lazy := decide (continued < d.frames.length)
  let (settled, entries, flow) := d.flow.step o ⟨lazy, fresh⟩ l
  let takesLazy := flow.takesLazy
  let d' := { d with flow := flow, lazy := lazy, takesLazy := takesLazy }.give settled
  if lazy && !(d.takesLazy && takesLazy) then (d'.close continued false).give entries
  else d'.give entries

def line (o : Options) (d : Outline) (l : Line) : Outline :=
  let (continued, frames, l) := continueFrames o l d.frames
  let d := { d with frames := frames }
  let all := continued = frames.length
  let interrupts := if all then d.flow.inParagraph && !l.isBlank else d.interrupts
  if all ∧ d.flow.isConcrete then { d with interrupts := interrupts }.stepFlow o continued false l
  else
    let others := if all then d.flow.inParagraph else false
    let (opened, l) := containers o others (l.rest.length + 1) interrupts l
    let interrupts := if opened.isEmpty then interrupts else others
    let d := { d with interrupts := interrupts && !looksLikeItem o l }
    if opened.isEmpty then d.stepFlow o continued false l
    else
      let d :=
        if all then
          let (entries, flow) := d.flow.settle
          { d with flow := flow }.give entries
        else d.flush continued
      let d := { d with frames := d.frames ++ opened.map (Frame.mk · []) }
      d.stepFlow o d.frames.length true l

def blocks (d : Outline) : List Block := blocksOf [] false none (d.flush 0).entries

end Outline

def blocks (o : Options) (s : Text) : List Block :=
  ((sourceLines s).foldl (Outline.line o) .start).blocks

end Inlay.Markdown
