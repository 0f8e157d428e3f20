import Inlay.Reader.Link

namespace Inlay.Markdown

inductive Block
  | paragraph (front : Bool) (content : Content)
  | heading (depth : Nat) (place : Place) (content : Content)
  | rule
  | code (language : List Symbol) (value : Text) (place : Place)
  | html (value : Text)
  | definition (label : Text)
  | table (rows : List (List Content))
  | quote (inside : List Block)
  | item (bullet : Bullet) (sticks : Bool) (inside : List Block)
  | footnote (label : Text) (inside : List Block)

inductive Entry
  | content (lines : List Line)
  | underline (depth : Nat) (line : Line)
  | blank (line : Line)
  | table (rows : List (List Content))
  | row (cells : List Content)
  | block (b : Block)

def addEntry (e : Entry) : List Entry → List Entry
  | [] => [e]
  | [last] =>
    match last, e with
    | .content lines, .content more => [.content (lines ++ more)]
    | .table rows, .row cells => [.table (rows ++ [cells])]
    | _, _ => [last, e]
  | first :: r => first :: addEntry e r

def lineCount (s : List Symbol) : Nat := s.countP (· matches .lineEnd ..)

def definitions : Nat → List Line → List Text × List Line
  | 0, lines => ([], lines)
  | fuel + 1, lines =>
    match definition? (joined lines) with
    | some (label, rest) =>
      let (labels, left) := definitions fuel (lines.drop (lines.length - lineCount rest))
      (sourceOf label :: labels, left)
    | none => ([], lines)

def contentOf (lines : List Line) : Content := ⟨lines.head?.bind Line.before, joined lines, none⟩

def paragraphOf (front : Bool) (lines : List Line) : List Block :=
  if lines.isEmpty then [] else [.paragraph front (contentOf lines)]

def Line.isAtFront (opened : Nat) (l : Line) : Bool := l.number == opened || !l.taken.contains '>'

/-- The blocks that entries are.  `held` are lines of a paragraph that an underline may follow,
and `front` tells on which line the item opens at whose front the entries are, or that they are
not at the front of one; `heldFront` tells it of the lines. -/
def blocksOf (held : List Line) (heldFront : Bool) (front : Option Nat) : List Entry → List Block
  | [] => paragraphOf heldFront held
  | .underline depth line :: r =>
    match held with
    | [] => blocksOf [line] false none r
    | first :: _ =>
      .heading depth first.place (contentOf held) :: blocksOf [] false none r
  | .content lines :: r =>
    let (labels, left) := definitions lines.length lines
    let joins := labels.isEmpty && lines.head?.any (·.taken.isEmpty)
    if held ≠ [] ∧ joins then blocksOf (held ++ left) false none r
    else
      let read := lines.take (lines.length - left.length + 1)
      let front := if held.isEmpty then front else none
      let front := front.filter fun opened => read.all (·.isAtFront opened)
      paragraphOf heldFront held ++ labels.map .definition ++
        if left.isEmpty then blocksOf [] false front r else blocksOf left front.isSome none r
  | .blank line :: r =>
    let front := if held.isEmpty then front else none
    paragraphOf heldFront held ++ blocksOf [] false (front.filter (line.isAtFront ·)) r
  | .table rows :: r => paragraphOf heldFront held ++ .table rows :: blocksOf [] false none r
  | .row cells :: r => paragraphOf heldFront held ++ .table [cells] :: blocksOf [] false none r
  | .block b :: r => paragraphOf heldFront held ++ b :: blocksOf [] false none r

end Inlay.Markdown
