import Inlay.Reader.Mark

namespace Inlay.Markdown

structure Headers where
  cells : Nat
  parts : Nat
  fresh : Bool

namespace Headers

def part (h : Headers) : Headers :=
  { cells := if h.fresh then h.cells + 1 else h.cells, parts := h.parts + 1, fresh := false }

def read (h : Headers) (inWord : Bool) : List Symbol → Headers
  | [] => h
  | .char '|' :: r => { h.part with fresh := true }.read false r
  | .char '\\' :: .char c :: r =>
    let h := if inWord then h else h.part
    if c = '\\' ∨ c = '|' then h.read true r else h.read true (.char c :: r)
  | x :: r =>
    if x.isBlank then h.read false r
    else if inWord then h.read true r
    else h.part.read true r

end Headers

def headers? (afterBar : Bool) (s : List Symbol) : Option Headers :=
  let h : Headers := if s.head? = some (.char '|') then ⟨0, 0, afterBar⟩ else ⟨0, 1, true⟩
  let h := h.read false s
  if 1 < h.parts then some h else none

/-- A row of dashes from one of its cells on, with the cells before, and whether it has a bar or a
colon, since a line of dashes alone is an underline. -/
def dashedCells? : Nat → Nat → Bool → List Symbol → Option Nat
  | 0, _, _, _ => none
  | fuel + 1, cells, marked, s =>
    let (left, s) := match s with
      | .char ':' :: r => (true, r)
      | s => (false, s)
    let (dashes, rest) := run '-' s
    let (right, rest) := match rest with
      | .char ':' :: r => (true, r)
      | r => (false, r)
    let marked := marked || left || right
    if dashes = 0 then none
    else match unblanked rest with
      | [] => if marked then some (cells + 1) else none
      | .char '|' :: r =>
        match unblanked r with
        | [] => some (cells + 1)
        | next => dashedCells? fuel (cells + 1) true next
      | _ => none

def isDashed (o : Options) (cells : Nat) (l : Line) : Bool :=
  match l.unindented? o with
  | some (.char '|' :: r) =>
    match unblanked r with
    | [] => cells = 0
    | s => dashedCells? (s.length + 1) 0 true s = some cells
  | some s => dashedCells? (s.length + 1) 0 false s = some cells
  | none => false

def intoFirst (s : List Symbol) : List (List Symbol) → List (List Symbol)
  | [] => [s]
  | part :: r => (s ++ part) :: r

def barred : List Symbol → List (List Symbol)
  | [] => [[]]
  | .char '|' :: r => [] :: barred r
  | .char '\\' :: .char c :: r =>
    if c = '\\' ∨ c = '|' then intoFirst [.char '\\', .char c] (barred r)
    else intoFirst [.char '\\'] (barred (.char c :: r))
  | x :: r => intoFirst [x] (barred r)

def cellOf (before after : Option Char) (part : List Symbol) : Content :=
  let s := unblanked part
  let inside := dropEnd Symbol.isBlank s
  ⟨if s.length < part.length then some ' ' else before, inside,
    if inside.length < s.length then some ' ' else after⟩

def cellsOf (before : Option Char) : List (List Symbol) → List Content
  | [] => []
  | [part] => [cellOf before none part]
  | part :: r => cellOf before (some '|') part :: cellsOf (some '|') r

def cells (l : Line) : List Content :=
  let all := cellsOf l.before (barred l.rest)
  let all := match all with
    | first :: next :: r => if first.symbols.isEmpty then next :: r else all
    | _ => all
  match all with
  | _ :: _ :: _ => if (all.getLast?.any (·.symbols.isEmpty)) then all.dropLast else all
  | _ => all

end Inlay.Markdown
