import Inlay.Reader.Symbol
import Inlay.Markdown.Tree

namespace Inlay.Markdown

structure Line where
  number : Nat
  start : Nat
  taken : Text
  rest : List Symbol
  ending : Text

def cutLines : Text → List (Text × Text)
  | [] => []
  | '\r' :: '\n' :: r => ([], ['\r', '\n']) :: cutLines r
  | c :: r =>
    if c = '\n' ∨ c = '\r' then ([], [c]) :: cutLines r
    else match cutLines r with
      | [] => [([c], [])]
      | (body, ending) :: lines => (c :: body, ending) :: lines

def placeLines (number start : Nat) (taken : Text) : List (Text × Text) → List Line
  | [] => []
  | (body, ending) :: lines =>
    ⟨number, start, taken, symbols (byteLength taken) body, ending⟩ ::
      placeLines (number + 1) (start + byteLength (taken ++ body ++ ending)) [] lines

def sourceLines (s : Text) : List Line :=
  match s with
  | '\ufeff' :: r => placeLines 1 0 ['\ufeff'] (cutLines r)
  | _ => placeLines 1 0 [] (cutLines s)

namespace Line

def indent (l : Line) : Nat := (l.rest.takeWhile Symbol.isBlank).length

def isBlank (l : Line) : Bool := allBlank l.rest

def drop (l : Line) (n : Nat) : Line :=
  { l with taken := l.taken ++ shown (l.rest.take n), rest := l.rest.drop n }

def dropBlanks (l : Line) (most : Nat) : Line := l.drop (min most l.indent)

def dropTo (l : Line) (rest : List Symbol) : Line := l.drop (l.rest.length - rest.length)

def isInTab (l : Line) : Bool := match l.rest with
  | .pad _ :: _ => true
  | _ => false

def place (l : Line) : Place :=
  .known l.number (l.start + byteLength l.taken - if l.isInTab then 1 else 0)

def before (l : Line) : Option Char := l.taken.getLast?

end Line

/-- The length of a piece of a line with something behind it.  A whole tab counts once; one that
begins before the piece counts as if it was four columns wide, and one that ends behind it counts
the columns up to there. -/
def extent (piece behind : List Symbol) : Nat :=
  let front := match piece with
    | .pad n :: _ => 4 - n
    | _ => 0
  let back := match behind with
    | .pad n :: _ => n - 1
    | _ => 0
  front + byteLength (shown piece) + back

def joined : List Line → List Symbol
  | [] => []
  | [l] => l.rest
  | l :: next :: r => l.rest ++ .lineEnd l.ending next.taken :: joined (next :: r)

end Inlay.Markdown
