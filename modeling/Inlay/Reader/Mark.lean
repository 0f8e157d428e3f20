import Inlay.Reader.Line
import Inlay.Text.Punctuation

namespace Inlay.Markdown

def Options.mayIndent (o : Options) (columns : Nat) : Bool := columns ≤ 3 || !o.codeIndented

def Line.unindented? (o : Options) (l : Line) : Option (List Symbol) :=
  if o.mayIndent l.indent then some (unblanked l.rest) else none

structure Content where
  before : Option Char
  symbols : List Symbol
  after : Option Char

structure Fence where
  mark : Char
  length : Nat
  language : List Symbol

def isFenceMark (c : Char) : Bool := c == '\x60' || c == '~'

def Fence.read? (s : List Symbol) : Option Fence :=
  match s with
  | .char c :: _ =>
    let (length, rest) := run c s
    if isFenceMark c ∧ 3 ≤ length ∧ ¬(c = '\x60' ∧ rest.contains (.char '\x60')) then
      some ⟨c, length, (unblanked rest).takeWhile (!·.isBlank)⟩
    else none
  | _ => none

def isFenceStart (s : List Symbol) : Bool :=
  match s with
  | x :: _ => x.isIn isFenceMark && s.all (· == x) && s.length < 3
  | [] => false

def Fence.closes (f : Fence) (s : List Symbol) : Bool :=
  let (length, rest) := run f.mark s
  f.length ≤ length && allBlank rest

def headingMarks (inWord : Bool) : List Symbol → List (Symbol × Bool)
  | [] => []
  | x :: r =>
    let inside := !x.isBlank && (inWord || x != .char '#')
    (x, inside) :: headingMarks inside r

def headingContent (before : Char) (s : List Symbol) : Content :=
  let marked := headingMarks false s
  let front := marked.takeWhile (!·.2)
  let inside := (marked.dropWhile (!·.2)).reverse.dropWhile (!·.2)
  ⟨some ((front.getLast?.map (·.1.face)).getD before), (inside.map (·.1)).reverse, none⟩

def heading? (s : List Symbol) : Option (Nat × Content) :=
  let (depth, rest) := run '#' s
  if 1 ≤ depth ∧ depth ≤ 6 ∧ rest.head?.all Symbol.isBlank then
    some (depth, headingContent '#' rest)
  else none

def isRuleMarks (s : List Symbol) : Bool :=
  match s with
  | x :: _ =>
    x.isIn (fun c => c == '*' || c == '-' || c == '_') && s.all (fun y => y == x || y.isBlank)
  | [] => false

def countFirst (s : List Symbol) : Nat := s.head?.elim 0 s.count

def isRule (s : List Symbol) : Bool := isRuleMarks s && 3 ≤ countFirst s

def isRuleStart (s : List Symbol) : Bool := isRuleMarks s && countFirst s < 3

def underline? (s : List Symbol) : Option Nat :=
  match s with
  | .char c :: _ =>
    if (c = '=' ∨ c = '-') ∧ allBlank (run c s).2 then some (if c = '=' then 1 else 2) else none
  | _ => none

structure Bullet where
  mark : Char
  number : Option Nat
deriving DecidableEq

def decimal (s : Text) : Nat := s.foldl (fun n c => 10 * n + (c.toNat - 48)) 0

def Bullet.read? (interrupts : Bool) (s : List Symbol) : Option (Bullet × List Symbol) :=
  match s with
  | .char c :: r =>
    if c = '*' ∨ c = '-' ∨ c = '+' then if isRule s then none else some (⟨c, none⟩, r)
    else
      let (digits, rest) := splitChars Text.isDigit s
      match rest with
      | .char d :: behind =>
        if (d = '.' ∨ d = ')') ∧ 1 ≤ digits.length ∧ digits.length ≤ 9 ∧
            (interrupts → digits = ['1']) then
          some (⟨d, some (decimal digits)⟩, behind)
        else none
      | _ => none
  | _ => none

def longestLabel : Nat := 999

def footnoteName? : List Symbol → Option (Text × List Symbol)
  | .char '\\' :: .char c :: r =>
    if c = '[' ∨ c = ']' ∨ c = '\\' then
      (footnoteName? r).map fun (name, rest) => ('\\' :: c :: name, rest)
    else (footnoteName? (.char c :: r)).map fun (name, rest) => ('\\' :: name, rest)
  | .char c :: r =>
    if c = ']' then some ([], r)
    else if c = '[' ∨ c = ' ' ∨ c = '\t' then none
    else (footnoteName? r).map fun (name, rest) => (c :: name, rest)
  | _ => none

def footnoteLabel? (s : List Symbol) : Option (Text × List Symbol) :=
  match s with
  | .char '[' :: .char '^' :: r =>
    match footnoteName? r with
    | some (name, .char ':' :: rest) =>
      if name.isEmpty ∨ longestLabel < byteLength name then none else some (name, unblanked rest)
    | _ => none
  | _ => none

end Inlay.Markdown
