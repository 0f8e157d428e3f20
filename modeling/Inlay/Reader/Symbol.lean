import Inlay.Text.Basic

namespace Inlay.Markdown

inductive Symbol
  | char (c : Char)
  | pad (columns : Nat)
  | lineEnd (ending taken : Text)
deriving DecidableEq

def byteLength : Text → Nat
  | [] => 0
  | c :: r => c.utf8Size + byteLength r

def padding (width : Nat) : List Symbol := (List.range (width - 1)).map fun n => .pad (n + 1)

def symbols (column : Nat) : Text → List Symbol
  | [] => []
  | c :: r =>
    if c = '\t' then
      .char c :: padding (4 - column % 4) ++ symbols (column + (4 - column % 4)) r
    else .char c :: symbols (column + c.utf8Size) r

namespace Symbol

def isBlank : Symbol → Bool
  | char c => c == ' ' || c == '\t'
  | pad _ => true
  | lineEnd .. => false

def isLineEnd : Symbol → Bool
  | lineEnd .. => true
  | _ => false

def isGap : Symbol → Bool
  | lineEnd .. => true
  | x => x.isBlank

def char? : Symbol → Option Char
  | char c => some c
  | _ => none

def isIn (p : Char → Bool) (x : Symbol) : Bool := x.char?.any p

def face : Symbol → Char
  | char c => c
  | pad _ => '\t'
  | lineEnd _ taken => taken.getLast?.getD '\n'

def shown : Symbol → Text
  | char c => [c]
  | pad _ => []
  | lineEnd ending _ => ending

def source : Symbol → Text
  | lineEnd ending taken => ending ++ taken
  | x => x.shown

end Symbol

def shown (s : List Symbol) : Text := s.flatMap Symbol.shown

def sourceOf (s : List Symbol) : Text := s.flatMap Symbol.source

def splitChars (p : Char → Bool) : List Symbol → Text × List Symbol
  | .char c :: r =>
    if p c then let (taken, rest) := splitChars p r; (c :: taken, rest) else ([], .char c :: r)
  | s => ([], s)

def run (mark : Char) (s : List Symbol) : Nat × List Symbol :=
  ((s.takeWhile (· == .char mark)).length, s.dropWhile (· == .char mark))

def after? : Text → List Symbol → Option (List Symbol)
  | [], s => some s
  | c :: lead, .char d :: s => if c = d then after? lead s else none
  | _ :: _, _ => none

def dropEnd (p : Symbol → Bool) (s : List Symbol) : List Symbol := (s.reverse.dropWhile p).reverse

def unblanked (s : List Symbol) : List Symbol := s.dropWhile Symbol.isBlank

def ungapped (s : List Symbol) : List Symbol := s.dropWhile Symbol.isGap

def unprefixed (behindEnd : Bool) : List Symbol → List Symbol
  | [] => []
  | x :: r =>
    if behindEnd && x.isBlank then unprefixed true r else x :: unprefixed x.isLineEnd r

def allBlank (s : List Symbol) : Bool := s.all Symbol.isBlank

def isAlphanumeric (c : Char) : Bool := Text.isLetter c || Text.isDigit c

end Inlay.Markdown
