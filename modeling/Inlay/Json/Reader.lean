import Inlay.Number.Float
import Inlay.Text.Utf8

namespace Inlay.Json

inductive Fault
  | malformed
  | unfit
  | cut
deriving DecidableEq

abbrev Reader := StateT Text (Except Fault)

def isBlank (c : Char) : Bool := c == ' ' || c == '\n' || c == '\t' || c == '\r'

def peek : Reader (Option Char) := do
  modify (List.dropWhile isBlank)
  return (← get).head?

def start : Reader Char := do
  match ← peek with
  | some c => return c
  | none => throw .cut

def drop : Reader Unit := modify (List.drop 1)

def word : Text → Reader Unit
  | [] => return ()
  | c :: r => do
    match ← get with
    | [] => throw .cut
    | d :: rest =>
      if c ≠ d then throw .malformed
      set rest
      word r

structure Numeral where
  negative : Bool
  whole : Text
  fraction : Option Text
  exponent : Option Int

def digits : Reader Text := modifyGet (Text.split Text.isDigit)

def someDigits (atEnd : Fault) : Reader Text := do
  let s ← digits
  if s.isEmpty then
    if (← get).isEmpty then throw atEnd else throw .malformed
  return s

def optional (c : Char) : Reader Bool := do
  if (← get).head? = some c then
    drop
    return true
  return false

def fraction (atEnd : Fault) : Reader (Option Text) := do
  if ← optional '.' then return some (← someDigits atEnd)
  return none

def exponent (atEnd : Fault) : Reader (Option Int) := do
  if (← optional 'e') || (← optional 'E') then
    let plus ← optional '+'
    let minus ← if plus then pure false else optional '-'
    let n := Number.ofDigits (← someDigits atEnd)
    return some (if minus then -(n : Int) else n)
  return none

def numeral (atEnd : Fault) : Reader Numeral := do
  let negative ← optional '-'
  let whole ← someDigits atEnd
  if whole.head? = some '0' ∧ 1 < whole.length then throw .malformed
  return ⟨negative, whole, ← fraction atEnd, ← exponent atEnd⟩

def significand (m : Nat) : Text → Nat × Nat
  | [] => (m, 0)
  | c :: r =>
    let more := 10 * m + (c.toNat - 48)
    if Nat.pow 2 64 ≤ more then (m, r.length + 1) else significand more r

/-- Whether a number is in the range of doubles: the digits that fit in 64 bits, as a double,
times a power of ten, as a double.  Digits that do not fit are zeros. -/
def Numeral.isFinite (n : Numeral) : Bool :=
  let fraction := n.fraction.getD []
  let (m, zeros) := significand 0 n.whole
  let (m, left) := significand m fraction
  let e := n.exponent.getD 0 + zeros - (fraction.length - left : Nat)
  m = 0 || e < 0 || (e ≤ 308 && Number.isFiniteProduct (Number.nearestBits m 1)
    (Number.nearestDecimal 1 e))

def Numeral.natural? (n : Numeral) : Option Nat :=
  let m := Number.ofDigits n.whole
  if n.negative || n.fraction.isSome || n.exponent.isSome || Nat.pow 2 64 ≤ m then none else some m

def number : Reader Numeral := do
  let n ← numeral .cut
  if n.isFinite then return n else throw .malformed

def hexValue? (c : Char) : Option Nat :=
  if '0' ≤ c ∧ c ≤ '9' then some (c.toNat - 48)
  else if 'a' ≤ c ∧ c ≤ 'f' then some (c.toNat - 87)
  else if 'A' ≤ c ∧ c ≤ 'F' then some (c.toNat - 55)
  else none

def codeUnit (s : Text) : Except Fault (Nat × Text) :=
  match (s.take 4).mapM hexValue? with
  | some [a, b, c, d] => .ok (((a * 16 + b) * 16 + c) * 16 + d, s.drop 4)
  | _ => .error (if (Text.utf8 (s.take 4)).length < 4 then .cut else .malformed)

def escaped? : Char → Option Char
  | '"' => some '"'
  | '\\' => some '\\'
  | '/' => some '/'
  | 'b' => some '\x08'
  | 'f' => some '\x0c'
  | 'n' => some '\n'
  | 'r' => some '\r'
  | 't' => some '\t'
  | _ => none

def unitChar (unit : Nat) (s : Text) : Except Fault (Char × Text) :=
  if 0xdc00 ≤ unit ∧ unit ≤ 0xdfff then .error .malformed
  else if unit < 0xd800 ∨ 0xdfff < unit then .ok (Char.ofNat unit, s)
  else match s with
    | '\\' :: 'u' :: r => do
      let (low, r) ← codeUnit r
      if 0xdc00 ≤ low ∧ low ≤ 0xdfff then
        return (Char.ofNat (0x10000 + (unit - 0xd800) * 1024 + (low - 0xdc00)), r)
      .error .malformed
    | [] | ['\\'] => .error .cut
    | _ => .error .malformed

def stringChar (s : Text) : Except Fault (Option Char × Text) :=
  match s with
  | [] => .error .cut
  | '"' :: r => .ok (none, r)
  | '\\' :: 'u' :: r => do
    let (unit, r) ← codeUnit r
    let (c, r) ← unitChar unit r
    return (some c, r)
  | ['\\'] => .error .cut
  | '\\' :: c :: r =>
    match escaped? c with
    | some c => .ok (some c, r)
    | none => .error .malformed
  | c :: r => if c.toNat < 32 then .error .malformed else .ok (some c, r)

def skippedChar (s : Text) : Except Fault (Option Char × Text) :=
  match s with
  | '\\' :: 'u' :: r => do
    let (_, r) ← codeUnit r
    return (some 'u', r)
  | s => stringChar s

def stringFrom (one : Text → Except Fault (Option Char × Text)) :
    Nat → Text → Except Fault (Text × Text)
  | 0, _ => .error .cut
  | bound + 1, s => do
    match ← one s with
    | (none, r) => return ([], r)
    | (some c, r) =>
      let (t, r) ← stringFrom one bound r
      return (c :: t, r)

def string : Reader Text := do
  drop
  let s ← get
  let (t, r) ← stringFrom stringChar (s.length + 1) s
  set r
  return t

def skipString : Reader Unit := do
  drop
  let s ← get
  let (_, r) ← stringFrom skippedChar (s.length + 1) s
  set r

def constant? : Char → Option Text
  | 'n' => some ['u', 'l', 'l']
  | 't' => some ['r', 'u', 'e']
  | 'f' => some ['a', 'l', 's', 'e']
  | _ => none

def beginsNumber (c : Char) : Bool := c == '-' || Text.isDigit c

def refuse (c : Char) : Reader α := do
  match constant? c with
  | some rest =>
    drop
    word rest
    throw .unfit
  | none =>
    if beginsNumber c then
      let _ ← number
      throw .unfit
    else if c = '"' then
      let _ ← string
      throw .unfit
    else if c = '[' ∨ c = '\x7b' then throw .unfit
    else throw .malformed

def skipSimple (c : Char) : Reader Unit := do
  match constant? c with
  | some rest =>
    drop
    word rest
  | none =>
    if beginsNumber c then discard (numeral .malformed)
    else if c = '"' then skipString
    else throw .malformed

def closing? : Char → Option Char
  | '[' => some ']'
  | '\x7b' => some '\x7d'
  | _ => none

def colon : Reader Unit := do
  if (← start) = ':' then drop else throw .malformed

def separator (afterValue : Bool) (c : Char) : Reader Unit := do
  if afterValue then
    if c = ',' then drop else throw .malformed

def skipWithin : Nat → Bool → List Char → Reader Unit
  | _, _, [] => return ()
  | 0, _, _ => throw .cut
  | bound + 1, afterValue, close :: outer => do
    let c ← start
    if c = close then
      drop
      skipWithin bound true outer
    else
      separator afterValue c
      if close = '\x7d' then
        if (← start) = '"' then skipString else throw .malformed
        colon
      let c ← start
      match closing? c with
      | some inner =>
        drop
        skipWithin bound false (inner :: close :: outer)
      | none =>
        skipSimple c
        skipWithin bound true (close :: outer)

def skip : Reader Unit := do
  let c ← start
  match closing? c with
  | some close =>
    drop
    skipWithin (2 * (← get).length + 2) false [close]
  | none => skipSimple c

def text : Reader Text := do
  let c ← start
  if c = '"' then string else refuse c

def boolean : Reader Bool := do
  let c ← start
  if c = 't' then
    drop
    word ['r', 'u', 'e']
    return true
  else if c = 'f' then
    drop
    word ['a', 'l', 's', 'e']
    return false
  else refuse c

def natural : Reader Nat := do
  let c ← start
  if beginsNumber c then
    match (← number).natural? with
    | some n => return n
    | none => throw .unfit
  else refuse c

def nullable (r : Reader α) : Reader (Option α) := do
  if (← peek) = some 'n' then
    drop
    word ['u', 'l', 'l']
    return none
  else return some (← r)

def more (close : Char) (before : Bool) : Reader Bool := do
  let c ← start
  if c = close then return false
  separator before c
  if before ∧ (← start) = close then throw .malformed
  return true

def elements (r : Reader α) : Nat → Bool → Reader (List α)
  | 0, _ => throw .cut
  | bound + 1, before => do
    if ← more ']' before then
      let a ← r
      return a :: (← elements r bound true)
    else
      drop
      return []

def list (r : Reader α) : Reader (List α) := do
  let c ← start
  if c = '[' then
    drop
    elements r ((← get).length + 1) false
  else refuse c

def key? (before : Bool) : Reader (Option Text) := do
  if ← more '\x7d' before then
    if (← start) = '"' then return some (← string) else throw .malformed
  else
    drop
    return none

def members (member : Text → σ → Reader σ) : Nat → Bool → σ → Reader σ
  | 0, _, _ => throw .cut
  | bound + 1, before, s => do
    match ← key? before with
    | some key => members member bound true (← member key s)
    | none => return s

def read (r : Reader α) (s : Text) : Except Fault α :=
  match r.run s with
  | .error fault => .error fault
  | .ok (a, rest) => if rest.all isBlank then .ok a else .error .malformed

end Inlay.Json
