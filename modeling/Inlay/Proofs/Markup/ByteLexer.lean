import Inlay.Proofs.Markup.Bytes
import Inlay.Proofs.Markup.Calls

namespace Inlay.Markup
open Text

structure ByteToken where
  kind : Token.Kind
  value : List UInt8
  location : Location

def Token.encoded (t : Token) : ByteToken := ⟨t.kind, utf8 t.value, t.location⟩

structure ByteLexer where
  input : List UInt8
  position : Nat
  location : Location
  previous : Option ByteToken

namespace ByteLexer

def start (input : List UInt8) : ByteLexer := ⟨input, 0, .start, none⟩

def byteAt (l : ByteLexer) (i : Nat) : Option UInt8 := l.input[i]?

def current (l : ByteLexer) : UInt8 := (l.byteAt l.position).getD 0

def isEnd (l : ByteLexer) : Bool := l.input.length ≤ l.position

def previousIs (l : ByteLexer) (kind : Token.Kind) : Bool := l.previous.any (·.kind = kind)

def advance (l : ByteLexer) : ByteLexer :=
  match l.byteAt l.position with
  | none => l
  | some b => { l with position := l.position + 1, location := l.location.stepByte b }

theorem advance_shorter {l : ByteLexer} (more : ¬l.isEnd) :
    l.advance.input.length - l.advance.position < l.input.length - l.position := by
  have inside : l.position < l.input.length := by simpa [isEnd] using more
  rw [advance, byteAt, List.getElem?_eq_getElem inside]
  dsimp only
  omega

def advanceWhile (p : UInt8 → Bool) (l : ByteLexer) : ByteLexer :=
  if _ : l.isEnd then l
  else if p l.current then l.advance.advanceWhile p
  else l
termination_by l.input.length - l.position
decreasing_by exact advance_shorter ‹_›

def advanceTo (last : Nat) (l : ByteLexer) : Option ByteLexer :=
  if l.position < last then
    if _ : l.isEnd then none
    else l.advance.advanceTo last
  else some l
termination_by l.input.length - l.position
decreasing_by exact advance_shorter ‹_›

def rest? (l : ByteLexer) : Option (List UInt8) :=
  if l.position ≤ l.input.length then some (l.input.drop l.position) else none

def takeUntil (l : ByteLexer) (last : Nat) : Option (List UInt8 × ByteLexer) := do
  let moved ← l.advanceTo last
  return (← slice? l.input l.position last, moved)

def isIndent (l : ByteLexer) : Bool :=
  l.position != 0 && Bytes.isSpace l.current && (l.previousIs .indent || l.previousIs .lineBreak)

def lexSpaces (place : Location) : Nat → ByteLexer → Except Error ByteToken × ByteLexer
  | 0, l => (.ok ⟨.indent, ['\t'.toUInt8], place⟩, l)
  | missing + 1, l =>
    if !l.isEnd && l.current == ' '.toUInt8 then lexSpaces place missing l.advance
    else (.error ⟨.malformedIndent, place⟩, l)

def lexIndent (l : ByteLexer) : Except Error ByteToken × ByteLexer :=
  if l.current == '\t'.toUInt8 then
    (.ok ⟨.indent, ['\t'.toUInt8], l.location⟩, l.advance)
  else lexSpaces l.location 4 l

def lexString (l : ByteLexer) (last : Nat) : Option (Except Error ByteToken × ByteLexer) := do
  let (raw, moved) ← l.takeUntil last
  return (.ok ⟨.text, Bytes.unescape raw, l.location⟩, moved)

def lexMark (l : ByteLexer) (kind : Token.Kind) (mark : Char) :
    Except Error ByteToken × ByteLexer :=
  (.ok ⟨kind, [mark.toUInt8], l.location⟩, l.advance)

def lexMarker (l : ByteLexer) (kind : Token.Kind) :
    Option (Except Error ByteToken × ByteLexer) := do
  let moved := l.advance.advanceWhile Bytes.isName
  let name ← slice? l.input l.advance.position moved.position
  return (.ok ⟨kind, name, l.location⟩, moved)

def numberEnd? (l : ByteLexer) : Option (Option Nat) := do
  let rest ← slice? l.input l.position l.input.length
  let line := rest.takeWhile (· != '\n'.toUInt8)
  let literal := line.rdropWhile fun b => Bytes.isSpace b || b == '\r'.toUInt8
  return if Bytes.isNumber literal then some (l.position + literal.length) else none

def lexNumber (l : ByteLexer) (last : Nat) : Option (Except Error ByteToken × ByteLexer) := do
  let (literal, moved) ← l.takeUntil last
  return (.ok ⟨.number, literal, l.location⟩, moved)

def lexProperty (l : ByteLexer) : Option (Except Error ByteToken × ByteLexer) := do
  let moved := l.advanceWhile (· != ':'.toUInt8)
  let name ← slice? l.input l.position moved.position
  return (.ok ⟨.property, name, l.location⟩, moved)

def lexText (l : ByteLexer) : Option (Except Error ByteToken × ByteLexer) := do
  let moved := l.advanceWhile (· != '\n'.toUInt8)
  let line ← slice? l.input l.position moved.position
  return (.ok ⟨.text, line.rdropWhile (· == '\r'.toUInt8), l.location⟩, moved)

def lexWord (l : ByteLexer) : Option (Except Error ByteToken × ByteLexer) := do
  match ← (if l.previousIs .colon then l.numberEnd? else some none) with
  | some last => l.lexNumber last
  | none => if Bytes.isProperty (← l.rest?) then l.lexProperty else l.lexText

def lexPlain (l : ByteLexer) : Option (Except Error ByteToken × ByteLexer) :=
  let b := l.current
  let named := (l.byteAt (l.position + 1)).any Bytes.isName
  if (b == '\\'.toUInt8 || b == '!'.toUInt8) && !named then l.lexText
  else if b == '\\'.toUInt8 then l.lexMarker .component
  else if b == '!'.toUInt8 then l.lexMarker .flag
  else if b == '"'.toUInt8 then some (l.lexMark .quote '"')
  else if b == ':'.toUInt8 then some (l.lexMark .colon ':')
  else if b == '\n'.toUInt8 then some (l.lexMark .lineBreak '\n')
  else l.lexWord

def isBlank (l : ByteLexer) : Bool :=
  Bytes.isSpace l.current ||
    l.current == '\r'.toUInt8 && l.byteAt (l.position + 1) == some '\n'.toUInt8

def lex (l : ByteLexer) : Option (Except Error ByteToken × ByteLexer) :=
  if _ : l.isEnd then some (.ok ⟨.endOfInput, [], l.location⟩, l)
  else if l.isIndent then some l.lexIndent
  else match (if l.previousIs .quote then Bytes.closingQuote? l.input l.position else none) with
  | some last => l.lexString last
  | none => if l.isBlank then l.advance.lex else l.lexPlain
termination_by l.input.length - l.position
decreasing_by exact advance_shorter ‹_›

def call (l : ByteLexer) : Call → Option (Except Error ByteToken × ByteLexer)
  | .next => do
    match ← l.lex with
    | (.ok t, moved) => return (.ok t, { moved with previous := some t })
    | (.error e, moved) => return (.error e, moved)
  | .peek => do
    let (answer, moved) ← l.lex
    return (answer, { moved with position := l.position, location := l.location })

def session (l : ByteLexer) : List Call → Option (List (Except Error ByteToken) × ByteLexer)
  | [] => some ([], l)
  | c :: calls => do
    let (answer, l') ← l.call c
    let (answers, last) ← l'.session calls
    return (answer :: answers, last)

def past (l : ByteLexer) (bytes : List UInt8) : ByteLexer :=
  { l with
    position := l.position + bytes.length
    location := bytes.foldl Location.stepByte l.location }

theorem past_append (l : ByteLexer) (a b : List UInt8) : l.past (a ++ b) = (l.past a).past b := by
  simp only [past, List.length_append, List.foldl_append, Nat.add_assoc]

theorem left_past {l : ByteLexer} {a r : List UInt8} (left : l.input.drop l.position = a ++ r) :
    (l.past a).input.drop (l.past a).position = r := by
  rw [past, ← List.drop_drop, left, List.drop_left]

theorem isEnd_iff {l : ByteLexer} : l.isEnd ↔ l.input.drop l.position = [] := by
  rw [isEnd, decide_eq_true_eq, List.drop_eq_nil_iff]

theorem byteAt_left (l : ByteLexer) (i : Nat) :
    l.byteAt (l.position + i) = (l.input.drop l.position)[i]? := List.getElem?_drop.symm

theorem current_left {l : ByteLexer} {b : UInt8} {r : List UInt8}
    (left : l.input.drop l.position = b :: r) : l.current = b := by
  have first := l.byteAt_left 0
  rw [left] at first
  rw [current, ← Nat.add_zero l.position, first]
  rfl

theorem advance_left {l : ByteLexer} {b : UInt8} {r : List UInt8}
    (left : l.input.drop l.position = b :: r) : l.advance = l.past [b] := by
  have first := l.byteAt_left 0
  rw [left] at first
  rw [advance, ← Nat.add_zero l.position, first]
  rfl

theorem advanceWhile_eq (p : UInt8 → Bool) (l : ByteLexer) :
    l.advanceWhile p = l.past ((l.input.drop l.position).takeWhile p) := by
  generalize left : l.input.drop l.position = bytes
  induction bytes generalizing l with
  | nil => rw [advanceWhile, dif_pos (isEnd_iff.2 left)]; rfl
  | cons b r ih =>
    have more : ¬l.isEnd := by
      rw [isEnd_iff, left]
      exact List.cons_ne_nil b r
    rw [advanceWhile, dif_neg more, current_left left, advance_left left]
    cases holds : p b with
    | true =>
      rw [if_pos rfl, ih _ (left_past (a := [b]) left), ← past_append,
        List.takeWhile_cons_of_pos holds]
      rfl
    | false =>
      rw [if_neg Bool.false_ne_true, List.takeWhile_cons_of_neg (by simp [holds])]
      rfl

theorem advanceTo_eq {l : ByteLexer} {a r : List UInt8}
    (left : l.input.drop l.position = a ++ r) :
    l.advanceTo (l.position + a.length) = some (l.past a) := by
  induction a generalizing l with
  | nil => rw [advanceTo, List.length_nil, Nat.add_zero, if_neg (Nat.lt_irrefl _)]; rfl
  | cons b a ih =>
    have more : ¬l.isEnd := by
      rw [isEnd_iff, left]
      exact List.cons_ne_nil b _
    have further := ih (left_past (a := [b]) left)
    rw [← past_append] at further
    rw [advanceTo, List.length_cons, if_pos (by omega), dif_neg more, advance_left left,
      Nat.add_comm a.length, ← Nat.add_assoc]
    exact further

end ByteLexer
end Inlay.Markup
