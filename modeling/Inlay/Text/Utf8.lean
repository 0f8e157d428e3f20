import Inlay.Text.Basic

namespace Inlay.Text

def utf8 (s : Text) : List UInt8 := s.flatMap String.utf8EncodeChar

theorem utf8_append (s t : Text) : utf8 (s ++ t) = utf8 s ++ utf8 t := List.flatMap_append

inductive ByteRun
  | char (c : Char)
  | bad (length : Nat)
  | cut
deriving DecidableEq

def isContinuation (b : UInt8) : Bool := 0x80 ≤ b && b ≤ 0xbf

def secondByte? (b : UInt8) : Option (UInt8 × UInt8 × Nat) :=
  if 0xc2 ≤ b ∧ b ≤ 0xdf then some (0x80, 0xbf, 1)
  else if b = 0xe0 then some (0xa0, 0xbf, 2)
  else if b = 0xed then some (0x80, 0x9f, 2)
  else if 0xe1 ≤ b ∧ b ≤ 0xef then some (0x80, 0xbf, 2)
  else if b = 0xf0 then some (0x90, 0xbf, 3)
  else if 0xf1 ≤ b ∧ b ≤ 0xf3 then some (0x80, 0xbf, 3)
  else if b = 0xf4 then some (0x80, 0x8f, 3)
  else none

def addBits (n : Nat) (b : UInt8) : Nat := 64 * n + b.toNat % 64

def restRun (n : Nat) (taken : Nat) : Nat → List UInt8 → ByteRun
  | 0, _ => .char (Char.ofNat n)
  | _ + 1, [] => .cut
  | missing + 1, b :: r =>
    if isContinuation b then restRun (addBits n b) (taken + 1) missing r else .bad taken

def byteRun (b : UInt8) (r : List UInt8) : ByteRun :=
  if b < 0x80 then .char (Char.ofNat b.toNat)
  else match secondByte? b with
    | none => .bad 1
    | some (low, high, missing) =>
      match r with
      | [] => .cut
      | c :: r =>
        if low ≤ c ∧ c ≤ high then
          let first := b.toNat % (if missing = 1 then 32 else if missing = 2 then 16 else 8)
          restRun (addBits first c) 2 (missing - 1) r
        else .bad 1

structure Utf8Fault where
  index : Nat
  length : Option Nat
deriving DecidableEq

def Utf8Fault.message (f : Utf8Fault) : String :=
  match f.length with
  | some n => s!"invalid utf-8 sequence of {n} bytes from index {f.index}"
  | none => s!"incomplete utf-8 byte sequence from index {f.index}"

def decodeFrom (index : Nat) : Nat → List UInt8 → Except Utf8Fault Text
  | 0, _ => .ok []
  | _ + 1, [] => .ok []
  | fuel + 1, b :: r =>
    match byteRun b r with
    | .char c => (c :: ·) <$> decodeFrom (index + c.utf8Size) fuel (r.drop (c.utf8Size - 1))
    | .bad n => .error ⟨index, some n⟩
    | .cut => .error ⟨index, none⟩

def decode (bytes : List UInt8) : Except Utf8Fault Text := decodeFrom 0 bytes.length bytes

/-- Bytes as a text, with one replacement character for each bad run. -/
def lossyFrom : Nat → List UInt8 → Text
  | 0, _ => []
  | _ + 1, [] => []
  | fuel + 1, b :: r =>
    match byteRun b r with
    | .char c => c :: lossyFrom fuel (r.drop (c.utf8Size - 1))
    | .bad n => '\ufffd' :: lossyFrom fuel (r.drop (n - 1))
    | .cut => ['\ufffd']

def lossy (bytes : List UInt8) : Text := lossyFrom bytes.length bytes

end Inlay.Text
