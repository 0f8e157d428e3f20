import Inlay.Number.Double

namespace Inlay.Number

def unsigned (s : Text) : Bool × Text :=
  match s with
  | '-' :: r => (true, r)
  | '+' :: r => (false, r)
  | s => (false, s)

def ofDigits (s : Text) : Nat := s.foldl (fun n c => 10 * n + (c.toNat - 48)) 0

def isDigits (s : Text) : Bool := !s.isEmpty && s.all Text.isDigit

def integer? (s : Text) : Option Int :=
  let (negative, digits) := unsigned s
  let n := ofDigits digits
  if !isDigits digits then none
  else if negative then (if n ≤ Nat.pow 2 63 then some (-(n : Int)) else none)
  else if n < Nat.pow 2 63 then some (n : Int)
  else none

def exponent? (s : Text) : Option Int :=
  let (negative, digits) := unsigned s
  if isDigits digits then some (if negative then -(ofDigits digits : Int) else ofDigits digits)
  else none

def decimal? (s : Text) : Option Decimal :=
  let (whole, rest) := Text.split Text.isDigit s
  let (fraction, rest) := match rest with
    | '.' :: r => Text.split Text.isDigit r
    | _ => ([], rest)
  if whole.isEmpty && fraction.isEmpty then none
  else
    let plain : Decimal := ⟨ofDigits (whole ++ fraction), -(fraction.length : Int)⟩
    match rest with
    | [] => some plain
    | c :: r =>
      if c = 'e' ∨ c = 'E' then
        (exponent? r).map fun e => { plain with exponent := plain.exponent + e }
      else none

def float? (s : Text) : Option Float :=
  let (negative, body) := unsigned s
  let small := String.ofList (body.map Text.lowerAscii)
  if small = "inf" ∨ small = "infinity" then some (ofBits negative infinityBits)
  else if small = "nan" then some (ofBits negative (infinityBits + Nat.pow 2 51))
  else (decimal? body).map fun d => ofBits negative (nearestDecimal d.digits d.exponent)

def positional (digits : Text) (point : Int) : Text :=
  if point ≤ 0 then '0' :: '.' :: List.replicate (-point).toNat '0' ++ digits
  else
    let front := digits.take point.toNat
    let back := digits.drop point.toNat
    front ++ List.replicate (point.toNat - front.length) '0' ++ '.' ::
      (if back.isEmpty then ['0'] else back)

def scientific (digits : Text) (point : Int) : Text :=
  digits.take 1 ++ (if digits.length ≤ 1 then [] else '.' :: digits.drop 1) ++
    'e' :: (toString (point - 1)).toList

/-- How a floating point number is shown: with the fewest digits that read back, positional from
`0.0001` up to `10^16`, and always with a digit behind the point. -/
def showFloat (x : Float) : Text :=
  let bits := x.toBits.toNat
  let positive := bits % Nat.pow 2 63
  let sign : Text := if Nat.pow 2 63 ≤ bits then ['-'] else []
  if infinityBits < positive then ['N', 'a', 'N']
  else if positive = infinityBits then sign ++ ['i', 'n', 'f']
  else if positive = 0 then sign ++ ['0', '.', '0']
  else
    let (digits, point) := (shortest positive).point
    sign ++ if -3 ≤ point ∧ point ≤ 16 then positional digits point else scientific digits point

end Inlay.Number
