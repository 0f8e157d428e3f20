import Inlay.Reader.Bare
import Inlay.Reader.Entity
import Inlay.Reader.Phrase

namespace Inlay.Markdown

def literalParts : Nat → List Symbol → List (Part Text)
  | 0, _ | _ + 1, [] => []
  | fuel + 1, x :: r =>
    match x with
    | .lineEnd ending _ => .lineEnd false ending :: literalParts fuel r
    | .char '\\' =>
      match r with
      | .char c :: rest =>
        if Text.isAsciiPunctuation c then .other [c] :: literalParts fuel rest
        else .data [x] :: literalParts fuel r
      | _ => .data [x] :: literalParts fuel r
    | .char '&' =>
      match reference? 0 r with
      | some (value, rest) => .other value :: literalParts fuel rest
      | none => .data [x] :: literalParts fuel r
    | x => .data [x] :: literalParts fuel r

def rawParts (s : List Symbol) : List (Part Text) :=
  s.map fun
    | .lineEnd ending _ => .lineEnd false ending
    | x => .data [x]

def printed (hard : Bool) (parts : List (Part Text)) : Text :=
  (Phrase.ofParts hard false false [] parts).flatMap fun
    | .text s | .other s => s
    | .lineBreak => []

def literal (s : List Symbol) : Text := printed false (literalParts (s.length + 1) s)

def holdsMail (s : List Symbol) : Bool :=
  let text := shown s
  (mails (text.length + 1) [] text).any fun
    | .address .. => true
    | .plain _ => false

def destinationText (mail : Bool) (s : List Symbol) : Text :=
  if mail && holdsMail s then shown s else literal s

def titleText (mail : Bool) (s : List Symbol) : Text :=
  if mail && holdsMail (s.takeWhile (!·.isLineEnd)) then
    printed true (rawParts (unprefixed false s))
  else
    let s := if (unblanked s).head?.any Symbol.isLineEnd then unblanked s else s
    printed true (literalParts (s.length + 1) s)

end Inlay.Markdown
