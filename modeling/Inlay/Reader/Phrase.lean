import Inlay.Reader.Symbol

namespace Inlay.Markdown

inductive Part (α : Type)
  | data (s : List Symbol)
  | lineEnd (escaped : Bool) (ending : Text)
  | other (a : α)

inductive Phrase (α : Type)
  | text (s : Text)
  | lineBreak
  | other (a : α)

namespace Phrase

def trimFront (s : List Symbol) : Text :=
  match s with
  | .pad _ :: _ =>
    match unblanked s with
    | [] => []
    | rest =>
      (((s.takeWhile Symbol.isBlank).filterMap Symbol.char?).getLast?.getD '\t') :: shown rest
  | _ => shown (unblanked s)

def ofData (front back : Bool) (s : List Symbol) : List (Phrase α) :=
  let s := if back then dropEnd Symbol.isBlank s else s
  let printed := if front then trimFront s else shown s
  if printed.isEmpty then [] else [.text printed]

def breaksLine (s : List Symbol) : Bool :=
  let blanks := s.reverse.takeWhile Symbol.isBlank
  2 ≤ blanks.length && blanks.all (· == .char ' ')

def ofParts (hard front back : Bool) (data : List Symbol) : List (Part α) → List (Phrase α)
  | [] => ofData front back data
  | .data s :: r => ofParts hard front back (data ++ s) r
  | .lineEnd escaped ending :: r =>
    let breaks := escaped || (hard && breaksLine data)
    ofData front (!escaped) data ++
      (if breaks then .lineBreak else .text ending) :: ofParts hard true back [] r
  | .other a :: r => ofData front false data ++ .other a :: ofParts hard false back [] r

end Phrase
end Inlay.Markdown
