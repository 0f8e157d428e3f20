import Inlay.Reader.HtmlBlock

namespace Inlay.Markdown.HtmlSpan

def afterMarks? (mark : Char) (needed read : Nat) : List Symbol → Option (List Symbol)
  | [] => none
  | x :: r =>
    if x = .char mark then afterMarks? mark needed (min needed (read + 1)) r
    else if x = .char '>' ∧ read = needed then some r
    else afterMarks? mark needed 0 r

def endsName (x : Symbol) : Bool := x.isGap || x = .char '/' || x = .char '>'

def afterAttributes? : Nat → Bool → List Symbol → Option (List Symbol)
  | 0, _, _ => none
  | fuel + 1, named, s =>
    match ungapped s with
    | .char c :: r =>
      if named ∧ c = '=' then
        match ungapped r with
        | .char q :: value =>
          if q = '"' ∨ q = '\'' then
            match value.dropWhile (· != .char q) with
            | _ :: x :: rest => if endsName x then afterAttributes? fuel false (x :: rest) else none
            | _ => none
          else if "<=>`".toList.contains q then none
          else
            let rest := value.dropWhile fun x =>
              !(endsName x || x.isIn "\"'<=`".toList.contains)
            if rest.head?.any endsName then afterAttributes? fuel false rest else none
        | _ => none
      else if c = '/' then after? ['>'] r
      else if Text.isLetter c ∨ c = ':' ∨ c = '_' then
        afterAttributes? fuel true (r.dropWhile (·.isIn HtmlBlock.isAttributeChar))
      else if c = '>' then some r
      else none
    | _ => none

def isNameChar (c : Char) : Bool := isAlphanumeric c || c == '-'

def read? (counted : Nat) (s : List Symbol) : Option (List Symbol) × Nat :=
  match s with
  | .char '!' :: .char '-' :: .char '-' :: r => (afterMarks? '-' 2 2 r, counted)
  | .char '!' :: .char '[' :: r =>
    let mark := HtmlBlock.cdataMark.drop counted
    let matched := ((mark.zip r).takeWhile fun (c, x) => x == .char c).length
    if matched = mark.length then (afterMarks? ']' 2 0 (r.drop matched), 0)
    else (none, counted + matched)
  | .char '!' :: x :: r =>
    if x.isIn Text.isLetter then
      match r.dropWhile (· != .char '>') with
      | _ :: rest => (some rest, counted)
      | [] => (none, counted)
    else (none, counted)
  | .char '?' :: r => (afterMarks? '?' 1 0 r, counted)
  | .char '/' :: r =>
    if r.head?.any (·.isIn Text.isLetter) then
      (after? ['>'] (ungapped (splitChars isNameChar r).2), counted)
    else (none, counted)
  | x :: _ =>
    if x.isIn Text.isLetter then
      let rest := (splitChars isNameChar s).2
      if rest.head?.any endsName then
        (afterAttributes? (2 * rest.length + 2) false rest, counted)
      else (none, counted)
    else (none, counted)
  | [] => (none, counted)

def value (s : List Symbol) : Text := shown (unprefixed false s)

end Inlay.Markdown.HtmlSpan
