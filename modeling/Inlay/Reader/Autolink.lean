import Inlay.Reader.Link

namespace Inlay.Markdown.Autolink

def isSchemeChar (c : Char) : Bool := isAlphanumeric c || c == '+' || c == '-' || c == '.'

def isLocalChar (c : Char) : Bool :=
  isAlphanumeric c || "#$%&'*+-./=?^_`\x7b|\x7d~".toList.contains c

def longestScheme : Nat := 32

def longestDomainPart : Nat := 63

inductive Stand
  | atStart
  | behindHyphen
  | behindLetter

def domain? (counted : Nat) (stand : Stand) : List Symbol → Option (Text × List Symbol)
  | .char c :: r =>
    let go (counted : Nat) (stand : Stand) :=
      (domain? counted stand r).map fun (inside, rest) => (c :: inside, rest)
    match stand with
    | .behindLetter =>
      if c = '>' then some ([], r)
      else if c = '.' then go 0 .atStart
      else if longestDomainPart ≤ counted then none
      else if isAlphanumeric c then go (counted + 1) .behindLetter
      else if c = '-' then go (counted + 1) .behindHyphen
      else none
    | _ =>
      if longestDomainPart ≤ counted then none
      else if isAlphanumeric c then go (counted + 1) .behindLetter
      else if c = '-' ∧ stand matches .behindHyphen then go (counted + 1) .behindHyphen
      else none
  | _ => none

def mail? (counted : Nat) (s : List Symbol) : Option (Text × List Symbol) × Nat :=
  let (name, rest) := splitChars isLocalChar s
  match name, rest with
  | _ :: _, .char '@' :: r =>
    if r.head?.any (·.isIn isAlphanumeric) then
      ((domain? counted .atStart r).map fun (domain, behind) => (name ++ '@' :: domain, behind), 0)
    else (none, counted)
  | _, _ => (none, counted)

def target? : List Symbol → Option (Text × List Symbol)
  | .char c :: r =>
    if c = '>' then some ([], r)
    else if c = ' ' ∨ c = '<' ∨ c = '\x00' ∨ isControl c then none
    else (target? r).map fun (inside, rest) => (c :: inside, rest)
  | _ => none

def read? (counted : Nat) (s : List Symbol) : Option (Text × Text × List Symbol) × Nat :=
  let ofMail (r : Option (Text × List Symbol)) :=
    r.map fun (address, rest) => ("mailto:".toList ++ address, address, rest)
  match s with
  | .char a :: .char b :: r =>
    if Text.isLetter a ∧ isSchemeChar b then
      let (scheme, rest) := splitChars isSchemeChar (.char b :: r)
      match rest with
      | .char ':' :: behind =>
        if scheme.length < longestScheme then
          ((target? behind).map fun (address, rest) =>
            let written := a :: scheme ++ ':' :: address
            (written, written, rest), 0)
        else (ofMail (mail? 0 s).1, 0)
      | _ => (ofMail (mail? 0 s).1, 0)
    else let (found, counted) := mail? counted s; (ofMail found, counted)
  | s => let (found, counted) := mail? counted s; (ofMail found, counted)

end Inlay.Markdown.Autolink
