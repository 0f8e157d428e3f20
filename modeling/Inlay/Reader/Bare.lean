import Inlay.Reader.Symbol
import Inlay.Text.Blank
import Inlay.Text.Punctuation

namespace Inlay.Markdown

def isSpace (x : Symbol) : Bool := x.isGap || x.isIn Text.isBlank

def isTrailing (c : Char) : Bool := "!\"'*),.:;?_~".toList.contains c

def isTrail : Nat → List Symbol → Bool
  | 0, _ => false
  | _ + 1, [] => true
  | fuel + 1, x :: r =>
    if x = .char '<' ∨ isSpace x then true
    else if x.isIn isTrailing then isTrail fuel r
    else if x = .char ']' then
      match r with
      | [] => true
      | y :: _ => y.isGap || y = .char '(' || y = .char '[' || isTrail fuel r
    else if x = .char '&' then
      match splitChars Text.isLetter r with
      | (_ :: _, .char ';' :: rest) => isTrail fuel rest
      | _ => false
    else false

def trails (s : List Symbol) : Bool := isTrail (s.length + 1) s

def isDomainChar (x : Symbol) : Bool :=
  x.isIn fun c => c == '-' || !(Text.isBlank c || Text.isPunctuation c)

/-- The domain at the front, and what follows.  `inLast` and `inNext` tell whether an underscore
is in its last part and in the one before, `any` whether there was more than hyphens. -/
def domain? (inLast inNext any : Bool) : List Symbol → Option (Text × List Symbol)
  | [] => if inLast || inNext || !any then none else some ([], [])
  | x :: r =>
    if (x = .char '.' ∨ x = .char '_') ∧ ¬trails (x :: r) then
      let under := x = .char '_'
      (domain? under (if under then inNext else inLast) any r).map
        fun (inside, rest) => (x.shown ++ inside, rest)
    else if isDomainChar x then
      (domain? inLast inNext (any || x != .char '-') r).map
        fun (inside, rest) => (x.shown ++ inside, rest)
    else if inLast || inNext || !any then none
    else some ([], x :: r)

def endsPath (c : Char) : Bool := isTrailing c || c == '&' || c == '<' || c == ']'

def path (opened closed : Nat) : List Symbol → Text × List Symbol
  | [] => ([], [])
  | x :: r =>
    let go (opened closed : Nat) :=
      let (inside, rest) := path opened closed r
      (x.shown ++ inside, rest)
    if isSpace x then ([], x :: r)
    else if x = .char '(' then go (opened + 1) closed
    else if x = .char ')' then
      if opened ≤ closed ∧ trails (x :: r) then ([], x :: r) else go opened (closed + 1)
    else if x.isIn endsPath && trails (x :: r) then ([], x :: r)
    else go opened closed

def addressRest? (s : List Symbol) : Option (Text × List Symbol) :=
  (domain? false false false s).map fun (domain, rest) =>
    let (inside, behind) := path 0 0 rest
    (domain ++ inside, behind)

def protocol? (counted : Nat) (before : Option Symbol) (s : List Symbol) :
    Option (Text × List Symbol) × Nat :=
  if before.any (·.isIn Text.isLetter) then (none, counted)
  else
    let (name, rest) := splitChars Text.isLetter s
    match rest with
    | .char ':' :: behind =>
      if name.map Text.lowerAscii = "http".toList ∨ name.map Text.lowerAscii = "https".toList then
        let slashes := if counted = 0 then ['/', '/'] else ['/']
        ((after? slashes behind).bind fun r => (addressRest? r).map fun (address, r) =>
          (name ++ ':' :: slashes ++ address, r), 0)
      else (none, counted)
    | _ => (none, counted)

def opensWww (x : Symbol) : Bool := x.isGap || x.isIn "(*_[]~".toList.contains

def www? (counted : Nat) (before : Option Symbol) (s : List Symbol) :
    Option (Text × List Symbol) × Nat :=
  if before.all opensWww then
    let (letters, rest) := splitChars (fun c => c == 'w' || c == 'W') s
    match rest with
    | .char '.' :: _ :: _ =>
      (if counted < 3 ∧ counted + letters.length = 3 then addressRest? s else none, 0)
    | _ => (none, 0)
  else (none, counted)

def isMailChar (c : Char) : Bool :=
  isAlphanumeric c || c == '+' || c == '-' || c == '.' || c == '_'

def mailDomain (slash : Bool) : Text → Text × Text
  | [] => ([], [])
  | c :: r =>
    if isAlphanumeric c || c == '-' || c == '_' || (slash && c == '/') ||
        (c == '.' && r.head?.any isAlphanumeric) then
      let (inside, rest) := mailDomain slash r; (c :: inside, rest)
    else ([], c :: r)

def mailFront? (reversed : Text) : Option (Text × Option Text × Text) :=
  let (front, before) := Text.split isMailChar reversed
  if front.isEmpty ∨ before.head? = some '/' then none
  else
    let (name, earlier) := Text.split isAlphanumeric (before.drop 1)
    let small := (name.map Text.lowerAscii).reverse
    if before.head? = some ':' ∧ (small = "mailto".toList ∨ small = "xmpp".toList) then
      some (front.reverse, some (name.reverse ++ [':']), earlier)
    else some (front.reverse, none, before)

inductive Mail
  | plain (s : Text)
  | address (url s : Text)

def mails : Nat → Text → Text → List Mail
  | 0, reversed, s => [.plain (reversed.reverse ++ s)]
  | _ + 1, reversed, [] => [.plain reversed.reverse]
  | fuel + 1, reversed, c :: r =>
    if c = '@' then
      match mailFront? reversed with
      | some (front, protocol, before) =>
        let slash := protocol.any fun name =>
          name.map Text.lowerAscii == "xmpp:".toList
        let (domain, rest) := mailDomain slash r
        if domain.contains '.' ∧ domain.getLast?.any Text.isLetter then
          let printed := protocol.getD [] ++ front ++ '@' :: domain
          let url := if protocol.isSome then printed else "mailto:".toList ++ printed
          .plain before.reverse :: .address url printed :: mails fuel (rest.take 1) (rest.drop 1)
        else mails fuel (c :: reversed) r
      | none => mails fuel (c :: reversed) r
    else mails fuel (c :: reversed) r

end Inlay.Markdown
