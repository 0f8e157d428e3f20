import Inlay.Reader.Mark

namespace Inlay.Markdown

inductive Outcome (α : Type)
  | fails
  | ends
  | reads (a : α)

namespace HtmlBlock

inductive Kind
  | raw
  | comment
  | instruction
  | declaration
  | cdata
  | element
  | tag
deriving DecidableEq

def Kind.endsBlank : Kind → Bool
  | .element | .tag => true
  | _ => false

def rawNames : List String := ["pre", "script", "style", "textarea"]

def blockNames : List String := [
  "address", "article", "aside", "base", "basefont", "blockquote", "body", "caption", "center",
  "col", "colgroup", "dd", "details", "dialog", "dir", "div", "dl", "dt", "fieldset", "figcaption",
  "figure", "footer", "form", "frame", "frameset", "h1", "h2", "h3", "h4", "h5", "h6", "head",
  "header", "hr", "html", "iframe", "legend", "li", "link", "main", "menu", "menuitem", "nav",
  "noframes", "ol", "optgroup", "option", "p", "param", "search", "section", "summary", "table",
  "tbody", "td", "tfoot", "th", "thead", "title", "tr", "track", "ul"]

def named (names : List String) (name : Text) : Bool :=
  names.contains (String.ofList (name.map Text.lowerAscii))

def Kind.isClosed (k : Kind) (marks : Nat) : List Symbol → Bool
  | [] => false
  | x :: r =>
    if marks = 2 ∧ x = .char '>' then true
    else match k with
      | .declaration => x = .char '>' || k.isClosed 0 r
      | .instruction => k.isClosed (if x = .char '?' then 2 else 0) r
      | .comment => k.isClosed (if x ≠ .char '-' then 0 else if marks = 0 then 1 else 2) r
      | .cdata => k.isClosed (if x ≠ .char ']' then 0 else if marks = 1 then 2 else 1) r
      | .raw =>
        (match after? ['<', '/'] (x :: r) with
          | some behind =>
            let (name, rest) := splitChars Text.isLetter behind
            named rawNames name && rest.head? == some (.char '>')
          | none => false) || k.isClosed 0 r
      | .element | .tag => false

def cdataMark : Text := "CDATA[".toList

def behindMark : Text → List Symbol → Outcome (List Symbol)
  | [], s => .reads s
  | _ :: _, [] => .ends
  | c :: mark, x :: r => if x = .char c then behindMark mark r else .fails

def isAttributeChar (c : Char) : Bool :=
  isAlphanumeric c || c == '-' || c == '.' || c == ':' || c == '_'

def endsValue (x : Symbol) : Bool := x.isBlank || x.isIn "\"'/<=>`".toList.contains

def behindAttributes : Nat → Bool → List Symbol → Outcome (List Symbol)
  | 0, _, _ => .fails
  | fuel + 1, named, s =>
    match unblanked s with
    | [] => .ends
    | .char c :: r =>
      if named ∧ c = '=' then
        match unblanked r with
        | [] => .ends
        | .char q :: value =>
          if q = '"' ∨ q = '\'' then
            match value.dropWhile (· != .char q) with
            | [] | [_] => .ends
            | _ :: x :: rest =>
              if x.isBlank || x = .char '/' || x = .char '>' then
                behindAttributes fuel false (x :: rest)
              else .fails
          else if q = '<' ∨ q = '=' ∨ q = '>' ∨ q = '\x60' then .fails
          else behindAttributes fuel true ((.char q :: value).dropWhile (!endsValue ·))
        | _ => .fails
      else if c = '/' then behindMark ['>'] r
      else if isAlphanumeric c ∨ c = ':' ∨ c = '_' then
        behindAttributes fuel true (r.dropWhile (·.isIn isAttributeChar))
      else if c = '>' then .reads r
      else .fails
    | _ => .fails

def aloneOnLine : Outcome (List Symbol) → Outcome (Kind × Nat × List Symbol)
  | .reads rest => if allBlank rest then .reads (.tag, 0, []) else .fails
  | .ends => .ends
  | .fails => .fails

def ofTag (closing inParagraph : Bool) (s : List Symbol) : Outcome (Kind × Nat × List Symbol) :=
  let (name, rest) := splitChars (fun c => isAlphanumeric c || c == '-') s
  let slash := rest.head? = some (.char '/')
  if !(rest.head?.all fun x => x.isBlank || x = .char '/' || x = .char '>') then .fails
  else if !slash ∧ !closing ∧ named rawNames name then .reads (.raw, 0, rest)
  else if named blockNames name then
    if slash then
      match behindMark ['/', '>'] rest with
      | .reads behind => .reads (.element, 0, behind)
      | .ends => .ends
      | .fails => .fails
    else .reads (.element, 0, rest)
  else if inParagraph then .fails
  else if closing then aloneOnLine (behindMark ['>'] (unblanked rest))
  else aloneOnLine (behindAttributes (2 * rest.length + 2) false rest)

/-- How a block begins: its kind, how many of the marks in front of its closing bracket count as
read, and the rest of the line.  `closing` tells that a tag counts as a closing one whether it has
a slash or not. -/
def start (closing inParagraph : Bool) (s : List Symbol) : Outcome (Kind × Nat × List Symbol) :=
  match s with
  | .char '<' :: r =>
    match r with
    | [] => .ends
    | .char '?' :: rest => .reads (.instruction, 2, rest)
    | .char '!' :: [] => .ends
    | .char '!' :: .char c :: rest =>
      if c = '-' then
        match behindMark ['-'] rest with
        | .reads behind => .reads (.comment, 2, behind)
        | .ends => .ends
        | .fails => .fails
      else if c = '[' then
        match behindMark cdataMark rest with
        | .reads behind => .reads (.cdata, 0, behind)
        | .ends => .ends
        | .fails => .fails
      else if Text.isLetter c then .reads (.declaration, 2, rest)
      else .fails
    | .char '/' :: rest =>
      match rest with
      | [] => .ends
      | x :: _ => if x.isIn Text.isLetter then ofTag true inParagraph rest else .fails
    | x :: _ => if x.isIn Text.isLetter then ofTag closing inParagraph r else .fails
  | _ => .fails

def isTag (s : List Symbol) : Bool :=
  match s with
  | .char '<' :: .char c :: _ => c == '/' || Text.isLetter c
  | _ => false

end HtmlBlock
end Inlay.Markdown
