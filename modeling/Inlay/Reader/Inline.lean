import Inlay.Reader.Autolink
import Inlay.Reader.Emphasis
import Inlay.Reader.HtmlSpan

namespace Inlay.Markdown

structure Labels where
  links : List Text
  footnotes : List Text

structure InlineRules where
  options : Options
  labels : Labels
  inTable : Bool

def codeSpan? (size : Nat) : Nat → List Symbol → Option (List Symbol × List Symbol)
  | 0, _ => none
  | _ + 1, [] => none
  | fuel + 1, x :: r =>
    if x = .char '\x60' then
      let (more, rest) := run '\x60' r
      if more + 1 = size then some ([], rest)
      else (codeSpan? size fuel rest).map fun (inside, rest) =>
        (List.replicate (more + 1) x ++ inside, rest)
    else (codeSpan? size fuel r).map fun (inside, rest) => (x :: inside, rest)

def plainBars : Text → Text
  | '\\' :: '|' :: r => '|' :: plainBars r
  | c :: r => c :: plainBars r
  | [] => []

def codeValue (inTable : Bool) (s : Text) : Text :=
  let s := if inTable then plainBars s else s
  if 2 < byteLength s ∧ s.head? = some ' ' ∧ s.getLast? = some ' ' ∧ ¬s.all (· == ' ') then
    (s.drop 1).dropLast
  else s

def splitBracket :
    List Piece → Option (List Piece × (Opening × Bool × List Symbol) × List Piece)
  | [] => none
  | .opening kind active behind :: r => some ([], (kind, active, behind), r)
  | p :: r => (splitBracket r).map fun (inside, found, before) => (p :: inside, found, before)

def deactivated (pieces : List Piece) : List Piece :=
  pieces.map fun
    | .opening .image active behind => .opening .image active behind
    | .opening kind _ behind => .opening kind false behind
    | p => p

mutual

def plainText : Node → Text
  | .leaf (.text s) | .leaf (.inlineCode s) | .leaf (.html s) | .leaf (.code _ s _) => s
  | .leaf _ => []
  | .branch _ below => plainTexts below

def plainTexts : List Node → Text
  | [] => []
  | n :: r => plainText n ++ plainTexts r

end

inductive Target
  | resource (r : Resource)
  | reference

def target? (labels : Labels) (counted : Nat) (label : Text) (s : List Symbol) :
    Option (Target × List Symbol) × Nat :=
  let defined := labels.links.contains (labelKey label)
  let shortcut := if defined then some (.reference, s) else none
  match s with
  | .char '(' :: r =>
    (match resource? counted r with
      | some (resource, rest) => some (.resource resource, rest)
      | none => shortcut, countBehindResource counted r)
  | .char '[' :: r =>
    match label? counted r with
    | some (other, rest) =>
      if labels.links.contains (labelKey (sourceOf other)) then (some (.reference, rest), 0)
      else (shortcut, 0)
    | none =>
      match r with
      | .char ']' :: rest => (shortcut.map fun (target, _) => (target, rest), 0)
      | _ => (shortcut, 0)
  | _ => (shortcut, counted)

def bracketPiece (kind : Opening) (target : Target) (inside : List Piece) : Piece :=
  let nodes := nodesOf false false false inside
  match kind, target with
  | .image, .resource r => .image r (plainTexts nodes)
  | .image, .reference => .node (.leaf (.imageReference (plainTexts nodes)))
  | _, .resource r =>
    .node (.branch (.link (destinationText false r.url) (r.title.map (titleText false))) nodes)
  | _, .reference => .node (.branch .linkReference nodes)

structure Reading where
  pieces : List Piece
  before : Option Symbol
  counted : Nat

namespace Reading

def push (r : Reading) (p : Piece) (last : Symbol) : Reading :=
  { r with pieces := p :: r.pieces, before := some last }

def pushTo (r : Reading) (p : Piece) (s rest : List Symbol) : Reading × List Symbol :=
  ({ r with pieces := p :: r.pieces, before := (s.take (s.length - rest.length)).getLast? }, rest)

def countFrom (r : Reading) (counted : Nat) : Reading := { r with counted := counted }

def closeBracket (rules : InlineRules) (r : Reading) (s : List Symbol) :
    Reading × List Symbol :=
  match splitBracket r.pieces with
  | none => (r.push (Piece.ofText [']']) (.char ']'), s)
  | some (inside, (kind, active, behind), before) =>
    let label := sourceOf (behind.take (behind.length - (s.length + 1)))
    let loose := { r with pieces := inside ++ Piece.ofText kind.source :: before }.push
      (Piece.ofText [']']) (.char ']')
    if !active then (loose, s)
    else if kind == .footnote && rules.labels.footnotes.contains (labelKey label) then
      ({ r with pieces := deactivated before }.push (.node (.leaf .footnoteReference))
        (.char ']'), s)
    else
      let label := if kind == .footnote then '^' :: label else label
      match target? rules.labels r.counted label s with
      | (none, counted) => (loose.countFrom counted, s)
      | (some (target, rest), counted) =>
        let inside := if kind == .footnote then inside ++ [Piece.ofText ['^']] else inside
        let piece := bracketPiece kind target inside
        let before := if kind == .image then before else deactivated before
        ({ r with pieces := before, counted := counted }.pushTo piece (.char ']' :: s) rest)

def opensCode (r : Reading) : Bool :=
  r.before != some (.char '\x60') || match r.pieces with
    | .escaped _ :: _ => true
    | _ => false

def step (rules : InlineRules) (content : Content) (r : Reading) (x : Symbol) (s : List Symbol) :
    Reading × List Symbol :=
  let o := rules.options
  let data := (r.push (.data [x]) x, s)
  let all := x :: s
  match x with
  | .lineEnd ending _ => (r.push (.lineEnd false ending) x, s)
  | .pad _ => data
  | .char '\\' =>
    match s with
    | .char c :: rest =>
      if Text.isAsciiPunctuation c then (r.push (.escaped c) (.char c), rest) else data
    | .lineEnd ending taken :: rest =>
      (r.push (.lineEnd true ending) (.lineEnd ending taken), rest)
    | _ => data
  | .char '&' =>
    match reference? r.counted s with
    | some (value, rest) => (r.countFrom 0).pushTo (.reference value) all rest
    | none => ((r.countFrom 0).push (.data [x]) x, s)
  | .char '\x60' =>
    if !r.opensCode then data
    else
      let (more, rest) := run '\x60' s
      match codeSpan? (r.counted + more + 1) (rest.length + 1) rest with
      | some (inside, rest) =>
        (r.countFrom 0).pushTo
          (.node (.leaf (.inlineCode (codeValue rules.inTable (shown inside))))) all rest
      | none => ((r.countFrom 0).push (.data [x]) x, s)
  | .char '<' =>
    match Autolink.read? r.counted s with
    | (some (url, written, rest), counted) =>
      (r.countFrom counted).pushTo (.node (linkTo url written)) all rest
    | (none, counted) =>
      if o.rawHtml then
        match HtmlSpan.read? counted s with
        | (some rest, counted) =>
          let value := HtmlSpan.value (all.take (all.length - rest.length))
          (r.countFrom counted).pushTo (.node (.leaf (.html value))) all rest
        | (none, counted) => ((r.countFrom counted).push (.data [x]) x, s)
      else ((r.countFrom counted).push (.data [x]) x, s)
  | .char '[' =>
    match s with
    | .char '^' :: rest =>
      if o.gfm then (r.push (.opening .footnote true rest) (.char '^'), rest)
      else (r.push (.opening .link true s) x, s)
    | _ => (r.push (.opening .link true s) x, s)
  | .char '!' =>
    match s with
    | .char '[' :: rest =>
      if o.gfm ∧ rest.head? = some (.char '^') then data
      else (r.push (.opening .image true rest) (.char '['), rest)
    | _ => data
  | .char ']' => r.closeBracket rules s
  | .char c =>
    if c = '*' ∨ c = '_' ∨ (c = '~' ∧ o.gfm) then
      let (more, rest) := run c s
      let before := (r.before.map Symbol.face).or content.before
      let after := (rest.head?.map fun
        | .lineEnd .. => '\n'
        | y => y.face).or content.after
      r.pushTo (runBetween o.gfm c (more + 1) before after) all rest
    else if !o.gfm then data
    else if c = 'h' ∨ c = 'H' then
      match protocol? r.counted r.before all with
      | (some (address, rest), counted) =>
        (r.countFrom counted).pushTo (.node (linkTo address address)) all rest
      | (none, counted) => ((r.countFrom counted).push (.data [x]) x, s)
    else if c = 'w' ∨ c = 'W' then
      match www? r.counted r.before all with
      | (some (address, rest), counted) =>
        (r.countFrom counted).pushTo
          (.node (linkTo ("http://".toList ++ address) address)) all rest
      | (none, counted) => ((r.countFrom counted).push (.data [x]) x, s)
    else data

def run (rules : InlineRules) (content : Content) : Nat → Reading → List Symbol → Reading
  | 0, r, _ | _ + 1, r, [] => r
  | fuel + 1, r, x :: s =>
    let (r, rest) := r.step rules content x s
    run rules content fuel r rest

end Reading

def inlineNodes (rules : InlineRules) (content : Content) (before : Option Symbol) : List Node :=
  let s := content.symbols
  let r := Reading.run rules content (s.length + 1) ⟨[], before, 0⟩ s
  nodesOf rules.options.gfm before.isNone true r.pieces

end Inlay.Markdown
