import Inlay.Reader.Block
import Inlay.Reader.HtmlBlock
import Inlay.Reader.Table

namespace Inlay.Markdown

structure OpenBlock where
  place : Place
  value : Text
  ending : Text

def OpenBlock.add (b : OpenBlock) (value ending : Text) : OpenBlock :=
  { b with value := b.value ++ b.ending ++ value, ending := ending }

inductive Pending
  | nothing
  | headers (line : Line) (read : Headers)
  | indented (code : OpenBlock) (blanks : List Line)
  | fenced (fence : Fence) (depth : Nat) (code : OpenBlock)
  | html (kind : HtmlBlock.Kind) (block : OpenBlock)

inductive Latest
  | content
  | underline
  | row
  | other
deriving DecidableEq

structure Flow where
  pending : Pending
  latest : Latest
  inParagraph : Bool
  afterBar : Bool

structure Stance where
  lazy : Bool
  fresh : Bool

def dropFirstEnd : Text → Text
  | '\r' :: '\n' :: r => r
  | c :: r => if c = '\n' ∨ c = '\r' then r else c :: r
  | [] => []

def dropLastEnd (s : Text) : Text :=
  match s.reverse with
  | '\n' :: '\r' :: r => r.reverse
  | c :: r => if c = '\n' ∨ c = '\r' then r.reverse else s
  | [] => []

def fencedValue (s : Text) : Text := dropLastEnd (dropFirstEnd s)

namespace Flow

def start : Flow := ⟨.nothing, .other, false, false⟩

def behind (f : Flow) : Flow :=
  { f with pending := .nothing, latest := .other, inParagraph := false }

def behindContent (f : Flow) : Flow :=
  { f with pending := .nothing, latest := .content, inParagraph := true }

def takesLazy (f : Flow) : Bool :=
  match f.pending with
  | .headers .. => true
  | .nothing => f.latest = .content || f.latest = .underline
  | _ => false

def isConcrete (f : Flow) : Bool :=
  match f.pending with
  | .fenced .. | .html .. => true
  | _ => false

def content (f : Flow) (l : Line) : List Entry × Flow :=
  ([.content [l]], f.behindContent)

def blank? (f : Flow) (l : Line) : Option (List Entry × Flow) :=
  if l.isBlank then some ([.blank l], f.behind) else none

def indented? (o : Options) (stance : Stance) (f : Flow) (l : Line) :
    Option (List Entry × Flow) :=
  if o.codeIndented ∧ ¬f.inParagraph ∧ 4 ≤ l.indent then
    let value := shown (l.rest.drop 4)
    if stance.lazy || stance.fresh then some ([.block (.code [] value l.place)], f.behind)
    else some ([], { f with pending := .indented ⟨l.place, value, l.ending⟩ [] })
  else none

def fence? (o : Options) (f : Flow) (l : Line) : Option (List Entry × Flow) :=
  (l.unindented? o).bind fun s => (Fence.read? s).map fun fence =>
    let depth := if l.indent = 0 then 0 else extent (l.rest.take l.indent) s
    ([], { f with pending := .fenced fence depth ⟨l.place, [], l.ending⟩ })

def readTag (f : Flow) (s : List Symbol) : Flow :=
  if HtmlBlock.isTag s then { f with afterBar := false } else f

def html? (o : Options) (lazy : Bool) (f : Flow) (l : Line) :
    Option (List Entry × Flow) :=
  if o.rawHtml then
    (l.unindented? o).bind fun s =>
      let read := HtmlBlock.start f.afterBar (f.inParagraph && !lazy) s
      let f := f.readTag s
      match read with
      | .reads (kind, marks, rest) =>
        if kind.isClosed marks rest then some ([.block (.html (shown l.rest))], f.behind)
        else some ([], { f with pending := .html kind ⟨l.place, shown l.rest, l.ending⟩ })
      | _ => none
  else none

def heading? (o : Options) (f : Flow) (l : Line) : Option (List Entry × Flow) :=
  (l.unindented? o).bind fun s => (Markdown.heading? s).map fun (depth, content) =>
    ([.block (.heading depth l.place content)], f.behind)

def underline? (o : Options) (stance : Stance) (f : Flow) (l : Line) :
    Option (List Entry × Flow) :=
  if ¬stance.lazy ∧ ¬stance.fresh ∧ (f.latest = .content ∨ f.latest = .underline) then
    (l.unindented? o).bind fun s => (Markdown.underline? s).map fun depth =>
      ([.underline depth l], { f.behind with latest := .underline })
  else none

def rule? (o : Options) (f : Flow) (l : Line) : Option (List Entry × Flow) :=
  (l.unindented? o).bind fun s => if isRule s then some ([.block .rule], f.behind) else none

def isCutOff (o : Options) (f : Flow) (l : Line) : Bool :=
  l.ending.isEmpty && (l.unindented? o).any fun s =>
    isRuleStart s || isFenceStart s ||
      (o.rawHtml && HtmlBlock.start f.afterBar false s matches .ends)

def text (o : Options) (stance : Stance) (f : Flow) (l : Line) : List Entry × Flow :=
  if !o.gfm then f.content l
  else if ¬stance.fresh ∧ f.latest = .row then
    if stance.lazy then f.content l else ([.row (cells l)], f)
  else
    let s := if o.mayIndent l.indent then unblanked l.rest else l.rest.drop 3
    match headers? f.afterBar s with
    | some read =>
      if l.ending.isEmpty then { f with afterBar := false }.content l
      else ([], { f with pending := .headers l read, inParagraph := true, afterBar := read.fresh })
    | none => { f with afterBar := false }.content l

def begin (o : Options) (stance : Stance) (f : Flow) (l : Line) : List Entry × Flow :=
  let untagged := if o.rawHtml then (l.unindented? o).elim f f.readTag else f
  let plain := f.content l
  let cut (r : List Entry × Flow) :=
    if f.isCutOff o l then (r.1, { r.2 with latest := .other }) else r
  match l.rest.head? with
  | some (.char '#') => (f.heading? o l).getD plain
  | some (.char '\x60') | some (.char '~') | some (.char '$') => (f.fence? o l).getD (cut plain)
  | some (.char '*') | some (.char '_') => (f.rule? o l).getD (cut plain)
  | some (.char 'e') | some (.char 'i') | some (.char '\x7b') => plain
  | some (.char '<') => (f.html? o stance.lazy l).getD (cut (untagged.text o stance l))
  | _ =>
    ((f.blank? l).or ((f.indented? o stance l).or ((f.fence? o l).or ((f.html? o stance.lazy l).or
      ((f.heading? o l).or ((f.underline? o stance l).or (f.rule? o l))))))).getD
        (cut (untagged.text o stance l))

def indentedEntries (code : OpenBlock) (blanks : List Line) : List Entry :=
  .block (.code [] (dropLastEnd code.value) code.place) :: blanks.map .blank

def fencedEntry (fence : Fence) (code : OpenBlock) (withEnd : Bool) : Entry :=
  .block (.code fence.language
    (fencedValue (if withEnd then code.value ++ code.ending else code.value)) code.place)

def settle (f : Flow) : List Entry × Flow :=
  match f.pending with
  | .nothing => ([], f)
  | .headers line _ => f.content line
  | .indented code blanks => (indentedEntries code blanks, f.behind)
  | .fenced fence _ code => ([fencedEntry fence code false], f.behind)
  | .html _ block => ([.block (.html block.value)], f.behind)

def forgetBar (f : Flow) : Flow :=
  match f.pending with
  | .headers .. => { f with afterBar := false }
  | _ => f

def resume? (o : Options) (stance : Stance) (f : Flow) (l : Line) :
    Option (List Entry × Flow) :=
  match f.pending with
  | .nothing => none
  | .headers header read =>
    if !stance.lazy && !stance.fresh && isDashed o read.cells l then
      some ([.table [cells header]], { f.behind with latest := .row, afterBar := false })
    else none
  | .indented code blanks =>
    if stance.lazy || stance.fresh then none
    else if 4 ≤ l.indent then
      let code := (blanks.foldl (fun b (blank : Line) => b.add [] blank.ending) code)
      some ([], { f with pending := .indented (code.add (shown (l.rest.drop 4)) l.ending) [] })
    else if l.isBlank then some ([], { f with pending := .indented code (blanks ++ [l]) })
    else none
  | .fenced fence depth code =>
    if stance.lazy then none
    else if (l.unindented? o).any fence.closes then
      some ([fencedEntry fence (code.add [] []) false], f.behind)
    else
      let value := shown (l.rest.drop (min depth l.indent))
      some ([], { f with pending := .fenced fence depth (code.add value l.ending) })
  | .html kind block =>
    if stance.lazy || (kind.endsBlank && l.isBlank) then none
    else
      let block := block.add (shown l.rest) l.ending
      if kind.isClosed 0 l.rest then some ([.block (.html block.value)], f.behind)
      else some ([], { f with pending := .html kind block })

def step (o : Options) (stance : Stance) (f : Flow) (l : Line) :
    List Entry × List Entry × Flow :=
  match f.resume? o stance l with
  | some (entries, f) => ([], entries, f)
  | none =>
    let (settled, f) := (if stance.lazy || stance.fresh then f else f.forgetBar).settle
    let (entries, f) := f.begin o stance l
    (settled, entries, f)

def finish (lazy : Bool) (f : Flow) : List Entry × Bool × Flow :=
  match f.pending with
  | .fenced fence _ code => ([fencedEntry fence code (!lazy)], !lazy, f.behind)
  | .html kind block =>
    if lazy || kind.endsBlank then ([.block (.html block.value)], false, f.behind)
    else ([.block (.html (block.value ++ block.ending))], true, f.behind)
  | _ =>
    let (entries, f) := (if lazy then f else f.forgetBar).settle
    (entries, false, f)

end Flow
end Inlay.Markdown
