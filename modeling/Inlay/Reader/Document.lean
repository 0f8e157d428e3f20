import Inlay.Reader.Inline
import Inlay.Reader.Outline

namespace Inlay.Markdown

mutual

def Block.linkLabels : Block → List Text
  | .definition label => [labelKey label]
  | .quote inside | .item _ _ inside | .footnote _ inside => linkLabels inside
  | _ => []

def linkLabels : List Block → List Text
  | [] => []
  | b :: r => b.linkLabels ++ linkLabels r

end

mutual

def Block.footnoteLabels : Block → List Text
  | .footnote label inside => labelKey label :: footnoteLabels inside
  | .quote inside | .item _ _ inside => footnoteLabels inside
  | _ => []

def footnoteLabels : List Block → List Text
  | [] => []
  | b :: r => b.footnoteLabels ++ footnoteLabels r

end

def box? (s : List Symbol) : Option (Bool × List Symbol) :=
  match s with
  | .char '[' :: mark :: .char ']' :: r =>
    let checked := mark == .char 'x' || mark == .char 'X'
    if ¬checked ∧ ¬mark.isGap then none
    else if r.head?.any Symbol.isGap ∧ ¬allBlank r then some (checked, r)
    else none
  | _ => none

def dropGap : Text → Text
  | ' ' :: r | '\t' :: r => r
  | s => dropFirstEnd s

def dropLeadingGap : List Node → List Node
  | .branch .paragraph (.leaf (.text s) :: below) :: r =>
    let s := dropGap s
    .branch .paragraph (if s.isEmpty then below else .leaf (.text s) :: below) :: r
  | nodes => nodes

def boxOf? (rules : InlineRules) : List Block → Option Bool
  | [] => none
  | .paragraph true content :: _ =>
    if rules.options.gfm then (box? content.symbols).map (·.1) else none
  | _ :: r => boxOf? rules r

structure Element where
  item : Option (Bullet × Bool)
  node : Node

abbrev Cluster := List (Bullet × Node)

inductive Segment
  | list (clusters : List Cluster)
  | other (n : Node)

def continues (earlier later : Cluster) : Bool :=
  later.head?.any fun (bullet, _) => earlier.any fun (other, _) => other.mark == bullet.mark

def addElement (e : Element) (r : List Segment) : List Segment :=
  match e.item with
  | none => .other e.node :: r
  | some (bullet, sticks) =>
    match sticks, r with
    | true, .list (cluster :: more) :: rest =>
      .list (((bullet, e.node) :: cluster) :: more) :: rest
    | _, _ => .list [[(bullet, e.node)]] :: r

def joinLists : List Segment → List Segment
  | [] => []
  | .list [cluster] :: r =>
    match joinLists r with
    | .list (next :: more) :: rest =>
      if continues cluster next then .list (cluster :: next :: more) :: rest
      else .list [cluster] :: .list (next :: more) :: rest
    | rest => .list [cluster] :: rest
  | s :: r => s :: joinLists r

def clusterNodes : Cluster → List Node
  | [] => []
  | [(_, n)] => [n]
  | (_, n) :: (bullet, next) :: r =>
    [n, .branch (.list bullet.number.isSome bullet.number) (clusterNodes ((bullet, next) :: r))]

def Segment.node : Segment → Node
  | .other n => n
  | .list clusters =>
    let number := (clusters.head?.bind (·.head?)).bind (·.1.number)
    .branch (.list number.isSome number) (clusters.flatMap clusterNodes)

def listed (elements : List Element) : List Node :=
  (joinLists (elements.foldr addElement [])).map Segment.node

def tableRows (rules : InlineRules) (rows : List (List Content)) : List Node :=
  rows.map fun row => .branch .tableRow (row.map fun cell =>
    .branch .tableCell (inlineNodes { rules with inTable := true } cell none))

def paragraphNode (rules : InlineRules) (front : Bool) (content : Content) : Node :=
  .branch .paragraph <|
    match (if front && rules.options.gfm then box? content.symbols else none) with
    | some (_, rest) => inlineNodes rules { content with symbols := rest } (some (.char ']'))
    | none => inlineNodes rules content none

def language? (word : List Symbol) : Option Text :=
  if word.isEmpty then none else some (literal word)

mutual

def Block.element (rules : InlineRules) : Block → Element
  | .paragraph front content => ⟨none, paragraphNode rules front content⟩
  | .heading depth place content =>
    ⟨none, .branch (.heading depth place) (inlineNodes rules content none)⟩
  | .rule => ⟨none, .leaf .thematicBreak⟩
  | .code language value place => ⟨none, .leaf (.code (language? language) value place)⟩
  | .html value => ⟨none, .leaf (.html value)⟩
  | .definition _ => ⟨none, .leaf .definition⟩
  | .table rows => ⟨none, .branch .table (tableRows rules rows)⟩
  | .quote inside => ⟨none, .branch .blockquote (listed (elements rules inside))⟩
  | .item bullet sticks inside =>
    let checked := boxOf? rules inside
    let nodes := listed (elements rules inside)
    let nodes := if checked.isSome then dropLeadingGap nodes else nodes
    ⟨some (bullet, sticks), .branch (.listItem checked) nodes⟩
  | .footnote _ inside => ⟨none, .branch .footnoteDefinition (listed (elements rules inside))⟩

def elements (rules : InlineRules) : List Block → List Element
  | [] => []
  | b :: r => b.element rules :: elements rules r

end

def commonMarkTree (o : Options) (s : Text) : Node :=
  let found := blocks o s
  let rules : InlineRules := ⟨o, ⟨linkLabels found, footnoteLabels found⟩, false⟩
  .branch .root (listed (elements rules found))

/-- One reader, of CommonMark with GitHub's extensions, to run documents with.  Results are about
any reader, and none is about this one. -/
def Reader.commonMark : Reader := fun o s => .ok (commonMarkTree o s)

end Inlay.Markdown
