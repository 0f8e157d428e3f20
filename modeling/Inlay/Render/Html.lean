import Inlay.Host.Document
import Inlay.Render.Sink
import Inlay.Render.Walk

namespace Inlay.Render

open Inlay.Markdown (Node Leaf Branch)

/-- Writes one side of a node of a document: the document, its source, the node, and whether it is
entered or left. -/
abbrev Fallback := Host.Document → Text → Node → Bool → Emit Status

namespace Html

structure Escape where
  text : Text → Text
  value : Text → Text

def namedReference : Char → Text
  | '&' => "&amp;".toList
  | '<' => "&lt;".toList
  | '>' => "&gt;".toList
  | '"' => "&quot;".toList
  | c => [c]

def Escape.named : Escape where
  text s := s.flatMap fun c => if c ∈ ['&', '<', '>'] then namedReference c else [c]
  value s := s.flatMap fun c => if c ∈ ['&', '<', '>', '"'] then namedReference c else [c]

def tag (name : String) (entering : Bool) : Text :=
  (if entering then "<" else "</").toList ++ name.toList ++ ['>']

def opening (name : String) (attributes : Text) : Text :=
  '<' :: name.toList ++ attributes ++ ['>']

def void (name : String) (attributes : Text) : Text :=
  '<' :: name.toList ++ attributes ++ " />".toList

def headingName (depth : Nat) : String := s!"h{depth}"

section

variable (escape : Escape)

def attr (name : String) (value : Text) : Text :=
  (" " ++ name ++ "=\"").toList ++ escape.value value ++ ['"']

def mention (name : String) : Text := ' ' :: name.toList

def optional (name : String) : Option Text → Text
  | some value => attr escape name value
  | none => []

def box : Option Bool → Text
  | none => []
  | some checked =>
    void "input" (attr escape "type" "checkbox".toList ++ mention "disabled" ++
      if checked then mention "checked" else []) ++ [' ']

def startNumber : Option Nat → Text
  | some start => if start = 1 then [] else attr escape "start" (Nat.toDigits 10 start)
  | none => []

def code (lang : Option Text) (value : Text) : Text :=
  tag "pre" true ++ opening "code" (optional escape "class" (lang.map ("language-".toList ++ ·))) ++
    escape.text value ++ (if value.isEmpty then [] else ['\n']) ++
    tag "code" false ++ tag "pre" false

def leaf (allowRawHtml : Bool) : Leaf → Text
  | .text s => escape.text s
  | .inlineCode s => tag "code" true ++ escape.text s ++ tag "code" false
  | .code lang value _ => code escape lang value
  | .image url title alt =>
    void "img" (attr escape "src" url ++ attr escape "alt" alt ++ optional escape "title" title)
  | .lineBreak => void "br" []
  | .thematicBreak => void "hr" []
  | .html s => if allowRawHtml then s else escape.text s
  | .definition | .imageReference _ | .footnoteReference | .extension _ => []

def enter (d : Host.Document) : Branch → Text
  | .heading depth place => opening (headingName depth) (optional escape "id" (d.headingId? place))
  | .list false _ => tag "ul" true
  | .list true start => opening "ol" (startNumber escape start)
  | .listItem checked => tag "li" true ++ box escape checked
  | .link url title => opening "a" (attr escape "href" url ++ optional escape "title" title)
  | .paragraph => tag "p" true
  | .blockquote => tag "blockquote" true
  | .emphasis => tag "em" true
  | .strong => tag "strong" true
  | .delete => tag "del" true
  | .table => tag "table" true
  | .tableRow => tag "tr" true
  | .tableCell => tag "td" true
  | .root | .footnoteDefinition | .linkReference | .extension _ => []

end

def leave : Branch → Text
  | .heading depth _ => tag (headingName depth) false
  | .list ordered _ => tag (if ordered then "ol" else "ul") false
  | .listItem _ => tag "li" false
  | .link .. => tag "a" false
  | .paragraph => tag "p" false
  | .blockquote => tag "blockquote" false
  | .emphasis => tag "em" false
  | .strong => tag "strong" false
  | .delete => tag "del" false
  | .table => tag "table" false
  | .tableRow => tag "tr" false
  | .tableCell => tag "td" false
  | .root | .footnoteDefinition | .linkReference | .extension _ => []

def skips : Leaf → Bool
  | .code .. | .inlineCode _ => true
  | _ => false

end Html

def htmlFallback (escape : Html.Escape) (allowRawHtml : Bool) : Fallback := fun d _ n entering => do
  match n, entering with
  | .leaf l, true =>
    Emit.text (Html.leaf escape allowRawHtml l)
    return if Html.skips l then .skipChildren else .continue
  | .leaf l, false => return if Html.skips l then .skipChildren else .continue
  | .branch b _, true => Emit.text (Html.enter escape d b); return .continue
  | .branch b _, false => Emit.text (Html.leave b); return .continue

/-- Writes the text of a document, the ids of its headings, and its length in bytes at both ends; it
leaves block quotes out and ends at a rule. -/
def outlineFallback : Fallback := fun d source n entering => do
  match n, entering with
  | .leaf (.text s), true => Emit.text s; return .continue
  | .branch (.heading _ place) _, true =>
    Emit.text ('#' :: (d.headingId? place).getD ['?'])
    return .continue
  | .branch .root _, _ =>
    Emit.string s!"({(Text.utf8 source).length})"
    return .continue
  | .branch .blockquote _, _ => return .skipChildren
  | .leaf .thematicBreak, _ => return .stop
  | _, _ => return .continue

def walkDocument (fallback : Fallback) (d : Host.Document) (source : Text) (root : Node) :
    Emit Unit := do
  let _ ← walk (fallback d source) root

end Inlay.Render
