import Inlay.Markup.Location

/-!
# Markdown trees

A Markdown document as a tree.  A node is a leaf or it has children; what kind of node it is says
which.  Code and headings know where they begin in the source, unless the tree was made by hand;
nothing else is ever looked up by place.  The kinds of nodes of extensions that nothing here asks
for are known by their names.
-/

namespace Inlay.Markdown

structure Options where
  gfm : Bool
  rawHtml : Bool
  codeIndented : Bool
deriving DecidableEq

inductive Place
  | unknown
  | known (line offset : Nat)
deriving DecidableEq

namespace Place

def line : Place → Nat
  | unknown => 0
  | known line _ => line

def offset? : Place → Option Nat
  | unknown => none
  | known _ offset => some offset

end Place

inductive Leaf
  | thematicBreak
  | html (value : Text)
  | code (lang : Option Text) (value : Text) (place : Place)
  | definition
  | text (value : Text)
  | inlineCode (value : Text)
  | lineBreak
  | image (url : Text) (title : Option Text) (alt : Text)
  | imageReference (alt : Text)
  | footnoteReference
  | extension (kind : String)
deriving DecidableEq

inductive Branch
  | root
  | paragraph
  | heading (depth : Nat) (place : Place)
  | blockquote
  | list (ordered : Bool) (start : Option Nat)
  | listItem (checked : Option Bool)
  | footnoteDefinition
  | table
  | tableRow
  | tableCell
  | emphasis
  | strong
  | delete
  | link (url : Text) (title : Option Text)
  | linkReference
  | extension (kind : String)
deriving DecidableEq

inductive Node
  | leaf (l : Leaf)
  | branch (b : Branch) (children : List Node)

def Leaf.kind : Leaf → String
  | thematicBreak => "ThematicBreak"
  | html _ => "Html"
  | code .. => "Code"
  | definition => "Definition"
  | text _ => "Text"
  | inlineCode _ => "InlineCode"
  | lineBreak => "Break"
  | image .. => "Image"
  | imageReference _ => "ImageReference"
  | footnoteReference => "FootnoteReference"
  | extension kind => kind

def Branch.kind : Branch → String
  | root => "Root"
  | paragraph => "Paragraph"
  | heading .. => "Heading"
  | blockquote => "Blockquote"
  | list .. => "List"
  | listItem _ => "ListItem"
  | footnoteDefinition => "FootnoteDefinition"
  | table => "Table"
  | tableRow => "TableRow"
  | tableCell => "TableCell"
  | emphasis => "Emphasis"
  | strong => "Strong"
  | delete => "Delete"
  | link .. => "Link"
  | linkReference => "LinkReference"
  | extension kind => kind

namespace Node

def kind : Node → String
  | leaf l => l.kind
  | branch b _ => b.kind

def children : Node → List Node
  | leaf _ => []
  | branch _ below => below

mutual

def size : Node → Nat
  | leaf _ => 1
  | branch _ below => 1 + sizes below

def sizes : List Node → Nat
  | [] => 0
  | n :: r => n.size + sizes r

end

theorem sizes_append (a b : List Node) : sizes (a ++ b) = sizes a + sizes b := by
  induction a with
  | nil => simp [sizes]
  | cons n a ih => simp [sizes, ih, Nat.add_assoc]

theorem size_children (n : Node) : n.size = 1 + sizes n.children := by
  cases n <;> simp [size, sizes, children]

end Node

inductive Extent
  | point (place : Markup.Location)
  | stretch (first last : Markup.Location)

structure Message where
  words : Text
  extent : Option Extent

def Message.location (m : Message) : Markup.Location :=
  match m.extent with
  | some (.point place) => place
  | some (.stretch first _) => first
  | none => .start

/-- How Markdown is read.  Nothing else is known of it here. -/
abbrev Reader := Options → Text → Except Message Node

/-- A reader that knows some sources, and takes any other for a line of text. -/
def Reader.ofKnown (known : List (Text × Node)) : Reader := fun _ source =>
  match known.find? (·.1 == source) with
  | some (_, root) => .ok root
  | none => .ok (.branch .root [.branch .paragraph [.leaf (.text source)]])

end Inlay.Markdown
