import Inlay.Host.Slug
import Inlay.Markdown.Tree
import Inlay.Markup.Parser

/-!
# Host documents

A Markdown document with the markup in it.  Fenced code of one language, the trigger, is markup; it
is parsed when the document is read, and found again by the place where its fence begins.  Headings
get their ids in the same pass, in the order of the document.
-/

namespace Inlay.Host

open Inlay.Markdown (Node)

def defaultTrigger : Text := "slotdown".toList

mutual

def collectText : Node → Text
  | .leaf (.text s) | .leaf (.inlineCode s) | .leaf (.image _ _ s) => s
  | .leaf _ => []
  | .branch _ below => collectTexts below

def collectTexts : List Node → Text
  | [] => []
  | n :: r => collectText n ++ collectTexts r

end

def headingText (below : List Node) : Text := (collectTexts below).trim

def put (key : Nat) (a : α) (pairs : List (Nat × α)) : List (Nat × α) :=
  (key, a) :: pairs.filter (·.1 != key)

structure Found where
  blocks : List (Nat × Markup.Document)
  headings : List (Nat × Text)
  slugger : Slugger

namespace Found

def empty : Found := ⟨[], [], .empty⟩

def visit (trigger : Text) (f : Found) (n : Node) : Except Markup.Error Found :=
  match n with
  | .leaf (.code lang value place) =>
    if lang ≠ some trigger then .ok f
    else match place with
      | .unknown => .ok f
      | .known line offset =>
        match Markup.parse value with
        | .ok d => .ok { f with blocks := put offset d f.blocks }
        | .error e => .error (e.down line)
  | .branch (.heading _ (.known _ offset)) below =>
    let (id, slugger) := f.slugger.next (headingText below)
    .ok { f with headings := put offset id f.headings, slugger := slugger }
  | _ => .ok f

def collect (trigger : Text) (f : Found) (pending : List Node) : Except Markup.Error Found :=
  match pending with
  | [] => .ok f
  | n :: rest =>
    match f.visit trigger n with
    | .error e => .error e
    | .ok f => f.collect trigger (n.children ++ rest)
termination_by Node.sizes pending
decreasing_by
  rw [Node.sizes_append, Node.sizes, Node.size_children]
  omega

end Found

structure Document where
  root : Node
  trigger : Text
  found : Found

namespace Document

/-- The document of a tree.  The first markup that cannot be parsed is an error, told by its lines
in the whole document. -/
def ofTree (trigger : Text) (root : Node) : Except Markup.Error Document :=
  (Found.empty.collect trigger [root]).map fun f => ⟨root, trigger, f⟩

def parse (reader : Markdown.Reader) (o : Markdown.Options) (trigger source : Text) :
    Except Markup.Error Document :=
  match reader o source with
  | .ok root => ofTree trigger root
  | .error message => .error ⟨.document message.words, message.location⟩

def isTrigger (d : Document) (lang : Option Text) : Bool := lang == some d.trigger

def block? (d : Document) (lang : Option Text) (place : Markdown.Place) : Option Markup.Document :=
  if d.isTrigger lang then place.offset?.bind (d.found.blocks.lookup ·) else none

/-- The nodes of a piece of code that is markup; code that was not there when the document was read
has none. -/
def markup? (d : Document) : Node → Option (List Markup.Node)
  | .leaf (.code lang _ place) =>
    if d.isTrigger lang then some ((d.block? lang place).elim [] (·.nodes)) else none
  | _ => none

def headingId? (d : Document) (place : Markdown.Place) : Option Text :=
  place.offset?.bind (d.found.headings.lookup ·)

def blockCount (d : Document) : Nat := d.found.blocks.length

end Document
end Inlay.Host
