import Inlay.Markdown.Tree

namespace Inlay.Render

open Inlay.Markdown (Node)

inductive Status
  | continue
  | skipChildren
  | stop
deriving DecidableEq

def Status.name : Status → String
  | .continue => "Continue"
  | .skipChildren => "SkipChildren"
  | .stop => "Stop"

section

variable {m : Type → Type} [Monad m]

/-- A visit to a node, given the walk of each of its children and whether the node is entered or
left. -/
abbrev Visitor (m : Type → Type) := Node → m Unit → Bool → m Status

def tourNode (visit : Visitor m) (n : Node) (each : m Unit) (below : m Status) : m Status := do
  match ← visit n each true with
  | .stop => return .stop
  | .skipChildren => visit n each false
  | .continue =>
    match ← below with
    | .stop => return .stop
    | _ => visit n each false

mutual

def tour (visit : Visitor m) : Node → m Status
  | .leaf l => tourNode visit (.leaf l) (return ()) (return .continue)
  | .branch b below => tourNode visit (.branch b below) (tourEach visit below) (tourAll visit below)

def tourAll (visit : Visitor m) : List Node → m Status
  | [] => return .continue
  | n :: r => do
    match ← tour visit n with
    | .stop => return .stop
    | _ => tourAll visit r

def tourEach (visit : Visitor m) : List Node → m Unit
  | [] => return ()
  | n :: r => do
    let _ ← tour visit n
    tourEach visit r

end

def walk (visit : Node → Bool → m Status) (n : Node) : m Status :=
  tour (fun n _ entering => visit n entering) n

end

end Inlay.Render
