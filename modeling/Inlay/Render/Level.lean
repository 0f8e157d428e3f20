import Inlay.Render.Catalog
import Inlay.Render.Html
import Inlay.Render.Instance
import Inlay.Render.Options

namespace Inlay.Render

open Inlay.Markdown (Node Leaf Branch)

structure Site where
  layout : Layout
  options : Options
  reader : Markdown.Reader
  fallback : Fallback

structure Kit where
  reader : Markdown.Reader
  escape : Html.Escape

namespace Site

def ofLayout (kit : Kit) (l : Layout) (o : Options) : Site :=
  ⟨l, o, kit.reader, htmlFallback kit.escape o.allowRawHtml⟩

def ofCatalog (kit : Kit) (c : Catalog) (name : Text) (o : Options) : Except Error Site :=
  match c.layout name with
  | .ok l => .ok (ofLayout kit l o)
  | .error fault => .error (.lookup fault)

def read (site : Site) (source : Text) : Except Error Host.Document :=
  match Host.Document.parse site.reader site.options.reading site.options.trigger source with
  | .ok d => .ok d
  | .error error => .error (.markup error)

def elementName : Node → Option String
  | .branch (.heading depth _) _ =>
    some (Html.headingName (if 1 ≤ depth ∧ depth ≤ 5 then depth else 6))
  | .branch .paragraph _ => some "p"
  | .leaf .thematicBreak => some "hr"
  | .branch (.link ..) _ => some "a"
  | .branch (.list ..) _ => some "ul"
  | .branch (.listItem _) _ => some "li"
  | _ => none

def element? (site : Site) (n : Node) : Option (String × Template) := do
  let name ← elementName n
  let t ← site.layout.get? name.toList
  return (name, t)

end Site

def elementSupplies (d : Host.Document) : Node → Supplies Content
  | .branch (.link url _) _ => [("Href".toList, .string url)]
  | .branch (.heading _ place) _ =>
    match d.headingId? place with
    | some id => [("Id".toList, .string id)]
    | none => []
  | _ => []

abbrev Below := Content → Context → Rendering Unit

def outlet (below : Below) (ctx : Context) : Rendering Unit :=
  match ctx.slot with
  | some c => below c ctx.withoutSlot
  | none => throw (.lookup .noSlot)

def perform (below : Below) (props : Props Content) (ctx : Context) : Routine → Rendering Unit
  | .done (.ok ()) => return ()
  | .done (.error e) => throw e
  | .write bytes next => do
    let failure ← Rendering.attempt (Emit.write bytes)
    perform below props ctx (next failure)
  | .render part setting next => do
    let failure ← Rendering.attempt (below (part.content props ctx) (setting.context props ctx))
    perform below props ctx (next failure)
  | .collect part setting next => do
    let (failure, bytes) ←
      Rendering.collect (below (part.content props ctx) (setting.context props ctx))
    perform below props ctx (next failure bytes)

section

variable {below : Below} {props : Props Content} {ctx : Context}

theorem perform_write {bytes : List UInt8} {next : Option Error → Routine}
    (stops : ∀ e, next (some e) = .done (.error e)) :
    perform below props ctx (.write bytes next) =
      (do Emit.write bytes; perform below props ctx (next none)) :=
  Rendering.attempt_bind fun e => congrArg (perform below props ctx) (stops e)

theorem perform_render {part : Part} {setting : Setting} {next : Option Error → Routine}
    (stops : ∀ e, next (some e) = .done (.error e)) :
    perform below props ctx (.render part setting next) =
      (do below (part.content props ctx) (setting.context props ctx)
          perform below props ctx (next none)) :=
  Rendering.attempt_bind fun e => congrArg (perform below props ctx) (stops e)

theorem perform_text (s : Text) (next : Routine) : perform below props ctx (.text s next) =
    (do Emit.text s; perform below props ctx next) := perform_write fun _ => rfl

theorem perform_part (part : Part) (next : Routine) : perform below props ctx (.part part next) =
    (do below (part.content props ctx) ctx; perform below props ctx next) :=
  perform_render fun _ => rfl

end

abbrev Web := Nat → Site

def Site.web (site : Site) : Web := fun _ => site

namespace Web

section

variable (web : Web) (home : Nat) (below : Below)

def node (scope : Scope) (ctx : Context) : Markup.Node → Rendering Unit
  | .text value => below (.markdown home value) ctx
  | .component c =>
    match instantiate home (web home).layout scope c with
    | .ok content => below content ctx
    | .error error => throw error

/-- What the component writes that takes over a node, given the walk of each child of the node.  The
children are rendered first, and are HTML to the component. -/
def element (d : Host.Document) (ctx : Context) (e : String × Template) (n : Node)
    (each : Rendering Unit) : Rendering Unit := do
  let inner ← Rendering.capture each
  let name := e.1.toList
  match (elementSupplies d n).bind (.markdown home) e.2.schema with
  | .error error => throw (.inside name error)
  | .ok props =>
    Rendering.inside name (below (.filled e.2 props) (ctx.withChildren (.html (Text.lossy inner))))

def visit (d : Host.Document) (source : Text) (ctx : Context) :
    Visitor Rendering := fun n each entering => do
  match d.markup? n with
  | some nodes =>
    if entering then below (.nodes home nodes .top) ctx
    return .skipChildren
  | none =>
    match (web home).element? n with
    | some e =>
      if entering then element home below d ctx e n each
      return .skipChildren
    | none => (web home).fallback d source n entering

def document (d : Host.Document) (source : Text) (ctx : Context) : Rendering Unit := do
  let _ ← tour (web.visit home below d source ctx) d.root

end

def level (web : Web) (below : Below) (content : Content) (ctx : Context) : Rendering Unit :=
  match content with
  | .html text => Emit.text text
  | .join parts => parts.forM (below · ctx)
  | .filled t props => perform below props ctx (t.routine props ctx.view)
  | .component home name t props nodes space =>
    let children := .nodes home nodes (.inside space)
    Rendering.inside name (below (.filled t props) (ctx.withChildren children))
  | .nodes home nodes scope => nodes.forM (web.node home below scope ctx)
  | .markdown home source =>
    match (web home).read source with
    | .ok d => below (.document home d source) ctx
    | .error error => throw error
  | .document home d source => web.document home below d source ctx
  | .outlet => outlet below ctx

end Web
end Inlay.Render
