import Inlay.Render.Layout

namespace Inlay.Render

inductive Scope
  | top
  | inside (l : Layout)

/-- What children, slots and component fields hold.  Sources and markup are of a site, by its
number: they are rendered there, wherever they are handed on to. -/
inductive Content
  | html (text : Text)
  | join (parts : List Content)
  | filled (template : Template) (props : List (Text × Value Content))
  | component (home : Nat) (name : Text) (template : Template)
    (props : List (Text × Value Content)) (below : List Markup.Node) (space : Layout)
  | nodes (home : Nat) (nodes : List Markup.Node) (scope : Scope)
  | markdown (home : Nat) (source : Text)
  | document (home : Nat) (d : Host.Document) (source : Text)
  | outlet

def Content.nothing : Content := .html []

instance : Inhabited Content := ⟨.nothing⟩

structure Context where
  children : Option Content
  slot : Option Content
  page : Option Page

namespace Context

def empty : Context := ⟨none, none, none⟩

def withChildren (ctx : Context) (c : Content) : Context := { ctx with children := some c }

def withSlot (ctx : Context) (c : Content) : Context := { ctx with slot := some c }

def withoutSlot (ctx : Context) : Context := { ctx with slot := none }

def withPage (ctx : Context) (p : Page) : Context := { ctx with page := some p }

def view (ctx : Context) : View := ⟨ctx.children.isSome, ctx.slot.isSome, ctx.page⟩

end Context

namespace Part

section

variable (props : Props Content) (ctx : Context)

mutual

def content : Part → Content
  | .children => ctx.children.getD .nothing
  | .slot => ctx.slot.getD .nothing
  | .outlet => .outlet
  | .field name => (props.component? name).getD .nothing
  | .html text => .html text
  | .filled t fields => .filled t (contents fields)
  | .document home d source => .document home d source
termination_by structural part => part

def contents : List (Text × Value Part) → List (Text × Value Content)
  | [] => []
  | (name, v) :: rest => (name, value v) :: contents rest

def value : Value Part → Value Content
  | .string text => .string text
  | .boolean set => .boolean set
  | .integer number => .integer number
  | .float number => .float number
  | .component part => .component (content part)
  | .attributes pairs => .attributes pairs

end

end

end Part

def Change.apply (held : Option β) (f : α → β) : Change α → Option β
  | .keep => held
  | .put a => some (f a)
  | .drop => none

def Setting.context (s : Setting) (props : Props Content) (ctx : Context) : Context where
  children := s.children.apply ctx.children (Part.content props ctx)
  slot := s.slot.apply ctx.slot (Part.content props ctx)
  page := s.page.apply ctx.page id

end Inlay.Render
