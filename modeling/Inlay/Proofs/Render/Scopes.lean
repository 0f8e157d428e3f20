import Inlay.Proofs.Render.Provenance

namespace Inlay.Render

open Inlay.Host (preorder)

namespace Scope

def layout (top : Layout) : Scope → Layout
  | .top => top
  | .inside l => l

def entry? (top : Layout) (scope : Scope) (name : Text) : Option Entry :=
  ((scope.layout top).lookup? name).or (top.lookup? name)

def missing (name : Text) : Scope → LookupFault
  | .top => .noComponent name
  | .inside l => .notInNamespace name l.name

/-- The scope inside components that are in each other, the innermost first.  None is inside the
slot, or inside a component without an entry. -/
def along? (top : Layout) : List Markup.Component → Option Scope
  | [] => some .top
  | c :: around =>
    if c.name = slotName then none
    else (along? top around).bind fun scope => (scope.entry? top c.name).map (.inside ·.inside)

variable {top : Layout} {scope : Scope} {name : Text}

theorem resolve_eq_ok {e : Entry} :
    scope.resolve top name = .ok e ↔ scope.entry? top name = some e := by
  cases scope with
  | top => cases found : top.lookup? name <;> simp [resolve, entry?, layout, found]
  | inside l =>
    cases found : l.lookup? name <;> cases found' : top.lookup? name <;>
      simp [resolve, entry?, layout, found, found']

theorem resolve_of_none (none : scope.entry? top name = none) :
    scope.resolve top name = .error (scope.missing name) := by
  obtain ⟨here, above⟩ := Option.or_eq_none_iff.1 none
  cases scope with
  | top => rw [resolve, above]; rfl
  | inside l => rw [resolve, show l.lookup? name = _ from here, above]; rfl

theorem along?_cons {c : Markup.Component} {around : List Markup.Component} {e : Entry}
    (known : along? top around = some scope) (no_slot : c.name ≠ slotName)
    (found : scope.entry? top c.name = some e) :
    along? top (c :: around) = some (.inside e.inside) := by
  rw [along?, if_neg no_slot, known, Option.bind_some, found, Option.map_some]

end Scope

inductive Nested (block : List Markup.Node) : List Markup.Component → Prop
  | root {c : Markup.Component} : .component c ∈ block → Nested block [c]
  | child {c inner : Markup.Component} {around : List Markup.Component} :
      Nested block (c :: around) → .component inner ∈ c.children →
      Nested block (inner :: c :: around)
  | value {name : Text} {c inner : Markup.Component} {around : List Markup.Component} :
      Nested block (c :: around) → ⟨name, .component inner⟩ ∈ c.properties →
      Nested block (inner :: c :: around)

inductive Under (block : List Markup.Node) : List Markup.Component → List Markup.Node → Prop
  | block : Under block [] block
  | component {c : Markup.Component} {around : List Markup.Component} : Nested block (c :: around) →
      Under block (c :: around) c.children

theorem Under.nested {block nodes : List Markup.Node} {path : List Markup.Component}
    {c : Markup.Component} (under : Under block path nodes) (member : .component c ∈ nodes) :
    Nested block (c :: path) := by
  cases under with
  | block => exact .root member
  | component nested => exact .child nested member

section

variable (web : Web) (block : Nat → List Markup.Node → Prop)

/-- Whether all markup in some content is in blocks of some kind, with the scopes of the rule. -/
inductive Content.Placed : Content → Prop
  | html (text : Text) : Placed (.html text)
  | join {parts : List Content} : (∀ part ∈ parts, Placed part) → Placed (.join parts)
  | filled {t : Template} {props : Props Content} :
      (∀ name c, (name, Value.component c) ∈ props → Placed c) → Placed (.filled t props)
  | component {home : Nat} {nodes : List Markup.Node} {c : Markup.Component}
      {around : List Markup.Component} {scope : Scope} {e : Entry} {props : Props Content} :
      block home nodes → Nested nodes (c :: around) →
      Scope.along? (web home).layout around = some scope → c.name ≠ slotName →
      scope.entry? (web home).layout c.name = some e →
      (∀ name c, (name, Value.component c) ∈ props → Placed c) →
      Placed (.component home c.name e.template props c.children e.inside)
  | nodes {home : Nat} {whole nodes : List Markup.Node} {path : List Markup.Component}
      {scope : Scope} : block home whole → Under whole path nodes →
      Scope.along? (web home).layout path = some scope → Placed (.nodes home nodes scope)
  | markdown (home : Nat) (source : Text) : Placed (.markdown home source)
  | document (home : Nat) (d : Host.Document) (source : Text) : Placed (.document home d source)
  | outlet : Placed .outlet

end

/-- Whether some content has no markup in it but what is still to be read. -/
inductive Content.Bare : Content → Prop
  | html (text : Text) : Bare (.html text)
  | join {parts : List Content} : (∀ part ∈ parts, Bare part) → Bare (.join parts)
  | filled {t : Template} {props : Props Content} :
      (∀ name c, (name, Value.component c) ∈ props → Bare c) → Bare (.filled t props)
  | markdown (home : Nat) (source : Text) : Bare (.markdown home source)
  | document (home : Nat) (d : Host.Document) (source : Text) : Bare (.document home d source)
  | outlet : Bare .outlet

section

variable {web : Web} {block : Nat → List Markup.Node → Prop}

theorem Content.Bare.placed {c : Content} (bare : c.Bare) : c.Placed web block := by
  induction bare with
  | html text => exact .html text
  | join _ ih => exact .join ih
  | filled _ ih => exact .filled ih
  | markdown home source => exact .markdown home source
  | document home d source => exact .document home d source
  | outlet => exact .outlet

theorem placed_instantiate {home : Nat} {nodes : List Markup.Node}
    {around : List Markup.Component} {scope : Scope} (known : block home nodes)
    {c : Markup.Component} (nested : Nested nodes (c :: around))
    (along : Scope.along? (web home).layout around = some scope)
    {content : Content} (made : instantiate home (web home).layout scope c = .ok content) :
    content.Placed web block := by
  have inside {scope : Scope} {c : Markup.Component} {around : List Markup.Component} {e : Entry}
      (along : Scope.along? (web home).layout around = some scope) (no_slot : c.name ≠ slotName)
      (found : scope.resolve (web home).layout c.name = .ok e) :
      Scope.along? (web home).layout (c :: around) = some (.inside e.inside) :=
    Scope.along?_cons along no_slot (Scope.resolve_eq_ok.1 found)
  have instances : Instances home (web home).layout
      (fun scope c => ∃ around, Nested nodes (c :: around) ∧
        Scope.along? (web home).layout around = some scope) (Content.Placed web block) :=
    { outlet := .outlet
      text := fun _ s _ _ => .markdown home s
      value := fun ⟨_, nested, along⟩ no_slot found written =>
        ⟨_, .value nested written, inside along no_slot found⟩
      child := fun ⟨_, nested, along⟩ no_slot found member =>
        ⟨_, .child nested member, inside along no_slot found⟩
      component := fun ⟨_, nested, along⟩ no_slot found fields _ =>
        .component known nested along no_slot (Scope.resolve_eq_ok.1 found) fields }
  exact instances.content c ⟨around, nested, along⟩ made

theorem instantiate_of_ne {home : Nat} {top : Layout} {scope : Scope} {c : Markup.Component}
    (no_slot : c.name ≠ slotName) : instantiate home top scope c =
      match scope.resolve top c.name with
      | .error fault => .error (.lookup fault)
      | .ok e =>
        match (supplyAll home top (.inside e.inside) c.properties).bind (.markdown home)
          e.template.schema with
        | .error error => .error (.inside c.name error)
        | .ok props => .ok (.component home c.name e.template props c.children e.inside) := by
  obtain ⟨name, properties, below, location⟩ := c
  rw [instantiate]
  exact if_neg no_slot

end

structure Piece.Placed (web : Web) (block : Nat → List Markup.Node → Prop) (a : Piece) : Prop where
  content : a.content.Placed web block
  children : ∀ c, a.ctx.children = some c → c.Placed web block
  slot : ∀ c, a.ctx.slot = some c → c.Placed web block

structure Piece.Bare (a : Piece) : Prop where
  content : a.content.Bare
  children : ∀ c, a.ctx.children = some c → c.Bare
  slot : ∀ c, a.ctx.slot = some c → c.Bare

namespace Web

variable {web : Web} {a b : Piece}

def ReadsBlock (web : Web) (a : Piece) (home : Nat) (nodes : List Markup.Node) : Prop :=
  ∃ d source ctx n, web.Reaches a ⟨.document home d source, ctx⟩ ∧ n ∈ preorder d.root ∧
    d.markup? n = some nodes

theorem placed_part {block : Nat → List Markup.Node → Prop} {props : Props Content} {ctx : Context}
    (fields : props.Holds (Content.Placed web block))
    (children : ∀ c, ctx.children = some c → c.Placed web block)
    (slot : ∀ c, ctx.slot = some c → c.Placed web block) (part : Part) :
    (part.content props ctx).Placed web block := by
  have carries : Part.Carries props ctx (fun _ => True) (Content.Placed web block) :=
    { children := fun _ => children
      slot := slot
      outlet := .outlet
      field := fields
      html := .html
      filled := fun _ _ _ inside => .filled inside
      inner := fun _ _ _ _ _ _ => trivial
      document := .document }
  exact carries.content part trivial

theorem Asks.placed {c : Piece} (reached : web.Reaches a b) (asks : web.Asks b c)
    (placed : b.Placed web (web.ReadsBlock a)) : c.Placed web (web.ReadsBlock a) := by
  obtain ⟨content, children, slot⟩ := placed
  have parts (t : Template) (props : Props Content) (part : Part)
      (same : b.content = .filled t props) :
      (part.content props b.ctx).Placed web (web.ReadsBlock a) := by
    rw [same] at content
    cases content with | filled fields => exact placed_part fields children slot part
  -- a component hands its children down with the layout inside its entry
  have below (home : Nat) (name : Text) (t : Template) (props : Props Content)
      (nodes : List Markup.Node) (space : Layout)
      (same : b.content = .component home name t props nodes space) :
      Content.Placed web (web.ReadsBlock a) (.nodes home nodes (.inside space)) := by
    rw [same] at content
    cases content with
    | component known nested along no_slot entry _ =>
      exact .nodes known (.component nested) (Scope.along?_cons along no_slot entry)
  obtain ⟨children', slot'⟩ :=
    asks.held .html children slot below fun t props part same _ => parts t props part same
  refine ⟨?_, children', slot'⟩
  cases asks with
  | joined member => cases content with | join parts => exact parts _ member
  | component => cases content with | component _ _ _ _ _ props => exact .filled props
  | part => exact parts _ _ _ rfl
  | text => exact .markdown _ _
  | made member made =>
    cases content with
    | nodes known under along => exact placed_instantiate known (under.nested member) along made
  | markdown => exact .document _ _ _
  | markup member found => exact .nodes ⟨_, _, _, _, reached, member, found⟩ .block rfl
  | element inner _ taken bound =>
    refine .filled (Supplies.Holds.bind (holds_elementSupplies ?_) bound)
    exact fun _ _ _ _ s _ _ => .markdown _ s
  | outlet held => exact slot _ held

theorem Reaches.placed (reached : web.Reaches a b) (bare : a.Bare) :
    b.Placed web (web.ReadsBlock a) := by
  induction reached with
  | refl =>
    exact ⟨bare.content.placed, fun c held => (bare.children c held).placed,
      fun c held => (bare.slot c held).placed⟩
  | tail reached asks ih => exact asks.placed reached ih

section

variable {home : Nat} {scope : Scope} {c : Markup.Component} {ctx : Context}

theorem render_append (before after : List Markup.Node) (scope : Scope) (ctx : Context) :
    web.render (.nodes home (before ++ after) scope) ctx = (do
      web.render (.nodes home before scope) ctx
      web.render (.nodes home after scope) ctx) := by
  rw [render_eq, render_eq, render_eq]
  exact List.forM_append

theorem render_cons (n : Markup.Node) (after : List Markup.Node) (scope : Scope) (ctx : Context) :
    web.render (.nodes home (n :: after) scope) ctx = (do
      web.node home web.render scope ctx n
      web.render (.nodes home after scope) ctx) := by
  rw [render_eq, render_eq]
  rfl

theorem render_of_ok {content : Content}
    (made : instantiate home (web home).layout scope c = .ok content)
    (before after : List Markup.Node) (ctx : Context) :
    web.render (.nodes home (before ++ .component c :: after) scope) ctx = (do
      web.render (.nodes home before scope) ctx
      web.render content ctx
      web.render (.nodes home after scope) ctx) := by
  have same : web.node home web.render scope ctx (.component c) = web.render content ctx := by
    simp only [node, made]
  rw [render_append, render_cons, same]

theorem render_of_error {e : Error}
    (failed : instantiate home (web home).layout scope c = .error e)
    (before after : List Markup.Node) (ctx : Context) :
    web.render (.nodes home (before ++ .component c :: after) scope) ctx = (do
      web.render (.nodes home before scope) ctx
      throw e) := by
  have thrown : web.node home web.render scope ctx (.component c) = throw e := by
    simp only [node, failed]
  rw [render_append, render_cons, thrown]
  rfl

end

/-- Whether names are resolved by where they stand in their block, in all that comes to be rendered
for a piece. -/
structure ResolvesStatically (web : Web) (a : Piece) : Prop where
  nodes : ∀ home nodes scope ctx, web.Reaches a ⟨.nodes home nodes scope, ctx⟩ →
    ∃ block path, web.ReadsBlock a home block ∧ Under block path nodes ∧
      Scope.along? (web home).layout path = some scope
  component : ∀ home name t props below space ctx,
    web.Reaches a ⟨.component home name t props below space, ctx⟩ →
    ∃ block c around scope e, web.ReadsBlock a home block ∧ Nested block (c :: around) ∧
      Scope.along? (web home).layout around = some scope ∧ c.name ≠ slotName ∧
      scope.entry? (web home).layout c.name = some e ∧
      name = c.name ∧ t = e.template ∧ below = c.children ∧ space = e.inside
  /-- In a scope, a component is made of the entry of its name, with its properties in the layout
  inside this entry, or fails for the lack of an entry. -/
  made : ∀ home c around scope, Scope.along? (web home).layout around = some scope →
    c.name ≠ slotName →
    (scope.entry? (web home).layout c.name = none ∧
      Scope.along? (web home).layout (c :: around) = none ∧
      instantiate home (web home).layout scope c = .error (.lookup (scope.missing c.name))) ∨
    ∃ e, scope.entry? (web home).layout c.name = some e ∧
      Scope.along? (web home).layout (c :: around) = some (.inside e.inside) ∧
      instantiate home (web home).layout scope c =
        match (supplyAll home (web home).layout (.inside e.inside) c.properties).bind
          (.markdown home) e.template.schema with
        | .error error => .error (.inside c.name error)
        | .ok props => .ok (.component home c.name e.template props c.children e.inside)
  /-- Nodes are rendered in order, each component by what is made of it in their scope. -/
  renders : ∀ home scope c content,
    instantiate home (web home).layout scope c = .ok content → ∀ before after ctx,
    web.render (.nodes home (before ++ .component c :: after) scope) ctx = do
      web.render (.nodes home before scope) ctx
      web.render content ctx
      web.render (.nodes home after scope) ctx
  /-- A component that cannot be made ends the nodes with its error. -/
  refuses : ∀ home scope c e,
    instantiate home (web home).layout scope c = .error e → ∀ before after ctx,
    web.render (.nodes home (before ++ .component c :: after) scope) ctx = do
      web.render (.nodes home before scope) ctx
      throw e
  /-- So does one without an entry, and the error names the scope. -/
  misses : ∀ home scope c, c.name ≠ slotName → scope.entry? (web home).layout c.name = none →
    ∀ before after ctx,
    web.render (.nodes home (before ++ .component c :: after) scope) ctx = do
      web.render (.nodes home before scope) ctx
      throw (.lookup (scope.missing c.name))
  text : ∀ home d source ctx asked, web.Asks ⟨.document home d source, ctx⟩ asked →
    ∀ home' nodes scope, asked.content = .nodes home' nodes scope → home' = home ∧ scope = .top
  enters : ∀ home d source ctx n nodes each, d.markup? n = some nodes →
    web.visit home web.render d source ctx n each true = do
      web.render (.nodes home nodes .top) ctx
      return .skipChildren
  /-- Nothing else comes to be rendered. -/
  closed : ∀ b, web.Reaches a b → ∀ below below' : Below,
    (∀ c, web.Reaches a c → below c.content c.ctx = below' c.content c.ctx) →
    web.level below b.content b.ctx = web.level below' b.content b.ctx

theorem resolution_is_static (bare : a.Bare) : web.ResolvesStatically a where
  nodes home nodes scope ctx reached := by
    cases (reached.placed bare).content with
    | nodes known under along => exact ⟨_, _, known, under, along⟩
  component home name t props below space ctx reached := by
    cases (reached.placed bare).content with
    | component known nested along no_slot entry _ =>
      exact ⟨_, _, _, _, _, known, nested, along, no_slot, entry, rfl, rfl, rfl, rfl⟩
  made home c around scope along no_slot := by
    cases entry : scope.entry? (web home).layout c.name with
    | none =>
      refine .inl ⟨rfl, ?_, ?_⟩
      · rw [Scope.along?, if_neg no_slot, along, Option.bind_some, entry, Option.map_none]
      · rw [instantiate_of_ne no_slot, Scope.resolve_of_none entry]
    | some e =>
      refine .inr ⟨e, rfl, Scope.along?_cons along no_slot entry, ?_⟩
      rw [instantiate_of_ne no_slot, Scope.resolve_eq_ok.2 entry]
  renders home scope c content made := render_of_ok made
  refuses home scope c e failed := render_of_error failed
  misses home scope c no_slot none := by
    refine render_of_error ?_
    rw [instantiate_of_ne no_slot, Scope.resolve_of_none none]
  text home d source ctx asked asks home' nodes scope same := by
    cases asks with
    | markup => cases same; exact ⟨rfl, rfl⟩
    | element => cases same
  enters home d source ctx n nodes each found := by
    simp [visit, found]
  closed b reached below below' same := level_congr fun asked asks => same asked (reached.tail asks)

def book (mark : Char) : Entry :=
  ⟨"Book".toList, ⟨[], fun _ _ => .text [mark] .ended⟩, .empty [mark]⟩

def shelf : Entry :=
  ⟨"Shelf".toList, ⟨[], fun _ _ => .part .children .ended⟩,
    ⟨"Shelf".toList, [("book".toList, book 's')]⟩⟩

def shelfSource : Text := "```u\n\\Shelf\n    \\Book\n```".toList

def shelfCode : Markdown.Node :=
  .leaf (.code (some ['u']) "\\Shelf\n    \\Book".toList (.known 1 0))

def shelfKit : Kit := ⟨.ofKnown [(shelfSource, .branch .root [shelfCode])], .named⟩

def shelfWeb : Web :=
  Site.web <| .ofLayout shelfKit
    ⟨[], [("book".toList, book 'o'), ("shelf".toList, shelf)]⟩ ⟨['u'], true, false⟩

def innerBook : Markup.Component := ⟨"Book".toList, [], [], ⟨2, 5⟩⟩

def outerShelf : Markup.Component := ⟨"Shelf".toList, [], [.component innerBook], ⟨1, 1⟩⟩

def shelfDocument : Host.Document :=
  ⟨.branch .root [shelfCode], ['u'], ⟨[(0, ⟨[.component outerShelf]⟩)], [], .empty⟩⟩

def onShelf : Context :=
  Context.empty.withChildren (.nodes 0 [.component innerBook] (.inside shelf.inside))

theorem reaches_book : shelfWeb.Reaches ⟨.markdown 0 shelfSource, .empty⟩
    ⟨.component 0 "Book".toList (book 's').template [] [] (book 's').inside, onShelf⟩ := by
  have read : shelfWeb.Asks ⟨.markdown 0 shelfSource, .empty⟩
      ⟨.document 0 shelfDocument shelfSource, .empty⟩ := .markdown (by cbv)
  have found : shelfWeb.Asks ⟨.document 0 shelfDocument shelfSource, .empty⟩
      ⟨.nodes 0 [.component outerShelf] .top, .empty⟩ :=
    .markup (List.mem_cons_of_mem _ List.mem_cons_self) rfl
  have made : shelfWeb.Asks ⟨.nodes 0 [.component outerShelf] .top, .empty⟩
      ⟨.component 0 "Shelf".toList shelf.template [] [.component innerBook] shelf.inside, .empty⟩ :=
    .made List.mem_cons_self rfl
  have filled : shelfWeb.Asks
      ⟨.component 0 "Shelf".toList shelf.template [] [.component innerBook] shelf.inside, .empty⟩
      ⟨.filled shelf.template [], onShelf⟩ := .component
  have children : shelfWeb.Asks ⟨.filled shelf.template [], onShelf⟩
      ⟨.nodes 0 [.component innerBook] (.inside shelf.inside), onShelf⟩ :=
    @Asks.part _ _ _ _ .children .same .render
  have inside : shelfWeb.Asks ⟨.nodes 0 [.component innerBook] (.inside shelf.inside), onShelf⟩
      ⟨.component 0 "Book".toList (book 's').template [] [] (book 's').inside, onShelf⟩ :=
    .made List.mem_cons_self rfl
  exact .head read <| .head found <| .head made <| .head filled <| .head children <| .single inside

/-- On a shelf, a book is the one for a shelf. -/
theorem resolution_on_shelf :
    let start : Piece := ⟨.markdown 0 shelfSource, .empty⟩
    start.Bare ∧ shelfWeb.ResolvesStatically start ∧
    ∃ block c around scope e, shelfWeb.ReadsBlock start 0 block ∧ Nested block (c :: around) ∧
      Scope.along? (shelfWeb 0).layout around = some scope ∧ c.name ≠ slotName ∧
      scope.entry? (shelfWeb 0).layout c.name = some e ∧ "Book".toList = c.name ∧
      (book 's').template = e.template ∧ [] = c.children ∧ (book 's').inside = e.inside := by
  intro start
  have bare : start.Bare := ⟨.markdown 0 _, nofun, nofun⟩
  have static : shelfWeb.ResolvesStatically start := resolution_is_static bare
  exact ⟨bare, static, static.component _ _ _ _ _ _ _ reaches_book⟩

end Web
end Inlay.Render
