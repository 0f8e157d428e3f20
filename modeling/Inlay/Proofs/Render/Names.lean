import Inlay.Proofs.Render.Termination

namespace Inlay.Markup

mutual

def Component.names : Component → List Text
  | ⟨name, properties, children, _⟩ =>
    name :: (propertiesNames properties ++ nodesNames children)

def propertiesNames : List Property → List Text
  | [] => []
  | ⟨_, value⟩ :: rest => value.names ++ propertiesNames rest

def Value.names : Value → List Text
  | .string _ => []
  | .flag => []
  | .component inner => inner.names

def nodesNames : List Node → List Text
  | [] => []
  | .text _ :: rest => nodesNames rest
  | .component inner :: rest => inner.names ++ nodesNames rest

end

section

variable {c inner : Component}

theorem names_subset_nodesNames {nodes : List Node} (member : .component inner ∈ nodes) :
    inner.names ⊆ nodesNames nodes := by
  intro name named
  induction nodes with
  | nil => cases member
  | cons n rest ih =>
    rcases List.mem_cons.1 member with rfl | later
    · exact List.mem_append_left _ named
    · cases n with
      | text s => exact ih later
      | component first => exact List.mem_append_right _ (ih later)

theorem names_subset_propertiesNames {properties : List Property} {name : Text} {value : Value}
    (member : ⟨name, value⟩ ∈ properties) : value.names ⊆ propertiesNames properties := by
  intro name named
  induction properties with
  | nil => cases member
  | cons first rest ih =>
    rcases List.mem_cons.1 member with rfl | later
    · exact List.mem_append_left _ named
    · obtain ⟨_, _⟩ := first
      exact List.mem_append_right _ (ih later)

theorem Component.names_of_property {name : Text} {value : Value}
    (member : ⟨name, value⟩ ∈ c.properties) : value.names ⊆ c.names := by
  obtain ⟨_, properties, _, _⟩ := c
  intro name named
  exact List.mem_cons_of_mem _
    (List.mem_append_left _ (names_subset_propertiesNames member named))

theorem Component.names_of_children : nodesNames c.children ⊆ c.names := by
  obtain ⟨_, _, children, _⟩ := c
  intro name named
  exact List.mem_cons_of_mem _ (List.mem_append_right _ named)

end

def Omits (key : Text) (nodes : List Node) : Prop :=
  ∀ name ∈ nodesNames nodes, Text.lower name ≠ key

instance (key : Text) (nodes : List Node) : Decidable (Omits key nodes) :=
  inferInstanceAs (Decidable (∀ name ∈ nodesNames nodes, Text.lower name ≠ key))

end Inlay.Markup

namespace Inlay.Host

def Document.Omits (key : Text) (d : Document) : Prop :=
  ∀ n ∈ preorder d.root, Markup.Omits key ((d.markup? n).getD [])

instance (key : Text) (d : Document) : Decidable (Document.Omits key d) :=
  inferInstanceAs (Decidable (∀ n ∈ preorder d.root, Markup.Omits key ((d.markup? n).getD [])))

end Inlay.Host

namespace Inlay.Render

open Inlay.Markdown (Node)
open Inlay.Host (preorder preorders)

inductive Content.Omits (key : Text) : Content → Prop
  | html (text : Text) : Omits key (.html text)
  | join {parts : List Content} : (∀ part ∈ parts, Omits key part) → Omits key (.join parts)
  | filled {t : Template} {props : Props Content} :
      (∀ name c, (name, Value.component c) ∈ props → Omits key c) → Omits key (.filled t props)
  | component {home : Nat} {name : Text} {t : Template} {props : Props Content}
      {nodes : List Markup.Node} {space : Layout} : Markup.Omits key nodes →
      (∀ name c, (name, Value.component c) ∈ props → Omits key c) →
      Omits key (.component home name t props nodes space)
  | nodes {home : Nat} {nodes : List Markup.Node} {scope : Scope} : Markup.Omits key nodes →
      Omits key (.nodes home nodes scope)
  | markdown (home : Nat) (source : Text) : Omits key (.markdown home source)
  | document {home : Nat} {d : Host.Document} {source : Text} : d.Omits key →
      Omits key (.document home d source)
  | outlet : Omits key .outlet

theorem omits_instantiate {key : Text} {home : Nat} {top : Layout} {scope : Scope}
    {c : Markup.Component} {content : Content} (omits : ∀ name ∈ c.names, Text.lower name ≠ key)
    (made : instantiate home top scope c = .ok content) : content.Omits key := by
  have instances : Instances home top (fun _ c => ∀ name ∈ c.names, Text.lower name ≠ key)
      (Content.Omits key) :=
    { outlet := .outlet
      text := fun _ s _ _ => .markdown home s
      value := fun omits _ _ written name named =>
        omits name (Markup.Component.names_of_property written named)
      child := fun omits _ _ member name named =>
        omits name (Markup.Component.names_of_children
          (Markup.names_subset_nodesNames member named))
      component := fun omits _ _ fields _ =>
        .component (fun name named =>
          omits name (Markup.Component.names_of_children named)) fields }
  exact instances.content c omits made

structure Context.Omits (key : Text) (ctx : Context) : Prop where
  children : ∀ c, ctx.children = some c → c.Omits key
  slot : ∀ c, ctx.slot = some c → c.Omits key

structure Piece.Omits (key : Text) (a : Piece) : Prop where
  content : a.content.Omits key
  ctx : a.ctx.Omits key

theorem Context.omits_empty {key : Text} : Context.empty.Omits key := ⟨nofun, nofun⟩

theorem Context.Omits.withSlot {key : Text} {ctx : Context} {slot : Content} (held : ctx.Omits key)
    (omits : slot.Omits key) : (ctx.withSlot slot).Omits key :=
  ⟨held.children, fun _ same => Option.some.inj same ▸ omits⟩

theorem Context.Omits.withPage {key : Text} {ctx : Context} {page : Page} (held : ctx.Omits key) :
    (ctx.withPage page).Omits key := ⟨held.children, held.slot⟩

namespace Web

/-- Whether no markup of a site that is rendered for a piece names a component in some case of its
letters. -/
def NeverNames (web : Web) (home : Nat) (key : Text) (start : Piece) : Prop :=
  ∀ nodes scope ctx, web.Reaches start ⟨.nodes home nodes scope, ctx⟩ → Markup.Omits key nodes

section

variable {web : Web} {home : Nat} {key : Text}

theorem Asks.omits {a b : Piece} (plain : a.Keeps Routine.Plain)
    (reads : ∀ home source d, (web home).read source = .ok d → d.Omits key)
    (asks : web.Asks a b) (omits : a.Omits key) : b.Omits key := by
  obtain ⟨content, held⟩ := omits
  have parts (t : Template) (props : Props Content) (part : Part)
    (same : a.content = .filled t props)
      (mentions : (t.routine props a.ctx.view).Mentions part) :
      (part.content props a.ctx).Omits key := by
    have keeps := plain.content
    rw [same] at content keeps
    cases keeps with
    | filled template _ =>
      cases content with
      | filled fields =>
        cases (template.body props a.ctx.view).mentions mentions with
        | children => exact Part.Carries.getD (.html []) held.children
        | outlet => exact .outlet
        | field name =>
          exact Part.Carries.getD (.html []) fun c found => Props.Holds.of_component? fields found
        | html text => exact .html text
  obtain ⟨children, slot⟩ := asks.held .html held.children held.slot
    (fun home name t props nodes space same => by
      rw [same] at content
      cases content with | component inside _ => exact .nodes inside) parts
  refine ⟨?_, children, slot⟩
  cases asks with
  | joined member => cases content with | join parts => exact parts _ member
  | component => cases content with | component _ fields => exact .filled fields
  | part asks => exact parts _ _ _ rfl ⟨_, _, asks, .inl rfl⟩
  | text => exact .markdown _ _
  | made member made =>
    cases content with
    | nodes omits =>
      exact omits_instantiate (fun name named =>
        omits name (Markup.names_subset_nodesNames member named)) made
  | markdown read => exact .document (reads _ _ _ read)
  | markup member found =>
    cases content with
    | document omits =>
      have block := omits _ member
      rw [found] at block
      exact .nodes block
  | element inner _ taken bound =>
    exact .filled (Supplies.Holds.bind (holds_elementSupplies fun _ _ _ _ s _ _ =>
      .markdown _ s) bound)
  | outlet there => exact held.slot _ there

theorem neverNames_of_reads (units : web.Keeps Routine.Plain)
    (reads : ∀ home source d, (web home).read source = .ok d → d.Omits key) {start : Piece}
    (plain : start.Keeps Routine.Plain) (omits : start.Omits key) :
    web.NeverNames home key start := by
  intro nodes scope ctx reached
  have still : Piece.Omits key ⟨.nodes home nodes scope, ctx⟩ := by
    generalize (⟨.nodes home nodes scope, ctx⟩ : Piece) = b at reached
    induction reached with
    | refl => exact omits
    | tail before asks ih => exact asks.omits (Reaches.keeps units before plain) reads ih
  cases still.content with | nodes omits => exact omits

end

theorem omits_of_ofKnown {site : Site} {known : List (Text × Node)} {key : Text}
    (reader : site.reader = .ofKnown known)
    (each : ∀ p ∈ known, ∀ d, Host.Document.ofTree site.options.trigger p.2 = .ok d →
      d.Omits key) {source : Text} {d : Host.Document} (read : site.read source = .ok d) :
    d.Omits key := by
  have parsed : Host.Document.parse site.reader site.options.reading site.options.trigger source =
      .ok d := by
    unfold Site.read at read
    split at read
    · cases read; assumption
    · cases read
  rw [reader, Host.Document.parse, Markdown.Reader.ofKnown] at parsed
  split at parsed
  · next root found =>
    split at found
    · next there =>
      cases found
      exact each _ (List.mem_of_find?_eq_some there) d parsed
    · cases found
      -- a line of text has no markup in it
      obtain ⟨_, -, found⟩ := Attempt.bind_eq_ok.1 parsed
      cases found
      intro n member
      simp only [preorder, preorders, List.append_nil, List.mem_cons, List.not_mem_nil, or_false]
        at member
      rcases member with rfl | rfl | rfl
      all_goals exact List.forall_mem_nil _
  · cases parsed

theorem omits_of_ofTree {trigger key : Text} {root : Node} {d : Host.Document}
    (found : Host.Document.ofTree trigger root = .ok d) (omits : d.Omits key)
    (d' : Host.Document) (same : Host.Document.ofTree trigger root = .ok d') :
    d'.Omits key := by
  cases found.symm.trans same
  exact omits

end Web
end Inlay.Render
