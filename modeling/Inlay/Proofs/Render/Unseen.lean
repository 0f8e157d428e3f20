import Inlay.Proofs.Render.Provenance

namespace Inlay.Render

open Inlay.Markdown (Node)
open Inlay.Host (preorder)
open Rendering (Catching Approximates)

inductive Part.Apart : Part → Prop
  | slot : Apart .slot
  | outlet : Apart .outlet
  | field (name : Text) : Apart (.field name)
  | html (text : Text) : Apart (.html text)
  | filled {t : Template} {fields : List (Text × Value Part)} :
      (∀ name part, (name, Value.component part) ∈ fields → Apart part) → Apart (.filled t fields)
  | document (home : Nat) (d : Host.Document) (source : Text) : Apart (.document home d source)

/-- Whether a routine never makes use of the children. -/
def Routine.Childless (r : Routine) : Prop := ∀ part, r.Mentions part → part.Apart

def Context.having (ctx : Context) (children : Option Content) : Context :=
  { ctx with children := children }

section

variable {props : Props Content} {ctx : Context} {children : Option Content}

mutual

theorem Part.Apart.content_eq (part : Part) (apart : part.Apart) :
    part.content props (ctx.having children) = part.content props ctx := by
  cases part with
  | children => cases apart
  | slot => rfl
  | outlet => rfl
  | field name => rfl
  | html text => rfl
  | filled t fields =>
    cases apart with
    | filled inner => exact congrArg (Content.filled t) (Part.Apart.contents_eq fields inner)
  | document home d source => rfl

theorem Part.Apart.contents_eq (fields : List (Text × Value Part))
    (apart : ∀ name part, (name, Value.component part) ∈ fields → part.Apart) :
    Part.contents props (ctx.having children) fields = Part.contents props ctx fields := by
  cases fields with
  | nil => rfl
  | cons field rest =>
    obtain ⟨name, v⟩ := field
    have first : Part.value props (ctx.having children) v = Part.value props ctx v :=
      Part.Apart.value_eq v fun part same => apart name part (same ▸ List.mem_cons_self)
    have later : Part.contents props (ctx.having children) rest = Part.contents props ctx rest :=
      Part.Apart.contents_eq rest fun name part member =>
        apart name part (List.mem_cons_of_mem _ member)
    rw [Part.contents, Part.contents, first, later]

theorem Part.Apart.value_eq (v : Value Part) (apart : ∀ part, v = .component part → part.Apart) :
    Part.value props (ctx.having children) v = Part.value props ctx v := by
  cases v with
  | component part => exact congrArg Value.component (Part.Apart.content_eq part (apart part rfl))
  | _ => rfl

end

theorem Change.apply_congr {change : Change Part} {held held' : Option Content}
    (put : ∀ part, change = .put part → part.Apart) (same : change = .keep → held' = held) :
    change.apply held' (Part.content props (ctx.having children)) =
      change.apply held (Part.content props ctx) := by
  cases change with
  | keep => exact same rfl
  | put part => exact congrArg some (Part.Apart.content_eq part (put part rfl))
  | drop => rfl

end

namespace Web

variable {web : Web}

/-- Whether rendering one piece may ask for another, and hands the children on to it. -/
inductive Hands (web : Web) : Piece → Piece → Prop
  | joined {parts : List Content} {part : Content} {ctx : Context} : part ∈ parts →
      Hands web ⟨.join parts, ctx⟩ ⟨part, ctx⟩
  | part {t : Template} {props : Props Content} {ctx : Context} {part : Part} {setting : Setting} :
      (t.routine props ctx.view).Asks part setting → setting.children = .keep →
      Hands web ⟨.filled t props, ctx⟩ ⟨part.content props ctx, setting.context props ctx⟩
  | text {home : Nat} {nodes : List Markup.Node} {scope : Scope} {ctx : Context} {value : Text} :
      .text value ∈ nodes → Hands web ⟨.nodes home nodes scope, ctx⟩ ⟨.markdown home value, ctx⟩
  | made {home : Nat} {nodes : List Markup.Node} {scope : Scope} {ctx : Context}
      {c : Markup.Component} {content : Content} : .component c ∈ nodes →
      instantiate home (web home).layout scope c = .ok content →
      Hands web ⟨.nodes home nodes scope, ctx⟩ ⟨content, ctx⟩
  | markdown {home : Nat} {source : Text} {ctx : Context} {d : Host.Document} :
      (web home).read source = .ok d →
      Hands web ⟨.markdown home source, ctx⟩ ⟨.document home d source, ctx⟩
  | markup {home : Nat} {d : Host.Document} {source : Text} {ctx : Context} {n : Node}
      {nodes : List Markup.Node} : n ∈ preorder d.root → d.markup? n = some nodes →
      Hands web ⟨.document home d source, ctx⟩ ⟨.nodes home nodes .top, ctx⟩
  | outlet {ctx : Context} {c : Content} : ctx.slot = some c →
      Hands web ⟨.outlet, ctx⟩ ⟨c, ctx.withoutSlot⟩

section

variable {R : (α : Type) → Rendering α → Rendering α → Prop} {below below' : Below}
  {ctx : Context} {children : Option Content}

theorem level_having {b : Piece} (catching : Catching R)
    (write : ∀ bytes, R Unit (Emit.write bytes) (Emit.write bytes))
    (fallback : ∀ home d source n entering, R Status ((web home).fallback d source n entering)
      ((web home).fallback d source n entering))
    (childless : ∀ t props, b.content = .filled t props →
      b.ctx.children.isSome = children.isSome ∧ (t.routine props b.ctx.view).Childless)
    (same : ∀ content ctx, R Unit (below content ctx) (below' content ctx))
    (handed : ∀ c, web.Hands b c →
      R Unit (below c.content c.ctx) (below' c.content (c.ctx.having children))) :
    R Unit (web.level below b.content b.ctx)
      (web.level below' b.content (b.ctx.having children)) := by
  obtain ⟨content, ctx⟩ := b
  cases content with
  | html text => exact catching.text text
  | join parts => exact catching.forM fun part member => handed _ (.joined member)
  | filled t props =>
    obtain ⟨shown, childless⟩ := childless t props rfl
    have view : (ctx.having children).view = ctx.view := by
      rw [Context.view, Context.view, Context.having, ← shown]
    simp only [level, view]
    refine catching.perform write fun part setting asks => ?_
    have apart : part.Apart := childless part ⟨part, setting, asks, .inl rfl⟩
    have slot : setting.slot.apply (ctx.having children).slot
      (Part.content props (ctx.having children)) =
        setting.slot.apply ctx.slot (Part.content props ctx) :=
      Change.apply_congr (fun q put => childless q ⟨part, setting, asks, .inr (.inr put)⟩)
        fun _ => rfl
    rw [Part.Apart.content_eq part apart]
    by_cases kept : setting.children = .keep
    · have around : setting.context props (ctx.having children) =
          (setting.context props ctx).having children := by
        rw [Setting.context, slot, kept]
        rfl
      rw [around]
      exact handed _ (.part asks kept)
    · have around : setting.context props (ctx.having children) = setting.context props ctx := by
        have put : setting.children.apply (ctx.having children).children
            (Part.content props (ctx.having children)) =
            setting.children.apply ctx.children (Part.content props ctx) :=
          Change.apply_congr (fun q put => childless q ⟨part, setting, asks, .inr (.inl put)⟩)
            fun keep => absurd keep kept
        rw [Setting.context, slot, put]
        rfl
      rw [around]
      exact same _ _
  | component home name t props nodes space => exact catching.inside name (same _ _)
  | nodes home nodes scope =>
    refine catching.forM fun n member => ?_
    cases n with
    | text value => exact handed _ (.text member)
    | component c =>
      simp only [node]
      cases made : instantiate home (web home).layout scope c with
      | ok content => exact handed _ (.made member made)
      | error error => exact catching.throw error
  | markdown home source =>
    simp only [level]
    cases read : (web home).read source with
    | ok d => exact handed _ (.markdown read)
    | error error => exact catching.throw error
  | document home d source =>
    refine catching.bind (tour_of_mem catching.toCongruence ?_) fun _ => catching.pure _
    intro n member each each' entering walks
    exact catching.visit walks (fallback home d source n entering)
      (fun held found => handed _ (.markup member found)) fun _ _ _ _ _ => same _ _
  | outlet =>
    have slot : (ctx.having children).slot = ctx.slot := rfl
    simp only [level, outlet, slot]
    cases held : ctx.slot with
    | some c => exact handed _ (.outlet held)
    | none => exact catching.throw _

end

/-- Whether nothing is rendered otherwise with other children, or with none. -/
def Spares (web : Web) (a : Piece) (children : Bool) : Prop :=
  ∀ b, Relation.ReflTransGen web.Hands a b → ∀ t props, b.content = .filled t props →
    b.ctx.children.isSome = children ∧ (t.routine props b.ctx.view).Childless

theorem Spares.hands {a b : Piece} {children : Bool} (spares : web.Spares a children)
    (hands : web.Hands a b) : web.Spares b children :=
  fun c reached => spares c (.head hands reached)

theorem render_having {a : Piece} {children : Option Content}
    (spares : web.Spares a children.isSome) :
    web.render a.content a.ctx = web.render a.content (a.ctx.having children) := by
  have fallback (R : (α : Type) → Rendering α → Rendering α → Prop)
      (refl : ∀ action : Rendering Status, R Status action action) (home : Nat) (d : Host.Document)
      (source : Text) (n : Node) (entering : Bool) :
      R Status ((web home).fallback d source n entering)
        ((web home).fallback d source n entering) := refl _
  refine Approximates.antisymm (fun s outcome found => ?forth) fun s outcome found => ?back
  case forth =>
    refine web.render_induction_below (fun content ctx s outcome =>
      web.Spares ⟨content, ctx⟩ children.isSome →
        web.render content (ctx.having children) s =
          some outcome) ?_ a.content a.ctx s outcome found
      spares
    intro below less known content ctx s outcome found spares
    rw [render_eq]
    refine level_having (b := ⟨content, ctx⟩) Approximates.catching (fun _ => .refl _)
      (fallback _ Approximates.refl) (spares _ .refl) less ?_ s outcome found
    exact fun c hands s outcome found => known _ _ s outcome found (spares.hands hands)
  case back =>
    refine web.render_induction_below (fun content ctx' s outcome =>
      ∀ ctx, ctx' = ctx.having children → web.Spares ⟨content, ctx⟩ children.isSome →
        web.render content ctx s = some outcome) ?_ a.content _ s outcome found a.ctx rfl spares
    rintro below less known content - s outcome found ctx rfl spares
    rw [render_eq]
    refine level_having (b := ⟨content, ctx⟩) Approximates.catching.flip (fun _ => .refl _)
      (fallback _ Approximates.refl) (spares _ .refl) less ?_ s outcome found
    exact fun c hands s outcome found => known _ _ s outcome found _ rfl (spares.hands hands)

end Web

def Content.blind : Content → Bool
  | .filled .. | .join _ => false
  | _ => true

def Context.isSealed (ctx : Context) : Bool := ctx.slot.all Content.blind

theorem blind_instantiate {home : Nat} {top : Layout} {scope : Scope} {c : Markup.Component}
    {content : Content} (made : instantiate home top scope c = .ok content) : content.blind := by
  obtain ⟨name, properties, below, location⟩ := c
  rw [instantiate] at made
  split at made
  · cases made
    rfl
  · split at made
    · cases made
    · dsimp only at made
      split at made
      · cases made
      · cases made
        rfl

/-- Whether content makes no use of the children in its context. -/
inductive Content.Spared : Content → Prop
  | blind {c : Content} : c.blind → Spared c
  | filled {t : Template} {props : Props Content} : t.Keeps Routine.Childless →
      (∀ name c, (name, Value.component c) ∈ props → Spared c) → Spared (.filled t props)

theorem Part.spared {props : Props Content} {ctx : Context} {part : Part}
    (fields : props.Holds Content.Spared) (slot : ∀ c, ctx.slot = some c → c.Spared)
    (apart : part.Apart) (keeps : part.Keeps Routine.Childless) :
    (part.content props ctx).Spared := by
  have carries : Part.Carries props ctx (fun part => part.Apart ∧ part.Keeps Routine.Childless)
      Content.Spared :=
    { children := fun known => nomatch known.1
      slot := slot
      outlet := .blind rfl
      field := fields
      html := fun text => .blind rfl
      filled := fun t fields known inside => by
        cases known.2 with | filled template _ => exact .filled template inside
      inner := fun t fields name part known member => by
        cases known.1 with
        | filled apart =>
          cases known.2 with | filled _ keeps =>
            exact ⟨apart name part member, keeps name part member⟩
      document := fun home d source => .blind rfl }
  exact carries.content part ⟨apart, keeps⟩

namespace Web

variable {web : Web}

theorem Hands.blind {a b : Piece} (hands : web.Hands a b) (blind : a.content.blind)
    (closed : a.ctx.isSealed) : b.content.blind ∧ b.ctx.isSealed := by
  cases hands with
  | joined => cases blind
  | part => cases blind
  | made _ made => exact ⟨blind_instantiate made, closed⟩
  | outlet held => exact ⟨by simpa [Context.isSealed, held] using closed, rfl⟩
  | _ => exact ⟨rfl, closed⟩

theorem spares_of_blind {a : Piece} (blind : a.content.blind) (closed : a.ctx.isSealed)
    (children : Bool) : web.Spares a children := by
  intro b reached
  have still : b.content.blind ∧ b.ctx.isSealed := by
    induction reached with
    | refl => exact ⟨blind, closed⟩
    | tail _ hands ih => exact hands.blind ih.1 ih.2
  intro t props filled
  rw [filled] at still
  cases still.1

theorem Hands.children {a b : Piece} (hands : web.Hands a b) :
    b.ctx.children = a.ctx.children := by
  cases hands with
  | part _ kept =>
    rw [Setting.context, kept]
    rfl
  | _ => rfl

theorem Hands.spared {a b : Piece} (hands : web.Hands a b) (content : a.content.Spared)
    (slot : ∀ c, a.ctx.slot = some c → c.Spared) :
    b.content.Spared ∧ ∀ c, b.ctx.slot = some c → c.Spared := by
  cases hands with
  | joined => cases content with | blind blind => cases blind
  | @part t props ctx part setting asks _ =>
    cases content with
    | blind blind => cases blind
    | filled template fields =>
      have spared {q : Part} (mentions : (t.routine props ctx.view).Mentions q) :
          (q.content props ctx).Spared :=
        Part.spared fields slot (template.body props ctx.view q mentions) (template.part mentions)
      refine ⟨spared ⟨part, setting, asks, .inl rfl⟩, fun c held => ?_⟩
      rcases Change.apply_eq_some held with same | ⟨q, put, rfl⟩
      · exact slot c same
      · exact spared ⟨part, setting, asks, .inr (.inr put)⟩
  | made _ made => exact ⟨.blind (blind_instantiate made), slot⟩
  | outlet held => exact ⟨slot _ held, nofun⟩
  | _ => exact ⟨.blind rfl, slot⟩

theorem spares_of_spared {a : Piece} (content : a.content.Spared)
    (slot : ∀ c, a.ctx.slot = some c → c.Spared) : web.Spares a a.ctx.children.isSome := by
  intro b reached
  have still : b.ctx.children = a.ctx.children ∧ b.content.Spared ∧
      ∀ c, b.ctx.slot = some c → c.Spared := by
    induction reached with
    | refl => exact ⟨rfl, content, slot⟩
    | tail _ hands ih => exact ⟨hands.children.trans ih.1, hands.spared ih.2.1 ih.2.2⟩
  obtain ⟨children, content, -⟩ := still
  intro t props filled
  rw [filled] at content
  cases content with
  | blind blind => cases blind
  | filled template _ => exact ⟨congrArg Option.isSome children, template.body props b.ctx.view⟩

end Web
end Inlay.Render
