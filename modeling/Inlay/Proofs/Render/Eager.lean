import Inlay.Proofs.Render.Binding
import Inlay.Proofs.Render.Scopes
import Inlay.Proofs.Render.Unseen

namespace Inlay.Render

def Field.fits (f : Field) (value : Markup.Value) : Bool :=
  match f.kind, value with
  | .string, .string _ => true
  | .boolean, .flag => true
  | .integer, .string text => (Number.integer? text.trim).isSome
  | .float, .string text => (Number.float? text.trim).isSome
  | .component, .string _ => true
  | .component, .component _ => true
  | _, _ => false

def namedValues (c : Markup.Component) : List (Text × Markup.Value) :=
  c.properties.map fun p => (p.name, p.value)

structure Schema.Fits (schema : Schema) (properties : List (Text × Markup.Value)) : Prop where
  field : ∀ f ∈ schema, ∀ value, f.Last properties value → f.fits value
  rest : ∀ p ∈ properties, ¬schema.takes p.1 →
    (∃ bag ∈ schema, bag.isBag) ∧ ∀ inner, p.2 ≠ .component inner

/-- Whether a component can be made an instance: its name has an entry, its properties are those of
the schema, and each component that a component field takes can be made an instance inside it. -/
inductive Instantiable (top : Layout) : Scope → Markup.Component → Prop
  | slot {scope : Scope} {c : Markup.Component} : c.name = slotName → Instantiable top scope c
  | component {scope : Scope} {c : Markup.Component} {e : Entry} : c.name ≠ slotName →
      scope.entry? top c.name = some e → e.template.schema.Fits (namedValues c) →
      (∀ f ∈ e.template.schema, f.kind = .component → ∀ inner,
        f.Last (namedValues c) (.component inner) → Instantiable top (.inside e.inside) inner) →
      Instantiable top scope c

section

variable {home : Nat} {top : Layout} {scope : Scope}

theorem supplyAll_eq (properties : List Markup.Property) :
    supplyAll home top scope properties =
      (properties.map fun p => (p.name, p.value)).map fun p =>
        (p.1, supply home top scope p.2) := by
  induction properties with
  | nil => rfl
  | cons p r ih =>
    obtain ⟨name, value⟩ := p
    rw [supplyAll, ih]
    rfl

theorem written?_supply (value : Markup.Value) :
    (supply home top scope value).written?.isSome ↔ ∀ inner, value ≠ .component inner := by
  cases value <;> simp [supply, Supplied.written?]

theorem coerce_supply {f : Field} {value : Markup.Value} :
    (∃ v, (supply home top scope value).coerce (.markdown home) f = .ok v) ↔
      f.fits value ∧ (f.kind = .component → ∀ inner, value = .component inner →
        ∃ content, instantiate home top scope inner = .ok content) := by
  obtain ⟨name, kind⟩ := f
  cases kind <;> cases value <;> simp [supply, Supplied.coerce, Field.fits]
  case integer.string text => cases Number.integer? text.trim <;> simp
  case float.string text => cases Number.float? text.trim <;> simp
  case component.component inner => cases instantiate home top scope inner <;> simp [Except.map]

theorem coerces_supplyAll {c : Markup.Component} {schema : Schema} :
    (supplyAll home top scope c.properties).Coerces (.markdown home) schema ↔
      (∀ f ∈ schema, ∀ value, f.Last (namedValues c) value → f.fits value) ∧
      ∀ f ∈ schema, f.kind = .component → ∀ inner, f.Last (namedValues c) (.component inner) →
        ∃ content, instantiate home top scope inner = .ok content := by
  have last {f : Field} {s : Supplied Content} : f.Last (supplyAll home top scope c.properties) s ↔
      ∃ value, f.Last (namedValues c) value ∧ supply home top scope value = s := by
    rw [supplyAll_eq]
    exact Field.last_map _
  constructor
  · intro coerced
    have each (f : Field) (field : f ∈ schema) (value : Markup.Value)
        (last' : f.Last (namedValues c) value) :=
      coerce_supply.1 (coerced f field _ (last.2 ⟨value, last', rfl⟩))
    exact ⟨fun f field value last' => (each f field value last').1,
      fun f field kind inner last' => (each f field _ last').2 kind inner rfl⟩
  · rintro ⟨fits, made⟩ f field s supplied
    obtain ⟨value, last', rfl⟩ := last.1 supplied
    refine coerce_supply.2 ⟨fits f field value last', fun kind inner same => ?_⟩
    exact made f field kind inner (same ▸ last')

theorem untaken_supplyAll {c : Markup.Component} {schema : Schema} :
    (∀ p ∈ (supplyAll home top scope c.properties).untaken schema,
      (∃ bag ∈ schema, bag.isBag) ∧ p.2.written?.isSome) ↔
    ∀ p ∈ namedValues c, ¬schema.takes p.1 →
      (∃ bag ∈ schema, bag.isBag) ∧ ∀ inner, p.2 ≠ .component inner := by
  rw [supplyAll_eq]
  simp only [Supplies.untaken, List.mem_filter, Bool.not_eq_true', List.forall_mem_map, and_imp,
    written?_supply, Bool.not_eq_true, namedValues]

theorem instantiate_isOk_of_entry {c : Markup.Component} {e : Entry} (no_slot : c.name ≠ slotName)
    (entry : scope.entry? top c.name = some e) :
    (∃ content, instantiate home top scope c = .ok content) ↔
      ∃ props, (supplyAll home top (.inside e.inside) c.properties).bind (.markdown home)
        e.template.schema = .ok props := by
  rw [instantiate_of_ne no_slot, Scope.resolve_eq_ok.2 entry]
  dsimp only
  split
  · next failed => simp [failed]
  · next bound => simp [bound]

theorem instantiate_isOk {c : Markup.Component} (no_slot : c.name ≠ slotName) :
    (∃ content, instantiate home top scope c = .ok content) ↔
      ∃ e, scope.entry? top c.name = some e ∧ e.template.schema.Fits (namedValues c) ∧
        ∀ f ∈ e.template.schema, f.kind = .component → ∀ inner,
          f.Last (namedValues c) (.component inner) →
          ∃ content, instantiate home top (.inside e.inside) inner = .ok content := by
  cases entry : scope.entry? top c.name with
  | none =>
    rw [instantiate_of_ne no_slot, Scope.resolve_of_none entry]
    simp
  | some e =>
    rw [instantiate_isOk_of_entry no_slot entry, Supplies.bind_isOk, coerces_supplyAll,
      untaken_supplyAll]
    constructor
    · rintro ⟨⟨fits, inner⟩, rest⟩
      exact ⟨e, rfl, ⟨fits, rest⟩, inner⟩
    · rintro ⟨_, same, ⟨fits, rest⟩, inner⟩
      cases same
      exact ⟨⟨fits, inner⟩, rest⟩

-- by the syntax, where a component stands in another one as the value of a property
mutual

theorem instantiable_of_isOk (c : Markup.Component) {scope : Scope}
    (made : ∃ content, instantiate home top scope c = .ok content) : Instantiable top scope c := by
  obtain ⟨name, properties, below, location⟩ := c
  by_cases slot : name = slotName
  · exact .slot slot
  · obtain ⟨e, entry, fits, inner⟩ := (instantiate_isOk slot).1 made
    refine .component slot entry fits fun f field kind c last => ?_
    obtain ⟨name', member⟩ := last.mem
    exact instantiable_of_mem properties member (inner f field kind c last)

theorem instantiable_of_mem (properties : List Markup.Property) {name : Text} {c : Markup.Component}
    (member : (name, .component c) ∈ properties.map fun p => (p.name, p.value))
    {scope : Scope} (made : ∃ content, instantiate home top scope c = .ok content) :
    Instantiable top scope c := by
  cases properties with
  | nil => cases member
  | cons p rest =>
    obtain ⟨name', value⟩ := p
    rcases List.mem_cons.1 member with first | later
    · exact instantiable_of_value value (Prod.mk.inj first).2.symm made
    · exact instantiable_of_mem rest later made

theorem instantiable_of_value (value : Markup.Value) {c : Markup.Component}
    (same : value = .component c) {scope : Scope}
    (made : ∃ content, instantiate home top scope c = .ok content) : Instantiable top scope c := by
  cases value with
  | string text => cases same
  | flag => cases same
  | component inner =>
    obtain rfl := Markup.Value.component.inj same
    exact instantiable_of_isOk inner made

end

theorem isOk_of_instantiable {c : Markup.Component} (can : Instantiable top scope c) :
    ∃ content, instantiate home top scope c = .ok content := by
  induction can with
  | @slot _ c slot =>
    obtain ⟨name, properties, below, location⟩ := c
    exact ⟨.outlet, by rw [instantiate, if_pos slot]⟩
  | component no_slot entry fits _ ih => exact (instantiate_isOk no_slot).2 ⟨_, entry, fits, ih⟩

theorem isOk_iff_instantiable {c : Markup.Component} :
    (∃ content, instantiate home top scope c = .ok content) ↔ Instantiable top scope c :=
  ⟨instantiable_of_isOk c, isOk_of_instantiable⟩

theorem not_instantiable_of_missing {c : Markup.Component} (no_slot : c.name ≠ slotName)
    (missing : scope.entry? top c.name = none) : ¬Instantiable top scope c := by
  intro can
  cases can with
  | slot slot => exact no_slot slot
  | component _ entry => rw [missing] at entry; cases entry

theorem not_instantiable_of_value {c inner : Markup.Component} {e : Entry} {f : Field}
    (no_slot : c.name ≠ slotName) (entry : scope.entry? top c.name = some e)
    (field : f ∈ e.template.schema) (kind : f.kind = .component)
    (last : f.Last (namedValues c) (.component inner))
    (cannot : ¬Instantiable top (.inside e.inside) inner) : ¬Instantiable top scope c := by
  intro can
  cases can with
  | slot slot => exact no_slot slot
  | component _ entry' _ inside =>
    rw [entry] at entry'
    cases entry'
    exact cannot (inside f field kind inner last)

def Content.over (below : List Markup.Node) : Content → Content
  | .component home name t props _ space => .component home name t props below space
  | c => c

theorem instantiate_over (c : Markup.Component) (below : List Markup.Node) :
    instantiate home top scope { c with children := below } =
      (instantiate home top scope c).map (·.over below) := by
  obtain ⟨name, properties, _, location⟩ := c
  rw [instantiate, instantiate]
  by_cases slot : name = slotName
  · rw [if_pos slot, if_pos slot]
    rfl
  · rw [if_neg slot, if_neg slot]
    cases scope.resolve top name with
    | error fault => rfl
    | ok e =>
      dsimp only
      cases (supplyAll home top (.inside e.inside) properties).bind (.markdown home)
        e.template.schema with
      | error error => rfl
      | ok props => rfl

theorem spared_supplyAll (schema : Schema) (properties : List Markup.Property) :
    (supplyAll home top scope properties).Holds Content.Spared (.markdown home) schema := by
  refine ⟨fun _ _ _ _ _ _ _ => .blind rfl, fun name content member => ?_⟩
  rw [supplyAll_eq] at member
  obtain ⟨⟨_, value⟩, -, same⟩ := List.mem_map.1 member
  cases value with
  | string text => cases same
  | flag => cases same
  | component inner =>
    exact .blind (blind_instantiate (Supplied.component.inj (Prod.mk.inj same).2))

end

namespace Web

variable {web : Web} {home : Nat} {scope : Scope} {c : Markup.Component} {ctx : Context}

/-- Whether the template of a component, if it is made an instance, does not see what is below
it. -/
def KeepsBack (web : Web) (home : Nat) (scope : Scope) (c : Markup.Component) (ctx : Context) :
    Prop :=
  ∀ name t props nodes space, instantiate home (web home).layout scope c =
      .ok (.component home name t props nodes space) →
    web.Spares ⟨.filled t props, ctx.withChildren (.nodes home nodes (.inside space))⟩ true

theorem home_of_instantiate {home' : Nat} {top : Layout} {name : Text} {t : Template}
    {props : Props Content} {nodes : List Markup.Node} {space : Layout}
    (made : instantiate home top scope c = .ok (.component home' name t props nodes space)) :
    home' = home := by
  obtain ⟨name, properties, below, location⟩ := c
  rw [instantiate] at made
  split at made
  · cases made
  · split at made
    · cases made
    · dsimp only at made
      split at made
      · cases made
      · cases made
        rfl

theorem node_over (unseen : web.KeepsBack home scope c ctx) (below : List Markup.Node) :
    web.node home web.render scope ctx (.component { c with children := below }) =
      web.node home web.render scope ctx (.component c) := by
  simp only [node, instantiate_over]
  cases made : instantiate home (web home).layout scope c with
  | error error => rfl
  | ok content =>
    cases content with
    | component home' name t props nodes space =>
      obtain rfl := home_of_instantiate made
      have same := @render_having _ _ (some (.nodes home' below (.inside space)))
        (unseen name t props nodes space made)
      show web.render (.component home' name t props below space) ctx =
        web.render (.component home' name t props nodes space) ctx
      rw [render_eq, render_eq]
      exact congrArg (Rendering.inside name) same.symm
    | _ => rfl

theorem keepsBack_of_childless {e : Entry} (entry : scope.entry? (web home).layout c.name = some e)
    (no_slot : c.name ≠ slotName) (childless : e.template.Keeps Routine.Childless)
    (slot : ∀ content, ctx.slot = some content → content.Spared) :
    web.KeepsBack home scope c ctx := by
  intro name t props nodes space made
  rw [instantiate_of_ne no_slot, Scope.resolve_eq_ok.2 entry] at made
  dsimp only at made
  split at made
  · cases made
  · next bound =>
    cases made
    exact spares_of_spared (.filled childless ((spared_supplyAll _ _).bind bound)) slot

/-- Whether components are made instances with all that their properties need and nothing of what is
below them. -/
structure InstantiatesEagerly (web : Web) (home : Nat) : Prop where
  made : ∀ scope c, (∃ content, instantiate home (web home).layout scope c = .ok content) ↔
    Instantiable (web home).layout scope c
  /-- What is below a component makes no difference, but that the instance holds it. -/
  below : ∀ scope c below, instantiate home (web home).layout scope { c with children := below } =
    (instantiate home (web home).layout scope c).map (·.over below)
  /-- A component that cannot be made an instance writes nothing and ends its nodes. -/
  fails : ∀ scope c, ¬Instantiable (web home).layout scope c →
    ∃ e, instantiate home (web home).layout scope c = .error e ∧ ∀ before after ctx,
      web.render (.nodes home (before ++ .component c :: after) scope) ctx = do
        web.render (.nodes home before scope) ctx
        throw e
  /-- That goes for one in whose component field there is a component without an entry, whatever its
  template does with the field. -/
  missing : ∀ scope c e f inner, c.name ≠ slotName →
    scope.entry? (web home).layout c.name = some e → f ∈ e.template.schema → f.kind = .component →
    f.Last (namedValues c) (.component inner) → inner.name ≠ slotName →
    Scope.entry? (web home).layout (.inside e.inside) inner.name = none →
    ¬Instantiable (web home).layout scope c
  /-- Where the children of a component are not seen, others can be in their place. -/
  unseen : ∀ scope c ctx, web.KeepsBack home scope c ctx → ∀ before after below,
    web.render
        (.nodes home (before ++ .component { c with children := below } :: after) scope) ctx =
      web.render (.nodes home (before ++ .component c :: after) scope) ctx
  /-- They are not where the template never makes use of them, nor what is in the slot. -/
  childless : ∀ scope c e ctx, c.name ≠ slotName →
    scope.entry? (web home).layout c.name = some e → e.template.Keeps Routine.Childless →
    (∀ content, ctx.slot = some content → content.Spared) → web.KeepsBack home scope c ctx

theorem instantiates_eagerly (web : Web) (home : Nat) : web.InstantiatesEagerly home where
  made scope c := isOk_iff_instantiable
  below scope c below := instantiate_over c below
  fails scope c cannot := by
    rw [← @isOk_iff_instantiable home] at cannot
    cases made : instantiate home (web home).layout scope c with
    | error e => exact ⟨e, rfl, render_of_error made⟩
    | ok content => exact absurd ⟨content, made⟩ cannot
  missing scope c e f inner no_slot entry field kind last no_slot' missing :=
    not_instantiable_of_value no_slot entry field kind last
      (not_instantiable_of_missing no_slot' missing)
  unseen scope c ctx unseen before after below := by
    rw [render_append, render_append, render_cons, render_cons, node_over unseen]
  childless scope c e ctx no_slot entry childless slot :=
    keepsBack_of_childless entry no_slot childless slot

end Web
end Inlay.Render
