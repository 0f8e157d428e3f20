import Inlay.Proofs.Attempt
import Inlay.Proofs.Render.Asks
import Inlay.Proofs.Text.Tables

namespace Inlay
namespace Render

/-! ## Properties -/

section

variable {γ : Type} {p : γ → Prop} {props props' : Props γ} {supplies : Supplies γ}
  {markdown : Text → γ}

def Props.Holds (p : γ → Prop) (props : Props γ) : Prop :=
  ∀ name c, (name, Value.component c) ∈ props → p c

theorem Props.Holds.put {name : Text} {v : Value γ} (holds : props.Holds p)
    (value : ∀ c, v = .component c → p c) : (props.put name v).Holds p := by
  intro name' c member
  rcases Keyed.mem_put member with new | old
  · exact value c (Prod.mk.inj new).2.symm
  · exact holds name' c old

theorem Props.Holds.of_component? {name : Text} {c : γ} (holds : props.Holds p)
    (found : props.component? name = some c) : p c := by
  rw [Props.component?] at found
  split at found
  · next held =>
    cases found
    exact holds _ _ (Keyed.mem_of_get? held)
  · cases found

structure Supplies.Holds (p : γ → Prop) (markdown : Text → γ) (schema : Schema)
    (supplies : Supplies γ) : Prop where
  text : ∀ f ∈ schema, f.kind = .component → ∀ name s, (name, Supplied.string s) ∈ supplies →
    f.takes name → p (markdown s)
  made : ∀ name c, (name, Supplied.component (.ok c)) ∈ supplies → p c

theorem Supplies.Holds.coerce {schema : Schema} {f : Field} {name : Text} {s : Supplied γ}
    {v : Value γ} (holds : supplies.Holds p markdown schema) (field : f ∈ schema)
    (member : (name, s) ∈ supplies) (taken : f.takes name)
    (coerced : s.coerce markdown f = .ok v) : ∀ c, v = .component c → p c := by
  rintro c rfl
  rw [Supplied.coerce.eq_def] at coerced
  split at coerced
  case h_5 _ _ text kind => cases coerced; exact holds.text f field kind name text member taken
  case h_6 made _ =>
    cases made with
    | error e => cases coerced
    | ok content => cases coerced; exact holds.made name c member
  all_goals first
    | cases coerced
    | (split at coerced <;> cases coerced)

theorem Supplies.Holds.bindFields {schema : Schema} (supplied : supplies.Holds p markdown schema)
    (holds : props.Holds p) (bound : supplies.bindFields markdown props schema = .ok props') :
    props'.Holds p := by
  induction schema generalizing props with
  | nil => cases bound; exact holds
  | cons f r ih =>
    have later : supplies.Holds p markdown r :=
      ⟨fun f member => supplied.text f (List.mem_cons_of_mem _ member), supplied.made⟩
    rw [Supplies.bindFields] at bound
    split at bound
    · exact ih later holds bound
    · next s found =>
      obtain ⟨⟨name, _⟩, first, rfl⟩ := Option.map_eq_some_iff.1 found
      obtain ⟨v, coerced, rest⟩ := Attempt.bind_eq_ok.1 bound
      rw [List.findRev?_eq_find?_reverse] at first
      have member := List.mem_reverse.1 (List.mem_of_find?_eq_some first)
      have taken : f.takes name := by simpa using List.find?_some first
      exact ih later (holds.put (supplied.coerce List.mem_cons_self member taken coerced)) rest

theorem Supplies.Holds.bind {schema : Schema} (supplied : supplies.Holds p markdown schema)
    (bound : supplies.bind markdown schema = .ok props) : props.Holds p := by
  obtain ⟨fields, filled, bound⟩ := Attempt.bind_eq_ok.1 bound
  have nothing : Props.Holds p [] := fun _ _ member => absurd member List.not_mem_nil
  have holds : fields.Holds p := supplied.bindFields nothing filled
  dsimp only at bound
  split at bound
  · obtain ⟨pairs, -, bound⟩ := Attempt.bind_eq_ok.1 bound
    cases bound
    exact holds.put fun c other => nomatch other
  · split at bound
    · cases bound; exact holds
    · cases bound

end

/-! ## What components come to -/

/-- What makes the instances of components of some kind content of some kind. -/
structure Instances (home : Nat) (top : Layout) (q : Scope → Markup.Component → Prop)
    (p : Content → Prop) : Prop where
  outlet : p .outlet
  text : ∀ {scope c} name s, q scope c → ⟨name, .string s⟩ ∈ c.properties → p (.markdown home s)
  value : ∀ {scope c e name inner}, q scope c → c.name ≠ slotName →
    scope.resolve top c.name = .ok e → ⟨name, .component inner⟩ ∈ c.properties →
    q (.inside e.inside) inner
  child : ∀ {scope c e inner}, q scope c → c.name ≠ slotName → scope.resolve top c.name = .ok e →
    .component inner ∈ c.children → q (.inside e.inside) inner
  component : ∀ {scope c e props}, q scope c → c.name ≠ slotName →
    scope.resolve top c.name = .ok e → Props.Holds p props →
    (∀ inner content, .component inner ∈ c.children →
      instantiate home top (.inside e.inside) inner = .ok content → p content) →
    p (.component home c.name e.template props c.children e.inside)

namespace Instances

variable {home : Nat} {top : Layout} {q : Scope → Markup.Component → Prop} {p : Content → Prop}

mutual

theorem content (instances : Instances home top q p) {scope : Scope} (c : Markup.Component)
    (known : q scope c) {content : Content} (made : instantiate home top scope c = .ok content) :
    p content := by
  obtain ⟨name, properties, below, location⟩ := c
  rw [instantiate] at made
  split at made
  · cases made
    exact instances.outlet
  · next no_slot =>
    split at made
    · cases made
    · next e found =>
      dsimp only at made
      split at made
      · cases made
      · next props bound =>
        cases made
        have values := supplies instances e.template.schema properties
          (fun name s => instances.text name s known) fun name inner =>
            instances.value known no_slot found
        have inside := children instances below fun inner => instances.child known no_slot found
        exact instances.component known no_slot found (values.bind bound) inside

theorem children (instances : Instances home top q p) {scope : Scope} (nodes : List Markup.Node)
    (known : ∀ inner, .component inner ∈ nodes → q scope inner) :
    ∀ inner content, .component inner ∈ nodes →
      instantiate home top scope inner = .ok content → p content := by
  cases nodes with
  | nil => exact fun _ _ member => nomatch member
  | cons n rest =>
    have later := children instances rest fun inner member =>
      known inner (List.mem_cons_of_mem _ member)
    intro inner content member made
    cases n with
    | text value =>
      cases member with | tail _ member => exact later inner content member made
    | component first =>
      rcases List.mem_cons.1 member with same | member
      · rw [Markup.Node.component.inj same] at made
        exact Instances.content instances first (known first List.mem_cons_self) made
      · exact later inner content member made

theorem supplies (instances : Instances home top q p) {scope : Scope} (schema : Schema)
    (properties : List Markup.Property)
    (texts : ∀ name s, ⟨name, .string s⟩ ∈ properties → p (.markdown home s))
    (known : ∀ name inner, ⟨name, .component inner⟩ ∈ properties → q scope inner) :
    (supplyAll home top scope properties).Holds p (.markdown home) schema := by
  cases properties with
  | nil => exact ⟨fun _ _ _ _ _ member => (nomatch member), fun _ _ member => (nomatch member)⟩
  | cons first rest =>
    obtain ⟨name, value⟩ := first
    have others := supplies instances schema rest
      (fun name s member => texts name s (List.mem_cons_of_mem _ member))
      fun name inner member => known name inner (List.mem_cons_of_mem _ member)
    obtain ⟨text, made⟩ := supply instances value
      (fun s same => texts name s (same ▸ List.mem_cons_self))
      fun inner same => known name inner (same ▸ List.mem_cons_self)
    constructor
    · intro f field kind name' s member taken
      rcases List.mem_cons.1 member with same | later
      · exact text s (Prod.mk.inj same).2.symm
      · exact others.text f field kind name' s later taken
    · intro name' c member
      rcases List.mem_cons.1 member with same | later
      · exact made c (Prod.mk.inj same).2.symm
      · exact others.made name' c later

theorem supply (instances : Instances home top q p) {scope : Scope} (value : Markup.Value)
    (texts : ∀ s, value = .string s → p (.markdown home s))
    (known : ∀ inner, value = .component inner → q scope inner) :
    (∀ s, Render.supply home top scope value = .string s → p (.markdown home s)) ∧
      ∀ c, Render.supply home top scope value = .component (.ok c) → p c := by
  cases value with
  | string text =>
    refine ⟨?_, fun c other => nomatch other⟩
    rintro s ⟨⟩
    exact texts text rfl
  | flag => exact ⟨fun s other => (nomatch other), fun c other => (nomatch other)⟩
  | component inner =>
    refine ⟨fun s other => (nomatch other), fun c made => ?_⟩
    exact Instances.content instances inner (known inner rfl) (Supplied.component.inj made)

end

end Instances

/-! ## What parts come to -/

structure Part.Carries (props : Props Content) (ctx : Context) (q : Part → Prop)
    (p : Content → Prop) : Prop where
  children : q .children → ∀ c, ctx.children = some c → p c
  slot : ∀ c, ctx.slot = some c → p c
  outlet : p .outlet
  field : props.Holds p
  html : ∀ text, p (.html text)
  filled : ∀ t fields, q (.filled t fields) → Props.Holds p (contents props ctx fields) →
    p (.filled t (contents props ctx fields))
  inner : ∀ t fields name part, q (.filled t fields) → (name, Value.component part) ∈ fields →
    q part
  document : ∀ home d source, p (.document home d source)

namespace Part.Carries

variable {props : Props Content} {ctx : Context} {q : Part → Prop} {p : Content → Prop}

theorem getD {held : Option Content} (nothing : p .nothing) (each : ∀ c, held = some c → p c) :
    p (held.getD .nothing) := by
  cases held with
  | none => exact nothing
  | some c => exact each c rfl

mutual

theorem content (carries : Part.Carries props ctx q p) (part : Part) (known : q part) :
    p (part.content props ctx) := by
  cases part with
  | children => exact getD (carries.html []) (carries.children known)
  | slot => exact getD (carries.html []) carries.slot
  | outlet => exact carries.outlet
  | field name =>
    exact getD (carries.html []) fun c found => carries.field.of_component? found
  | html text => exact carries.html text
  | filled t fields =>
    exact carries.filled t fields known
      (contents carries fields fun name part member =>
        carries.inner t fields name part known member)
  | document home d source => exact carries.document home d source

theorem contents (carries : Part.Carries props ctx q p) (fields : List (Text × Value Part))
    (known : ∀ name part, (name, Value.component part) ∈ fields → q part) :
    Props.Holds p (Part.contents props ctx fields) := by
  cases fields with
  | nil => exact fun _ _ member => nomatch member
  | cons field rest =>
    obtain ⟨name, v⟩ := field
    intro name' c member
    rcases List.mem_cons.1 member with first | later
    · exact value carries v (fun part same => known name part (same ▸ List.mem_cons_self)) c
        (Prod.mk.inj first).2.symm
    · exact contents carries rest (fun name part inside =>
        known name part (List.mem_cons_of_mem _ inside)) name' c later

theorem value (carries : Part.Carries props ctx q p) (v : Value Part)
    (known : ∀ part, v = .component part → q part) :
    ∀ c, Part.value props ctx v = .component c → p c := by
  cases v with
  | component part =>
    rintro c ⟨⟩
    exact content carries part (known part rfl)
  | _ => exact fun c other => nomatch other

end

end Part.Carries

def Routine.Mentions (r : Routine) (part : Part) : Prop :=
  ∃ asked setting, r.Asks asked setting ∧
    (part = asked ∨ setting.children = .put part ∨ setting.slot = .put part)

namespace Routine

variable {next : Routine} {p q : Part} {setting : Setting} {failure : Option Error}

theorem Asks.of_onward (asks : (onward next failure).Asks q setting) : next.Asks q setting := by
  cases failure with
  | none => exact asks
  | some e => cases asks

theorem Asks.of_text {s : Text} (asks : (text s next).Asks q setting) : next.Asks q setting := by
  cases asks with | written _ later => exact later.of_onward

theorem Asks.of_part (asks : (Routine.part p next).Asks q setting) :
    q = p ∧ setting = .same ∨ next.Asks q setting := by
  cases asks with
  | render => exact .inl ⟨rfl, rfl⟩
  | rendered _ later => exact .inr later.of_onward

theorem not_asks_ended : ¬ ended.Asks q setting := nofun

theorem not_mentions_ended : ¬ ended.Mentions q := fun ⟨_, _, asks, _⟩ => not_asks_ended asks

theorem mentions_text {s : Text} (mentions : (text s next).Mentions q) : next.Mentions q := by
  obtain ⟨asked, setting, asks, what⟩ := mentions
  exact ⟨asked, setting, asks.of_text, what⟩

theorem mentions_part (mentions : (Routine.part p next).Mentions q) : q = p ∨ next.Mentions q := by
  obtain ⟨asked, setting, asks, what⟩ := mentions
  rcases asks.of_part with ⟨rfl, rfl⟩ | later
  · rcases what with rfl | put | put
    · exact .inl rfl
    · cases put
    · cases put
  · exact .inr ⟨asked, setting, later, what⟩

end Routine

section

variable {allowed : Routine → Prop}

mutual

/-- Whether a template, and each that it makes use of, does only what is allowed. -/
inductive Template.Keeps (allowed : Routine → Prop) : Template → Prop
  | intro {t : Template} : (∀ props view, allowed (t.body props view)) →
      (∀ props view part, (t.body props view).Mentions part → Part.Keeps allowed part) →
      Template.Keeps allowed t

inductive Part.Keeps (allowed : Routine → Prop) : Part → Prop
  | children : Part.Keeps allowed .children
  | slot : Part.Keeps allowed .slot
  | outlet : Part.Keeps allowed .outlet
  | field (name : Text) : Part.Keeps allowed (.field name)
  | html (text : Text) : Part.Keeps allowed (.html text)
  | filled {t : Template} {fields : List (Text × Value Part)} : Template.Keeps allowed t →
      (∀ name part, (name, Value.component part) ∈ fields → Part.Keeps allowed part) →
      Part.Keeps allowed (.filled t fields)
  | document (home : Nat) (d : Host.Document) (source : Text) :
      Part.Keeps allowed (.document home d source)

end

theorem Template.Keeps.body {t : Template} (keeps : t.Keeps allowed) (props : Props γ)
    (view : View) : allowed (t.routine props view) := by
  cases keeps with | intro each _ => exact each _ _

theorem Template.Keeps.part {t : Template} {props : Props γ} {view : View} {part : Part}
    (keeps : t.Keeps allowed) (mentioned : (t.routine props view).Mentions part) :
    part.Keeps allowed := by
  cases keeps with | intro _ parts => exact parts _ _ _ mentioned

inductive Layout.Within (top : Layout) : Layout → Prop
  | top : Within top top
  | inside {l : Layout} {key : Text} {e : Entry} : Within top l → (key, e) ∈ l.entries →
      Within top e.inside

def Layout.Keeps (allowed : Routine → Prop) (top : Layout) : Prop :=
  ∀ l key e, top.Within l → (key, e) ∈ l.entries → e.template.Keeps allowed

def Scope.Keeps (allowed : Routine → Prop) : Scope → Prop
  | .top => True
  | .inside l => l.Keeps allowed

inductive Content.Keeps (allowed : Routine → Prop) : Content → Prop
  | html (text : Text) : Keeps allowed (.html text)
  | join {parts : List Content} : (∀ part ∈ parts, Keeps allowed part) → Keeps allowed (.join parts)
  | filled {t : Template} {props : Props Content} : t.Keeps allowed →
      (∀ name c, (name, Value.component c) ∈ props → Keeps allowed c) →
      Keeps allowed (.filled t props)
  | component {home : Nat} {name : Text} {t : Template} {props : Props Content}
      {nodes : List Markup.Node} {space : Layout} : t.Keeps allowed →
      (∀ name c, (name, Value.component c) ∈ props → Keeps allowed c) → space.Keeps allowed →
      Keeps allowed (.component home name t props nodes space)
  | nodes {home : Nat} {nodes : List Markup.Node} {scope : Scope} : scope.Keeps allowed →
      Keeps allowed (.nodes home nodes scope)
  | markdown (home : Nat) (source : Text) : Keeps allowed (.markdown home source)
  | document (home : Nat) (d : Host.Document) (source : Text) :
      Keeps allowed (.document home d source)
  | outlet : Keeps allowed .outlet

structure Context.Keeps (allowed : Routine → Prop) (ctx : Context) : Prop where
  children : ∀ c, ctx.children = some c → c.Keeps allowed
  slot : ∀ c, ctx.slot = some c → c.Keeps allowed

structure Piece.Keeps (allowed : Routine → Prop) (a : Piece) : Prop where
  content : a.content.Keeps allowed
  ctx : a.ctx.Keeps allowed

def Web.Keeps (allowed : Routine → Prop) (web : Web) : Prop :=
  ∀ home, (web home).layout.Keeps allowed

theorem Context.keeps_empty : Context.empty.Keeps allowed := ⟨nofun, nofun⟩

theorem Context.Keeps.withSlot {ctx : Context} {slot : Content} (held : ctx.Keeps allowed)
    (keeps : slot.Keeps allowed) : (ctx.withSlot slot).Keeps allowed :=
  ⟨held.children, fun _ same => Option.some.inj same ▸ keeps⟩

theorem Context.Keeps.withPage {ctx : Context} {page : Page} (held : ctx.Keeps allowed) :
    (ctx.withPage page).Keeps allowed := ⟨held.children, held.slot⟩

theorem Part.Keeps.content {props : Props Content} {ctx : Context} {part : Part}
    (fields : props.Holds (Content.Keeps allowed)) (held : ctx.Keeps allowed)
    (keeps : part.Keeps allowed) : (part.content props ctx).Keeps allowed := by
  have carries : Part.Carries props ctx (Part.Keeps allowed) (Content.Keeps allowed) :=
    { children := fun _ => held.children
      slot := held.slot
      outlet := .outlet
      field := fields
      html := .html
      filled := fun t fields known inside => by
        cases known with | filled template _ => exact .filled template inside
      inner := fun t fields name part known member => by
        cases known with | filled _ inside => exact inside name part member
      document := .document }
  exact carries.content part keeps

/-! ## Layouts -/

section

variable {top l : Layout} {e : Entry}

theorem Layout.Within.outside {key : Text} (member : (key, e) ∈ top.entries)
    (within : e.inside.Within l) : top.Within l := by
  induction within with
  | top => exact .inside .top member
  | inside _ deeper ih => exact .inside ih deeper

theorem Layout.Within.split (within : top.Within l) :
    l = top ∨ ∃ key e, (key, e) ∈ top.entries ∧ e.inside.Within l := by
  induction within with
  | top => exact .inl rfl
  | inside _ member ih =>
    rcases ih with rfl | ⟨key, e, first, within⟩
    · exact .inr ⟨_, _, member, .top⟩
    · exact .inr ⟨key, e, first, .inside within member⟩

theorem Layout.Keeps.of_entries (each : ∀ key e, (key, e) ∈ top.entries →
    e.template.Keeps allowed ∧ e.inside.Keeps allowed) : top.Keeps allowed := by
  intro l key e within member
  rcases within.split with rfl | ⟨key', e', first, within⟩
  · exact (each key e member).1
  · exact (each key' e' first).2 l key e within member

theorem Layout.keeps_empty (name : Text) : (Layout.empty name).Keeps allowed :=
  .of_entries fun _ _ member => nomatch member

theorem Layout.Keeps.lookup {name : Text} (keeps : top.Keeps allowed)
    (found : top.lookup? name = some e) : e.template.Keeps allowed ∧ e.inside.Keeps allowed := by
  have member := Keyed.mem_of_get? found
  refine ⟨keeps _ _ _ .top member, fun l key e' within inner => ?_⟩
  exact keeps l key e' (within.outside member) inner

theorem Scope.Keeps.resolve {scope : Scope} {name : Text} (keeps : top.Keeps allowed)
    (around : scope.Keeps allowed) (found : scope.resolve top name = .ok e) :
    e.template.Keeps allowed ∧ e.inside.Keeps allowed := by
  rw [Scope.resolve.eq_def] at found
  split at found
  · split at found
    · next there => cases found; exact keeps.lookup there
    · cases found
  · split at found
    · next there => cases found; exact Layout.Keeps.lookup around there
    · split at found
      · next there => cases found; exact keeps.lookup there
      · cases found

variable {home : Nat} {scope : Scope}

theorem keeps_instantiate (keeps : top.Keeps allowed) {scope : Scope} (around : scope.Keeps allowed)
    {c : Markup.Component} {content : Content}
    (made : instantiate home top scope c = .ok content) : content.Keeps allowed := by
  have instances : Instances home top (fun scope _ => scope.Keeps allowed)
    (Content.Keeps allowed) :=
    { outlet := .outlet
      text := fun _ s _ _ => .markdown home s
      value := fun around _ found _ => (around.resolve keeps found).2
      child := fun around _ found _ => (around.resolve keeps found).2
      component := fun around _ found fields _ =>
        .component (around.resolve keeps found).1 fields (around.resolve keeps found).2 }
  exact instances.content c around made

end

end

/-! ## What rendering asks for -/

theorem mem_elementSupplies {d : Host.Document} {n : Markdown.Node} {name : Text}
    {supplied : Supplied Content} (member : (name, supplied) ∈ elementSupplies d n) :
    (Site.elementName n = some "a" ∧ name = "Href".toList ∧ ∃ url, supplied = .string url) ∨
      ∃ place id, d.headingId? place = some id ∧ supplied = .string id := by
  rw [elementSupplies.eq_def] at member
  split at member
  · next url _ _ =>
    cases List.mem_singleton.1 member
    exact .inl ⟨rfl, rfl, url, rfl⟩
  · next place _ =>
    split at member
    · next id found =>
      cases List.mem_singleton.1 member
      exact .inr ⟨place, id, found, rfl⟩
    · cases member
  · cases member

theorem holds_elementSupplies {p : Content → Prop} {home : Nat} {d : Host.Document}
    {n : Markdown.Node} {schema : Schema} (text : ∀ f ∈ schema, f.kind = .component → ∀ name s,
      (name, Supplied.string s) ∈ elementSupplies d n → f.takes name → p (.markdown home s)) :
    (elementSupplies d n).Holds p (.markdown home) schema := by
  refine ⟨text, fun name c member => ?_⟩
  rcases mem_elementSupplies member with ⟨-, -, url, other⟩ | ⟨place, id, -, other⟩
  · cases other
  · cases other

theorem Change.apply_eq_some {held : Option β} {f : α → β} {change : Change α} {b : β}
    (there : change.apply held f = some b) : held = some b ∨ ∃ a, change = .put a ∧ f a = b := by
  cases change with
  | keep => exact .inl there
  | put part => exact .inr ⟨part, rfl, Option.some.inj there⟩
  | drop => cases there

namespace Web

variable {web : Web} {a b : Piece}

/-- What holds of all content in a context, of HTML, of what is below a component and of the parts
that a template mentions also holds in the context of what is asked for. -/
theorem Asks.held {p : Content → Prop} (asks : web.Asks a b) (html : ∀ t, p (.html t))
    (children : ∀ c, a.ctx.children = some c → p c) (slot : ∀ c, a.ctx.slot = some c → p c)
    (below : ∀ home name t props nodes space, a.content = .component home name t props nodes space →
      p (.nodes home nodes (.inside space)))
    (parts : ∀ t props part, a.content = .filled t props →
      (t.routine props a.ctx.view).Mentions part → p (part.content props a.ctx)) :
    (∀ c, b.ctx.children = some c → p c) ∧ ∀ c, b.ctx.slot = some c → p c := by
  cases asks with
  | component =>
    refine ⟨?_, slot⟩
    rintro c ⟨⟩
    exact below _ _ _ _ _ _ rfl
  | part asks =>
    constructor
    · intro c there
      rcases Change.apply_eq_some there with held | ⟨part, put, rfl⟩
      · exact children c held
      · exact parts _ _ part rfl ⟨_, _, asks, .inr (.inl put)⟩
    · intro c there
      rcases Change.apply_eq_some there with held | ⟨part, put, rfl⟩
      · exact slot c held
      · exact parts _ _ part rfl ⟨_, _, asks, .inr (.inr put)⟩
  | element =>
    refine ⟨?_, slot⟩
    rintro c ⟨⟩
    exact html _
  | outlet => exact ⟨children, nofun⟩
  | _ => exact ⟨children, slot⟩

variable {allowed : Routine → Prop}

theorem Asks.keeps (units : web.Keeps allowed) (asks : web.Asks a b) (keeps : a.Keeps allowed) :
    b.Keeps allowed := by
  obtain ⟨content, held⟩ := keeps
  have parts (t : Template) (props : Props Content) (part : Part)
    (same : a.content = .filled t props)
      (mentioned : (t.routine props a.ctx.view).Mentions part) :
      (part.content props a.ctx).Keeps allowed := by
    rw [same] at content
    cases content with | filled template fields =>
      exact (template.part mentioned).content fields held
  obtain ⟨children, slot⟩ := asks.held .html held.children held.slot
    (fun home name t props nodes space same => by
      rw [same] at content
      cases content with | component _ _ inside => exact .nodes inside) parts
  refine ⟨?_, children, slot⟩
  cases asks with
  | joined member => cases content with | join parts => exact parts _ member
  | component => cases content with | component template props _ => exact .filled template props
  | part asks => exact parts _ _ _ rfl ⟨_, _, asks, .inl rfl⟩
  | text => exact .markdown _ _
  | made _ made =>
    cases content with | nodes around => exact keeps_instantiate (units _) around made
  | markdown => exact .document _ _ _
  | markup => exact .nodes trivial
  | element inner _ taken bound =>
    refine .filled ?_ (Supplies.Holds.bind (holds_elementSupplies ?_) bound)
    · obtain ⟨name, -, taken⟩ := Option.bind_eq_some_iff.1 taken
      obtain ⟨t, found, same⟩ := Option.bind_eq_some_iff.1 taken
      cases same
      obtain ⟨e, there, rfl⟩ := Option.map_eq_some_iff.1 found
      exact ((units _).lookup there).1
    · exact fun _ _ _ _ s _ _ => .markdown _ s
  | outlet there => exact held.slot _ there

theorem Reaches.keeps (units : web.Keeps allowed) (reached : web.Reaches a b)
    (keeps : a.Keeps allowed) : b.Keeps allowed := by
  induction reached with
  | refl => exact keeps
  | tail _ asks ih => exact asks.keeps units ih

end Web
end Render
end Inlay
