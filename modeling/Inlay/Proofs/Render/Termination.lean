import Inlay.Proofs.Host.Findings
import Inlay.Proofs.Render.Provenance

namespace Inlay.Render

open Inlay.Host (preorder Calm Trusted)
open Inlay.Text (weight)

/-! ## Actions with outcomes -/

namespace Rendering

def Ends (a : Rendering α) : Prop := ∀ s, ∃ outcome, a s = some outcome

namespace Ends

theorem bind {a : Rendering α} {next : α → Rendering β} (first : a.Ends)
    (rest : ∀ answer, (next answer).Ends) : (a >>= next).Ends := by
  intro s
  obtain ⟨⟨answer, s'⟩, done⟩ := first s
  rw [bind_apply, done]
  cases answer with
  | error e => exact ⟨_, rfl⟩
  | ok answer => exact rest answer s'

theorem lift (action : Emit α) : (liftM action : Rendering α).Ends := fun _ => ⟨_, rfl⟩

theorem capture {a : Rendering Unit} (ends : a.Ends) : (capture a).Ends := by
  intro s
  obtain ⟨outcome, done⟩ := ends (.empty none)
  exact ⟨_, congrArg (Option.map _) done⟩

theorem inside {a : Rendering α} (component : Text) (ends : a.Ends) :
    (inside component a).Ends := by
  intro s
  obtain ⟨outcome, done⟩ := ends s
  exact ⟨_, congrArg (Option.map _) done⟩

theorem attempt {a : Rendering Unit} (ends : a.Ends) : (attempt a).Ends := by
  intro s
  obtain ⟨outcome, done⟩ := ends s
  exact ⟨_, congrArg (Option.map _) done⟩

theorem collect {a : Rendering Unit} (ends : a.Ends) : (collect a).Ends := by
  intro s
  obtain ⟨outcome, done⟩ := ends (.empty none)
  exact ⟨_, congrArg (Option.map _) done⟩

theorem catching : Catching fun _ a _ => Ends a where
  pure _ _ := ⟨_, rfl⟩
  throw _ _ := ⟨_, rfl⟩
  text s := lift (Emit.text s)
  bind := bind
  capture := capture
  inside := inside
  attempt := attempt
  collect := collect

end Ends
end Rendering

/-! ## Plain routines -/

inductive Part.Plain : Part → Prop
  | children : Plain .children
  | outlet : Plain .outlet
  | field (name : Text) : Plain (.field name)
  | html (text : Text) : Plain (.html text)

/-- Whether a routine renders component fields, the children and what is in the slot only, with the
slot as it is, with HTML in it or with nothing in it. -/
def Routine.Plain (r : Routine) : Prop :=
  ∀ part setting, r.Asks part setting → part.Plain ∧ setting.children = .keep ∧
    ∀ q, setting.slot = .put q → ∃ text, q = .html text

theorem Routine.Plain.mentions {r : Routine} {part : Part} (plain : r.Plain)
    (mentions : r.Mentions part) : part.Plain := by
  obtain ⟨asked, setting, asks, what⟩ := mentions
  obtain ⟨known, children, slot⟩ := plain asked setting asks
  rcases what with rfl | put | put
  · exact known
  · rw [children] at put
    cases put
  · obtain ⟨text, rfl⟩ := slot part put
    exact .html text

namespace Web

/-! ## Pieces that settle -/

/-- Whether nothing that a piece asks for goes on asking forever. -/
def Settles (web : Web) (a : Piece) : Prop := Acc (fun b a => web.Asks a b) a

open Classical in
noncomputable def renderEnding (web : Web) : Below := fun content ctx =>
  if (web.render content ctx).Ends then web.render content ctx else return ()

theorem ends_renderEnding (web : Web) (content : Content) (ctx : Context) :
    (web.renderEnding content ctx).Ends := by
  unfold renderEnding
  split
  · assumption
  · exact fun s => ⟨_, rfl⟩

variable {web : Web} {home : Nat} {ctx : Context}

theorem ends_level {below : Below} (ends : ∀ content ctx, (below content ctx).Ends)
    (content : Content) (ctx : Context) : (web.level below content ctx).Ends := by
  have catching := Rendering.Ends.catching
  have fills (t : Template) (props : Props Content) :
      (perform below props ctx (t.routine props ctx.view)).Ends :=
    @Rendering.Catching.perform _ catching (fun bytes => .lift (Emit.write bytes)) below below
      props ctx ctx _ fun _ _ _ => ends _ _
  exact @Rendering.Congruence.level _ catching.toCongruence below below ends web
    (fun home d source n entering => .lift ((web home).fallback d source n entering)) content ctx
    fun t props _ => fills t props

theorem Settles.ends {a : Piece} (settles : web.Settles a) :
    (web.render a.content a.ctx).Ends := by
  induction settles with
  | intro a _ ih =>
    -- all that is asked for ends, so the level cannot tell rendering from where rendering ends
    have same (asked : Piece) (asks : web.Asks a asked) :
        web.render asked.content asked.ctx = web.renderEnding asked.content asked.ctx :=
      (if_pos (ih asked asks)).symm
    rw [render_eq, level_congr same]
    exact ends_level web.ends_renderEnding a.content a.ctx

def SlotSettles (web : Web) (ctx : Context) : Prop :=
  ∀ c, ctx.slot = some c → ∀ ctx', ctx'.slot = none → web.Settles ⟨c, ctx'⟩

/-- Whether content settles in every context with a slot that does. -/
def Ready (web : Web) (c : Content) : Prop := ∀ ctx, web.SlotSettles ctx → web.Settles ⟨c, ctx⟩

theorem settles_html (text : Text) (ctx : Context) : web.Settles ⟨.html text, ctx⟩ :=
  .intro _ fun _ asks => nomatch asks

theorem ready_html (text : Text) : web.Ready (.html text) := fun ctx _ => settles_html text ctx

theorem ready_outlet : web.Ready .outlet := by
  refine fun ctx slot => .intro _ fun b asks => ?_
  cases asks with | outlet held => exact slot _ held ctx.withoutSlot rfl

theorem settles_filled {t : Template} {props : Props Content} (template : t.Keeps Routine.Plain)
    (fields : props.Holds web.Ready) (children : ∀ c, ctx.children = some c → web.Ready c)
    (slot : web.SlotSettles ctx) : web.Settles ⟨.filled t props, ctx⟩ := by
  refine .intro _ fun b asks => ?_
  cases asks with
  | @part _ _ _ part setting asks =>
    obtain ⟨plain, -, html⟩ := template.body props ctx.view part setting asks
    have around : web.SlotSettles (setting.context props ctx) := by
      intro c held
      rcases Change.apply_eq_some held with same | ⟨q, put, rfl⟩
      · exact slot c same
      · obtain ⟨text, rfl⟩ := html q put
        exact fun ctx' _ => settles_html text ctx'
    have ready : web.Ready (part.content props ctx) := by
      cases plain with
      | children => exact Part.Carries.getD (ready_html []) children
      | outlet => exact ready_outlet
      | field name =>
        exact Part.Carries.getD (ready_html []) fun c found => fields.of_component? found
      | html text => exact ready_html text
    exact ready _ around

/-! ## Markup -/

section

variable {scope : Scope}

theorem ready_component {name : Text} {t : Template} {props : Props Content}
    {nodes : List Markup.Node} {space : Layout} (template : t.Keeps Routine.Plain)
    (fields : props.Holds web.Ready) (inside : web.Ready (.nodes home nodes (.inside space))) :
    web.Ready (.component home name t props nodes space) := by
  refine fun ctx slot => .intro _ fun b asks => ?_
  cases asks with
  | component =>
    refine settles_filled template fields ?_ slot
    rintro c ⟨⟩
    exact inside

theorem ready_node_list {nodes : List Markup.Node}
    (texts : ∀ value, .text value ∈ nodes → web.Ready (.markdown home value))
    (components : ∀ c content, .component c ∈ nodes →
      instantiate home (web home).layout scope c = .ok content → web.Ready content) :
    web.Ready (.nodes home nodes scope) := by
  refine fun ctx slot => .intro _ fun b asks => ?_
  cases asks with
  | text member => exact texts _ member ctx slot
  | made member made => exact components _ _ member made ctx slot

def PartsReady (web : Web) (home : Nat) (parts : List Markup.Part) : Prop :=
  ∀ p ∈ parts, web.Ready (.markdown home p.text)

theorem ready_instantiate (units : (web home).layout.Keeps Routine.Plain) {scope : Scope}
    (around : scope.Keeps Routine.Plain) {c : Markup.Component}
    (parts : web.PartsReady home c.parts) {content : Content}
    (made : instantiate home (web home).layout scope c = .ok content) : web.Ready content := by
  have instances : Instances home (web home).layout
      (fun scope c => scope.Keeps Routine.Plain ∧ web.PartsReady home c.parts) web.Ready :=
    { outlet := ready_outlet
      text := fun _ _ known written =>
        known.2 _ (Markup.Component.parts_of_property written List.mem_cons_self)
      value := fun known _ found written =>
        ⟨(known.1.resolve units found).2, fun p part =>
          known.2 p (Markup.Component.parts_of_property written part)⟩
      child := fun known _ found member =>
        ⟨(known.1.resolve units found).2, fun p part =>
          known.2 p (Markup.Component.parts_of_children
            (Markup.parts_subset_nodesParts member part))⟩
      component := fun known _ found fields children =>
        ready_component (known.1.resolve units found).1 fields <|
          ready_node_list (fun _ member => known.2 _
            (Markup.Component.parts_of_children (Markup.line_mem_nodesParts member))) children }
  exact instances.content c ⟨around, parts⟩ made

theorem ready_nodes (units : (web home).layout.Keeps Routine.Plain)
    (around : scope.Keeps Routine.Plain) {nodes : List Markup.Node}
    (parts : web.PartsReady home (Markup.nodesParts nodes)) :
    web.Ready (.nodes home nodes scope) := by
  refine ready_node_list (fun _ member => parts _ (Markup.line_mem_nodesParts member)) ?_
  intro c content member made
  refine ready_instantiate units around (fun p part => parts p ?_) made
  exact Markup.parts_subset_nodesParts member part

end

/-! ## Documents -/

/-- Whether no address of a link is rendered as Markdown: the component for links has no component
field that takes it. -/
def PlainLinks (site : Site) : Prop :=
  ∀ t, site.layout.get? "a".toList = some t → ∀ f ∈ t.schema, f.kind = .component →
    ¬f.takes "Href".toList

/-- What rendering a text may go through: more than its texts can, and more than any id can. -/
def burden (source : Text) : Nat := if Calm source then 0 else weight source + 1

section

variable (units : (web home).layout.Keeps Routine.Plain) (trusted : Trusted (web home).reader)
  (links : PlainLinks (web home))
include units trusted links

theorem ready_document {source : Text} {d : Host.Document} (read : (web home).read source = .ok d)
    (lighter : ∀ s, burden s < burden source → web.Ready (.markdown home s)) :
    web.Ready (.document home d source) := by
  have parsed : Host.Document.parse (web home).reader (web home).options.reading
      (web home).options.trigger source = .ok d := by
    unfold Site.read at read
    split at read
    · cases read; assumption
    · cases read
  refine fun ctx slot => .intro _ fun b asks => ?_
  cases asks with
  | markup member found =>
    -- each text of the markup weighs less than the source
    obtain ⟨less, busy⟩ := Host.Document.weigh_markup_lt trusted parsed member found
    have top : Scope.top.Keeps Routine.Plain := trivial
    refine ready_nodes units top (fun p part => lighter p.text ?_) ctx slot
    have light := Markup.weight_le_weigh part
    rw [burden, burden, if_neg busy]
    split <;> omega
  | element inner _ taken bound =>
    obtain ⟨name, named, taken⟩ := Option.bind_eq_some_iff.1 taken
    obtain ⟨t, there, same⟩ := Option.bind_eq_some_iff.1 taken
    cases same
    have template : t.Keeps Routine.Plain := by
      obtain ⟨e, found, rfl⟩ := Option.map_eq_some_iff.1 there
      exact (units.lookup found).1
    refine settles_filled template (Supplies.Holds.bind (holds_elementSupplies ?_) bound) ?_ slot
    · intro f field kind name s supplied takes
      rcases mem_elementSupplies supplied with ⟨link, rfl, -⟩ | ⟨place, id, given, same⟩
      · rw [link] at named
        cases named
        exact absurd takes (links t there f field kind)
      -- an id may be as long as the source, but is calm
      · cases same
        obtain ⟨calm, busy⟩ := Host.Document.calm_headingId trusted parsed given
        refine lighter s ?_
        rw [burden, burden, if_pos calm, if_neg busy]
        exact Nat.succ_pos _
    · rintro c ⟨⟩
      exact ready_html _

theorem ready_markdown (source : Text) : web.Ready (.markdown home source) := by
  induction h : burden source using Nat.strongRecOn generalizing source with
  | ind n ih =>
    subst h
    refine fun ctx slot => .intro _ fun b asks => ?_
    cases asks with
    | markdown read =>
      exact ready_document units trusted links read (fun s less => ih _ less s rfl) ctx slot

end

/-! ## Results -/

theorem Asks.slot_cases {a b : Piece} (asks : web.Asks a b) (keeps : a.Keeps Routine.Plain) :
    b.ctx.slot = a.ctx.slot ∨ b.ctx.slot = none ∨ ∃ html, b.ctx.slot = some (.html html) := by
  cases asks with
  | @part t props ctx part setting asks =>
    obtain ⟨filled, -⟩ := keeps
    cases filled with
    | filled template _ =>
      obtain ⟨-, -, html⟩ := template.body props ctx.view part setting asks
      cases change : setting.slot with
      | keep => exact .inl (by rw [Setting.context, change]; rfl)
      | drop => exact .inr (.inl (by rw [Setting.context, change]; rfl))
      | put q =>
        obtain ⟨text, rfl⟩ := html q change
        exact .inr (.inr ⟨text, by rw [Setting.context, change]; rfl⟩)
  | outlet => exact .inr (.inl rfl)
  | _ => exact .inl rfl

theorem slot_of_reaches (units : web.Keeps Routine.Plain) {c c' : Content} {b : Piece}
    (keeps : Piece.Keeps Routine.Plain ⟨c, ctx⟩) (reached : web.Reaches ⟨c, ctx.withoutSlot⟩ b)
    (held : b.ctx.slot = some c') : ∃ html, c' = .html html := by
  have start : Piece.Keeps Routine.Plain ⟨c, ctx.withoutSlot⟩ :=
    ⟨keeps.content, keeps.ctx.children, nofun⟩
  have kept : b.ctx.slot = none ∨ ∃ html, b.ctx.slot = some (.html html) := by
    clear held
    induction reached with
    | refl => exact .inl rfl
    | tail before asks ih =>
      exact (asks.slot_cases (Reaches.keeps units before start)).elim (fun same => same ▸ ih) id
  rcases kept with none | ⟨html, there⟩
  · rw [none] at held
    cases held
  · rw [there] at held
    cases held
    exact ⟨html, rfl⟩

section

variable (units : (web home).layout.Keeps Routine.Plain) (trusted : Trusted (web home).reader)
  (links : PlainLinks (web home))
include units trusted links

theorem convert_ends (source : Text) (slot : web.SlotSettles ctx) :
    (web.convert home source ctx).Ends :=
  (ready_markdown units trusted links source ctx slot).ends

theorem renderPage_ends (frame source : Text) (page : Page) :
    (web.renderPage home frame source page).Ends := by
  unfold renderPage prepare
  cases read : (web home).read source with
  | error error => exact fun s => ⟨_, rfl⟩
  | ok d =>
    refine convert_ends units trusted links frame ?_
    -- the page is what is in the slot, and is rendered without a slot
    rintro c ⟨⟩ ctx none
    refine ready_document units trusted links read
      (fun s _ => ready_markdown units trusted links s) ctx ?_
    intro c held
    rw [none] at held
    cases held

end

/-- Rendering ends, on every source and for every page, if no address of a link is rendered as
Markdown.  No text in markup weighs more than the markup, and what is in the slot is never rendered
inside of itself: all that may be in a slot there is HTML. -/
theorem rendering_ends (units : web.Keeps Routine.Plain)
    (trusted : ∀ home, Trusted (web home).reader) (links : ∀ home, PlainLinks (web home)) :
    (∀ home source s, ∃ outcome, web.convert home source .empty s = some outcome) ∧
    (∀ home frame source page s, ∃ outcome,
      web.renderPage home frame source page s = some outcome) ∧
    (∀ source d, Markup.parse source = .ok d →
      ∀ p ∈ d.parts, weight p.text ≤ weight source) ∧
    ∀ (c : Content) (ctx : Context) (b : Piece) (c' : Content),
      Piece.Keeps Routine.Plain ⟨c, ctx⟩ → web.Reaches ⟨c, ctx.withoutSlot⟩ b →
      b.ctx.slot = some c' → ∃ html, c' = .html html := by
  have lighter {source : Text} {d : Markup.Document} (parsed : Markup.parse source = .ok d)
      (p : Markup.Part) (part : p ∈ d.parts) : weight p.text ≤ weight source :=
    Nat.le_trans (Markup.weight_le_weigh part) (Markup.weigh_parse parsed)
  refine ⟨fun home source => ?_, fun home =>
    renderPage_ends (units home) (trusted home) (links home),
    fun _ _ => lighter, fun _ _ _ _ => slot_of_reaches units⟩
  exact convert_ends (units home) (trusted home) (links home) source fun _ none => nomatch none

/-! ## A link to itself -/

def linkTemplate (kind : Kind) : Template :=
  ⟨[⟨"Href".toList, kind⟩], fun _ _ => .text ['x'] <| .part (.field "Href".toList) .ended⟩

def bareLink : Text := "http://a.b".toList

def bareLinkDocument : Host.Document :=
  ⟨.branch .root [.branch .paragraph [.branch (.link bareLink none) [.leaf (.text bareLink)]]],
    Host.defaultTrigger, .empty⟩

def linkKit : Kit := ⟨.ofKnown [(bareLink, bareLinkDocument.root)], .named⟩

def linkSite (kind : Kind) : Site :=
  .ofLayout linkKit ⟨[], [(['a'], ⟨['a'], linkTemplate kind, .empty ['a']⟩)]⟩ .default

def linkWeb (kind : Kind) : Web := (linkSite kind).web

theorem read_bareLink (kind : Kind) : (linkWeb kind 0).read bareLink = .ok bareLinkDocument := by
  cbv

theorem trusted_linkKit : Trusted linkKit.reader := by
  -- there is neither code nor a heading in what is read
  have plain (o : Markdown.Options) (source : Text) (root : Markdown.Node)
      (read : linkKit.reader o source = .ok root) :
      ∀ n ∈ preorder root, Host.code? n = none ∧ Host.heading? n = none := by
    have cases : root = bareLinkDocument.root ∨
        root = .branch .root [.branch .paragraph [.leaf (.text source)]] := by
      cases known : bareLink == source with
      | true =>
        simp only [linkKit, Markdown.Reader.ofKnown, List.find?_cons, known] at read
        exact .inl (Except.ok.inj read).symm
      | false =>
        simp only [linkKit, Markdown.Reader.ofKnown, List.find?_cons, known, List.find?_nil] at read
        exact .inr (Except.ok.inj read).symm
    rcases cases with rfl | rfl <;>
      simp [preorder, Host.preorders, Host.code?, Host.heading?, bareLinkDocument]
  constructor
  · intro o source root read n member c code
    rw [(plain o source root read n member).1] at code
    cases code
  · intro o source root read _ n member
    refine ⟨fun c code => ?_, (plain o source root read n member).2⟩
    rw [(plain o source root read n member).1] at code
    cases code

theorem keeps_linkWeb (kind : Kind) : (linkWeb kind).Keeps Routine.Plain := by
  intro home
  refine .of_entries fun key e member => ?_
  cases List.mem_singleton.1 member
  have only {props : Props Unit} {view : View} {part : Part} {setting : Setting}
      (asks : ((linkTemplate kind).body props view).Asks part setting) :
      part = .field "Href".toList ∧ setting = .same :=
    asks.of_text.of_part.resolve_right Routine.not_asks_ended
  refine ⟨.intro (fun props view part setting asks => ?_) fun props view part mentions => ?_,
    Layout.keeps_empty _⟩
  · obtain ⟨rfl, rfl⟩ := only asks
    exact ⟨.field _, rfl, fun q put => nomatch put⟩
  · rcases Routine.mentions_part (Routine.mentions_text mentions) with rfl | later
    · exact .field _
    · exact absurd later Routine.not_mentions_ended

theorem link_ends_as_text :
    Trusted linkKit.reader ∧ PlainLinks (linkWeb .string 0) ∧
      (∃ outcome, (linkWeb .string).convert 0 bareLink .empty (.empty none) = some outcome) ∧
      ∃ outcome, (linkWeb .string).renderPage 0 bareLink bareLink .empty (.empty none) =
        some outcome := by
  have links : PlainLinks (linkWeb .string 0) := by
    rintro t there f field kind
    cases there
    cases List.mem_singleton.1 field
    cases kind
  obtain ⟨converts, pages, -, -⟩ := rendering_ends (keeps_linkWeb .string)
    (fun _ => trusted_linkKit) fun _ => links
  exact ⟨trusted_linkKit, links, converts _ _ _, pages _ _ _ _ _⟩

def Hangs (a : Rendering α) : Prop := ∀ s, s.room = none → a s = none

def Answers (a : Rendering α) (answer : α) : Prop :=
  ∀ s, s.room = none → ∃ s', a s = some (.ok answer, s') ∧ s'.room = none

theorem Hangs.bind {a : Rendering α} {next : α → Rendering β} (hangs : Hangs a) :
    Hangs (a >>= next) := by
  intro s room
  rw [Rendering.bind_apply, hangs s room]

theorem Answers.then_hangs {a : Rendering α} {answer : α} {next : α → Rendering β}
    (answers : Answers a answer) (hangs : Hangs (next answer)) : Hangs (a >>= next) := by
  intro s room
  obtain ⟨s', done, room'⟩ := answers s room
  rw [Rendering.bind_apply, done]
  exact hangs s' room'

theorem Answers.bind {a : Rendering α} {answer : α} {next : α → Rendering β} {answer' : β}
    (answers : Answers a answer) (later : Answers (next answer) answer') :
    Answers (a >>= next) answer' := by
  intro s room
  obtain ⟨s', done, room'⟩ := answers s room
  rw [Rendering.bind_apply, done]
  exact later s' room'

theorem answers_pure (answer : α) : Answers (pure answer : Rendering α) answer :=
  fun s room => ⟨s, rfl, room⟩

theorem answers_write (bytes : List UInt8) :
    Answers (liftM (Emit.write bytes) : Rendering Unit) () := by
  rintro ⟨written, room⟩ rfl
  exact ⟨⟨written ++ bytes, none⟩, rfl, rfl⟩

theorem answers_text (s : Text) (answer : α) :
    Answers (liftM (do Emit.text s; return answer : Emit α)) answer := by
  rw [Rendering.lift_bind]
  exact (answers_write s.utf8).bind (answers_pure answer)

theorem Hangs.inside {a : Rendering α} (name : Text) (hangs : Hangs a) :
    Hangs (Rendering.inside name a) := by
  intro s room
  rw [Rendering.inside, hangs s room]
  rfl

theorem Hangs.first {visit : Visitor Rendering} {n : Markdown.Node} {ns : List Markdown.Node}
    (hangs : Hangs (tour visit n)) : Hangs (tourAll visit (n :: ns)) := hangs.bind

theorem Hangs.branch {visit : Visitor Rendering} {b : Markdown.Branch} {ns : List Markdown.Node}
    (enters : Answers (visit (.branch b ns) (tourEach visit ns) true) .continue)
    (inside : Hangs (tourAll visit ns)) : Hangs (tour visit (.branch b ns)) := by
  rw [tour, tourNode]
  exact enters.then_hangs inside.bind

theorem answers_capture {a : Rendering Unit} (answers : Answers a ()) :
    ∃ inner, Answers (Rendering.capture a) inner := by
  obtain ⟨s', done, -⟩ := answers (.empty none) rfl
  refine ⟨s'.written.toList, fun s room => ⟨s, ?_, room⟩⟩
  rw [Rendering.capture, done]
  rfl

def linkProps : Props Content := [("href".toList, .component (.markdown 0 bareLink))]

theorem hangs_linkDocument {below : Below}
    (filled : ∀ ctx, Hangs (below (.filled (linkTemplate .component) linkProps) ctx)) :
    Hangs ((linkWeb .component).document 0 below bareLinkDocument bareLink ctx) := by
  let visit := (linkWeb .component).visit 0 below bareLinkDocument bareLink ctx
  let link : Markdown.Node := .branch (.link bareLink none) [.leaf (.text bareLink)]
  have inside : Answers (tour visit (.leaf (.text bareLink))) .continue := by
    rw [tour, tourNode]
    refine (answers_text bareLink Status.continue).bind ?_
    exact (answers_pure Status.continue).bind (answers_pure Status.continue)
  have each : Answers (tourEach visit [.leaf (.text bareLink)]) () := by
    rw [tourEach]
    exact inside.bind (answers_pure ())
  obtain ⟨inner, captured⟩ := answers_capture each
  have hangs : Hangs (tour visit link) := by
    rw [tour, tourNode]
    exact Hangs.bind (Hangs.bind (captured.then_hangs (Hangs.inside _ (filled _))))
  have paragraph : Hangs (tour visit (.branch .paragraph [link])) :=
    .branch (answers_text _ _) hangs.first
  have root : Hangs (tour visit bareLinkDocument.root) := .branch (answers_text _ _) paragraph.first
  exact root.bind

def LinksToItself (c : Content) : Prop :=
  c = .markdown 0 bareLink ∨ c = .document 0 bareLinkDocument bareLink ∨
    c = .filled (linkTemplate .component) linkProps

theorem hangs_level {below : Below} {c : Content}
    (hang : ∀ c ctx, LinksToItself c → Hangs (below c ctx)) (links : LinksToItself c) :
    Hangs ((linkWeb .component).level below c ctx) := by
  rcases links with rfl | rfl | rfl
  · simp only [level, read_bareLink]
    exact hang _ ctx (.inr (.inl rfl))
  · exact hangs_linkDocument fun ctx => hang _ ctx (.inr (.inr rfl))
  · have filled : (linkWeb .component).level below
        (.filled (linkTemplate .component) linkProps) ctx =
        (do Emit.text ['x']; below (.markdown 0 bareLink) ctx; return ()) :=
      (perform_text ..).trans <| congrArg _ <| funext fun _ => perform_part ..
    rw [filled]
    exact (answers_write _).then_hangs (Hangs.bind (hang _ ctx (.inl rfl)))

/-- A link that is rendered as Markdown is the same link again. -/
theorem link_to_itself_never_ends :
    (linkWeb .component).convert 0 bareLink .empty (.empty none) = none := by
  have hangs (c : Content) (ctx : Context) (links : LinksToItself c) :
      Hangs ((linkWeb .component).render c ctx) := by
    intro s room
    cases found : (linkWeb .component).render c ctx s with
    | none => rfl
    | some outcome =>
      -- an outcome would come from a level whose levels below have none
      refine ((linkWeb .component).render_induction
        (fun c _ s _ => LinksToItself c → s.room ≠ none) ?_ c ctx s outcome found links room).elim
      intro below motive c ctx s outcome found links room
      have hang (c : Content) (ctx : Context) (links : LinksToItself c) : Hangs (below c ctx) := by
        intro s room
        cases found : below c ctx s with
        | none => rfl
        | some outcome => exact (motive c ctx s outcome found links room).elim
      rw [hangs_level hang links s room] at found
      cases found
  exact hangs _ .empty (.inl rfl) _ rfl

end Web
end Inlay.Render
