import Inlay.Proofs.Render.Unseen

namespace Inlay.Render

open Inlay.Markdown (Node)

namespace Web

variable {web : Web}

theorem render_congr (web : Web) {content : Content} {ctx ctx' : Context} (blind : content.blind)
    (closed : ctx.isSealed) (page : ctx.page = ctx'.page) (slot : ctx.slot = ctx'.slot) :
    web.render content ctx = web.render content ctx' := by
  have other : ctx' = ctx.having ctx'.children := by
    obtain ⟨children', slot', page'⟩ := ctx'
    cases page
    cases slot
    rfl
  rw [other]
  exact render_having (spares_of_blind (a := ⟨content, ctx⟩) blind closed _)

/-- Whether one piece comes to be rendered for another one, with the same in the slot all the
way. -/
def KeepsSlot (web : Web) : Piece → Piece → Prop :=
  Relation.ReflTransGen fun a b => web.Asks a b ∧ b.ctx.slot = a.ctx.slot

theorem KeepsSlot.slot_eq {a b : Piece} (reached : web.KeepsSlot a b) :
    b.ctx.slot = a.ctx.slot := by
  induction reached with
  | refl => rfl
  | tail _ last ih => exact last.2.trans ih

section

variable {home : Nat} {slot : Content} {source frame : Text} {page : Page}

/-- What can be in the slot of a page: nothing, some HTML, or a document. -/
inductive Supplied (web : Web) : Option Content → Prop
  | nothing : Supplied web none
  | html (text : Text) : Supplied web (some (.html text))
  | document {home : Nat} {source : Text} {slot : Content} : web.prepare home source = .ok slot →
      Supplied web (some slot)

theorem prepare_eq_ok (prepared : web.prepare home source = .ok slot) :
    ∃ d, (web home).read source = .ok d ∧ slot = .document home d source := by
  obtain ⟨d, found, rest⟩ := Attempt.bind_eq_ok.1 prepared
  cases rest
  exact ⟨d, found, rfl⟩

theorem Supplied.isSealed {ctx : Context} (supplied : web.Supplied ctx.slot) : ctx.isSealed := by
  rw [Context.isSealed]
  generalize ctx.slot = held at supplied
  cases supplied with
  | nothing => rfl
  | html text => rfl
  | document prepared =>
    obtain ⟨d, -, rfl⟩ := prepare_eq_ok prepared
    rfl

theorem convert_of_read {d : Host.Document} (found : (web home).read source = .ok d)
    (ctx : Context) :
    web.convert home source ctx = web.render (.document home d source) ctx := by
  rw [convert, render_eq]
  simp only [level, found]

theorem convert_of_error {e : Error} (refused : (web home).read source = .error e) (ctx : Context) :
    web.convert home source ctx = throw e := by
  rw [convert, render_eq]
  simp only [level, refused]

theorem render_outlet {ctx : Context} (held : ctx.slot = some slot) :
    web.render .outlet ctx = web.render slot ctx.withoutSlot := by
  rw [render_eq, level, outlet, held]

theorem render_outlet_of_prepare {ctx : Context} (prepared : web.prepare home source = .ok slot)
    (held : ctx.slot = some slot) (about : ctx.page = some page) :
    web.render .outlet ctx = web.convert home source (Context.empty.withPage page) := by
  obtain ⟨d, found, rfl⟩ := prepare_eq_ok prepared
  rw [render_outlet held, convert_of_read found]
  exact web.render_congr rfl rfl about rfl

theorem text_nil : Emit.text [] = pure () := by
  funext s
  obtain ⟨written, room⟩ := s
  cases room with
  | none => simp [Emit.text, Emit.write, Text.utf8]; rfl
  | some n => simp [Emit.text, Emit.write, Text.utf8]; rfl

theorem htmlFallback_root (escape : Html.Escape) (raw : Bool) (d : Host.Document) (source : Text)
    (ns : List Node) (entering : Bool) :
    htmlFallback escape raw d source (.branch .root ns) entering = pure .continue := by
  have silent : (do Emit.text []; return .continue : Emit Status) = pure .continue := by
    rw [text_nil, pure_bind]
  cases entering with
  | true => exact silent
  | false => exact silent

theorem render_single {d : Host.Document} {n : Node} {nodes : List Markup.Node}
    {escape : Html.Escape} {raw : Bool}
    (html : (web home).fallback = htmlFallback escape raw) (single : d.root = .branch .root [n])
    (found : d.markup? n = some nodes) (ctx : Context) :
    web.render (.document home d source) ctx = web.render (.nodes home nodes .top) ctx := by
  have outside (each : Rendering Unit) (entering : Bool) :
      web.visit home web.render d source ctx (.branch .root [n]) each entering =
        pure .continue := by
    have silent := htmlFallback_root escape raw d source [n] entering
    have visited : web.visit home web.render d source ctx (.branch .root [n]) each entering =
        liftM ((web home).fallback d source (.branch .root [n]) entering) := rfl
    rw [visited, html, silent]
    rfl
  have inside (each : Rendering Unit) (walk : Rendering Status) :
      tourNode (web.visit home web.render d source ctx) n each walk = do
        web.render (.nodes home nodes .top) ctx
        return .skipChildren := by
    simp [tourNode, visit, found]
  rw [render_eq]
  simp only [level, document, single]
  rw [tour, tourNode, outside, outside, tourAll, tourAll]
  cases n with
  | leaf l => simp [tour, inside]
  | branch b below => simp [tour, inside]

theorem convert_place {d : Host.Document} {n : Node} {c : Markup.Component}
    {escape : Html.Escape} {raw : Bool}
    (html : (web home).fallback = htmlFallback escape raw) (read : (web home).read frame = .ok d)
    (single : d.root = .branch .root [n]) (found : d.markup? n = some [.component c])
    (named : c.name = slotName) (ctx : Context) :
    web.convert home frame ctx = web.render .outlet ctx := by
  have made : instantiate home (web home).layout .top c = .ok .outlet := by
    obtain ⟨name, properties, below, location⟩ := c
    rw [instantiate, if_pos named]
  rw [convert_of_read read, render_single html single found, render_eq]
  simp [level, node, made]

theorem renderPage_place {d : Host.Document} {n : Node} {c : Markup.Component}
    {escape : Html.Escape} {raw : Bool}
    (html : (web home).fallback = htmlFallback escape raw) (read : (web home).read frame = .ok d)
    (single : d.root = .branch .root [n]) (found : d.markup? n = some [.component c])
    (named : c.name = slotName) :
    web.renderPage home frame source page =
      web.convert home source (Context.empty.withPage page) := by
  rw [renderPage]
  cases outcome : (web home).read source with
  | ok d =>
    have prepared : web.prepare home source = .ok (.document home d source) := by
      rw [prepare, outcome]
      rfl
    rw [prepared]
    exact (convert_place html read single found named _).trans
      (render_outlet_of_prepare prepared rfl rfl)
  | error e =>
    have refused : web.prepare home source = .error e := by rw [prepare, outcome]; rfl
    rw [refused, convert_of_error outcome]

end

section

variable {home : Nat} {scope : Scope} {c : Markup.Component} {name : Text} {t : Template}
  {props : Props Content} {nodes : List Markup.Node} {space : Layout}

theorem render_component (made : instantiate home (web home).layout scope c =
      .ok (.component home name t props nodes space)) (ctx : Context) :
    web.render (.nodes home [.component c] scope) ctx = Rendering.inside name
      (web.render (.filled t props) (ctx.withChildren (.nodes home nodes (.inside space)))) := by
  rw [render_eq]
  simp [level, node, made, render_eq _ (.component ..)]

theorem render_place (properties : List Markup.Property) (below : List Markup.Node)
    (location : Markup.Location) (scope : Scope) (ctx : Context) :
    web.render (.nodes home [.component ⟨slotName, properties, below, location⟩] scope) ctx =
      outlet web.render ctx := by
  have made : instantiate home (web home).layout scope ⟨slotName, properties, below, location⟩ =
      .ok .outlet := by rw [instantiate, if_pos rfl]
  rw [render_eq]
  simp [level, node, made, render_eq _ .outlet]

theorem keepsSlot_frame {frame : Text} {d : Host.Document} {n : Node} {place : Markup.Component}
    {ctx : Context} {setting : Setting} (read : (web home).read frame = .ok d)
    (member : n ∈ Host.preorder d.root) (found : d.markup? n = some [.component c])
    (made : instantiate home (web home).layout .top c =
      .ok (.component home name t props [.component place] space))
    (asks : (t.routine props
      (ctx.withChildren (.nodes home [.component place] (.inside space))).view).Asks
        .children setting)
    (kept : setting.slot = .keep)
    (made_place : instantiate home (web home).layout (.inside space) place = .ok .outlet) :
    web.KeepsSlot ⟨.markdown home frame, ctx⟩ ⟨.outlet, setting.context props
      (ctx.withChildren (.nodes home [.component place] (.inside space)))⟩ := by
  let around := ctx.withChildren (.nodes home [.component place] (.inside space))
  have slot : (setting.context props around).slot = around.slot := by
    rw [Setting.context, kept]
    rfl
  refine .head ⟨.markdown read, rfl⟩ <| .head ⟨.markup member found, rfl⟩ <|
    .head ⟨.made List.mem_cons_self made, rfl⟩ <| .head ⟨.component, rfl⟩ <|
    .head ⟨.part asks, slot⟩ <| .single ⟨.made List.mem_cons_self made_place, rfl⟩

end

/-- What is rendered does not see the children of what is around it, so contexts with the same page
and the same slot are the same to it.  A page in a frame that is nothing but the place for it is the
page alone.  And in all frames, at any depth, the place for the page is the page alone as long as no
component around it changes what is in the slot, nor the page itself. -/
theorem convert_hygienic (web : Web) (home : Nat) :
    (∀ (source : Text) (ctx ctx' : Context), ctx.page = ctx'.page → ctx.slot = ctx'.slot →
      web.Supplied ctx.slot → web.convert home source ctx = web.convert home source ctx') ∧
    (∀ (frame source : Text) (page : Page) (escape : Html.Escape) (raw : Bool) (d : Host.Document)
        (n : Node) (c : Markup.Component), (web home).fallback = htmlFallback escape raw →
      (web home).read frame = .ok d → d.root = .branch .root [n] →
      d.markup? n = some [.component c] → c.name = slotName →
      web.renderPage home frame source page =
        web.convert home source (Context.empty.withPage page)) ∧
    (∀ (frame source : Text) (page : Page) (slot : Content) (ctx : Context),
      web.prepare home source = .ok slot →
      web.KeepsSlot ⟨.markdown home frame, (Context.empty.withPage page).withSlot slot⟩
        ⟨.outlet, ctx⟩ →
      ctx.page = some page →
      web.render .outlet ctx = web.convert home source (Context.empty.withPage page)) := by
  refine ⟨?hygiene, ?single, ?anywhere⟩
  case hygiene =>
    intro source ctx ctx' page slot supplied
    exact web.render_congr rfl supplied.isSealed page slot
  case single =>
    intro frame source page escape raw d n c html read single found named
    exact renderPage_place html read single found named
  case anywhere =>
    intro frame source page slot ctx prepared reached about
    exact render_outlet_of_prepare prepared reached.slot_eq about

def bracket : Entry :=
  ⟨['B'], ⟨[], fun _ _ => .text ['['] <| .part .children <| .text [']'] .ended⟩, .empty ['B']⟩

def placeFrame : Text := "```u\n\\Slot\n```".toList

def bracketFrame : Text := "```u\n\\B\n    \\Slot\n```".toList

def nestedFrame : Text := "```u\n\\B\n    \\B\n        \\Slot\n```".toList

def textInBrackets : Text := "c\n\n```u\n\\B\n    c\n```".toList

def markupNode (value : String) (line offset : Nat) : Node :=
  .leaf (.code (some ['u']) value.toList (.known line offset))

def bracketKit : Kit where
  reader := .ofKnown [(placeFrame, .branch .root [markupNode "\\Slot" 1 0]),
    (bracketFrame, .branch .root [markupNode "\\B\n    \\Slot" 1 0]),
    (nestedFrame, .branch .root [markupNode "\\B\n    \\B\n        \\Slot" 1 0]),
    (textInBrackets, .branch .root [.branch .paragraph [.leaf (.text ['c'])],
      markupNode "\\B\n    c" 3 3])]
  escape := .named

def bracketSite : Site := .ofLayout bracketKit ⟨[], [(['b'], bracket)]⟩ ⟨['u'], true, false⟩

def bracketWeb : Web := bracketSite.web

theorem keeps_bracketWeb {allowed : Routine → Prop}
    (body : ∀ props view, allowed (bracket.template.body props view)) :
    bracketWeb.Keeps allowed := by
  intro home
  refine .of_entries fun key e member => ?_
  cases List.mem_singleton.1 member
  refine ⟨.intro body fun props view part mentions => ?_, Layout.keeps_empty _⟩
  rcases Routine.mentions_part (Routine.mentions_text mentions) with rfl | later
  · exact .children
  · exact (Routine.not_mentions_ended (Routine.mentions_text later)).elim

theorem render_bracket {below : List Markup.Node} {location : Markup.Location}
    {scope : Scope}
    (made : instantiate 0 (bracketWeb 0).layout scope ⟨['B'], [], below, location⟩ =
      .ok (.component 0 ['B'] bracket.template [] below bracket.inside)) (ctx : Context) :
    bracketWeb.render (.nodes 0 [.component ⟨['B'], [], below, location⟩] scope) ctx =
      Rendering.inside ['B'] (do
        Emit.text ['[']
        bracketWeb.render (.nodes 0 below (.inside bracket.inside))
          (ctx.withChildren (.nodes 0 below (.inside bracket.inside)))
        Emit.text [']']) := by
  rw [render_component made, render_eq]
  refine congrArg _ ((perform_text ..).trans <| congrArg _ <| funext fun _ => ?_)
  exact (perform_part ..).trans <| congrArg _ <| funext fun _ =>
    (perform_text ..).trans (bind_pure _)

def bracketed (ctx : Context) : Context :=
  ctx.withChildren (.nodes 0 [.component ⟨slotName, [], [], ⟨2, 5⟩⟩] (.inside bracket.inside))

theorem keepsSlot_bracketFrame (ctx : Context) :
    bracketWeb.KeepsSlot ⟨.markdown 0 bracketFrame, ctx⟩ ⟨.outlet, bracketed ctx⟩ := by
  let place : Markup.Component := ⟨slotName, [], [], ⟨2, 5⟩⟩
  let around : Markup.Component := ⟨['B'], [], [.component place], ⟨1, 1⟩⟩
  let n : Node := .leaf (.code (some ['u']) "\\B\n    \\Slot".toList (.known 1 0))
  let d : Host.Document := ⟨.branch .root [n], ['u'], ⟨[(0, ⟨[.component around]⟩)], [], .empty⟩⟩
  have read : (bracketWeb 0).read bracketFrame = .ok d := by cbv
  exact keepsSlot_frame read (List.mem_cons_of_mem _ List.mem_cons_self) rfl rfl
    (.written none .render) rfl rfl

/-- Some HTML in the slot around other children, a frame that is the place for the page, and a frame
with this place in brackets. -/
theorem hygienic_in_brackets :
    (bracketWeb.convert 0 ['h', 'i'] ⟨none, some (.html ['s']), none⟩ =
      bracketWeb.convert 0 ['h', 'i'] ⟨some (.html ['c']), some (.html ['s']), none⟩) ∧
    (bracketWeb.renderPage 0 placeFrame ['h', 'i'] .empty =
      bracketWeb.convert 0 ['h', 'i'] (Context.empty.withPage .empty)) ∧
    ∃ slot, bracketWeb.prepare 0 ['h', 'i'] = .ok slot ∧
      bracketWeb.render .outlet (bracketed ((Context.empty.withPage .empty).withSlot slot)) =
        bracketWeb.convert 0 ['h', 'i'] (Context.empty.withPage .empty) := by
  obtain ⟨hygiene, single, anywhere⟩ := convert_hygienic bracketWeb 0
  refine ⟨hygiene _ _ _ rfl rfl (.html _), ?_, ?_⟩
  · let place : Markup.Component := ⟨slotName, [], [], ⟨1, 1⟩⟩
    let n : Node := .leaf (.code (some ['u']) "\\Slot".toList (.known 1 0))
    let d : Host.Document := ⟨.branch .root [n], ['u'], ⟨[(0, ⟨[.component place]⟩)], [], .empty⟩⟩
    exact single _ _ _ .named false d n place rfl (by cbv) rfl rfl rfl
  · let d : Host.Document :=
      ⟨.branch .root [.branch .paragraph [.leaf (.text ['h', 'i'])]], ['u'], .empty⟩
    have read : (bracketWeb 0).read ['h', 'i'] = .ok d := by cbv
    have prepared : bracketWeb.prepare 0 ['h', 'i'] = .ok (.document 0 d ['h', 'i']) := by
      rw [prepare, read]
      rfl
    exact ⟨_, prepared, anywhere bracketFrame _ _ _ _ prepared (keepsSlot_bracketFrame _) rfl⟩

def away : Entry :=
  ⟨['A'], ⟨[], fun _ _ =>
    .render .children ⟨.keep, .keep, .put (.ofUrl ['a'])⟩ (Routine.onward .ended)⟩, .empty ['A']⟩

def address : Entry :=
  ⟨['U'], ⟨[], fun _ view => .text ((view.page.map (·.url)).getD []) .ended⟩, .empty ['U']⟩

def awayFrame : Text := "```u\n\\A\n    \\Slot\n```".toList

def addressSource : Text := "```u\n\\U\n```".toList

def awayKit : Kit where
  reader := .ofKnown [(awayFrame, .branch .root [markupNode "\\A\n    \\Slot" 1 0]),
    (addressSource, .branch .root [markupNode "\\U" 1 0])]
  escape := .named

def awayWeb : Web :=
  Site.web <| .ofLayout awayKit ⟨[], [(['a'], away), (['u'], address)]⟩ ⟨['u'], true, false⟩

def addressDocument : Host.Document :=
  ⟨.branch .root [markupNode "\\U" 1 0], ['u'],
    ⟨[(0, ⟨[.component ⟨['U'], [], [], ⟨1, 1⟩⟩]⟩)], [], .empty⟩⟩

theorem render_address {ctx : Context} {p : Page} (about : ctx.page = some p) :
    awayWeb.render (.document 0 addressDocument addressSource) ctx =
      Rendering.inside ['U'] (do Emit.text p.url) := by
  have found : addressDocument.markup? (markupNode "\\U" 1 0) =
      some [.component ⟨['U'], [], [], ⟨1, 1⟩⟩] := rfl
  have made : instantiate 0 (awayWeb 0).layout .top ⟨['U'], [], [], ⟨1, 1⟩⟩ =
      .ok (.component 0 ['U'] address.template [] [] address.inside) := rfl
  rw [render_single rfl rfl found, render_component made, render_eq]
  have url : ((ctx.page.map (·.url)).getD []) = p.url := by rw [about]; rfl
  rw [← url]
  exact congrArg _ ((perform_text ..).trans (bind_pure _))

/-- In a component that changes the page, the place for a page is not the page alone. -/
theorem page_changed_around_place :
    ∃ slot ctx, awayWeb.prepare 0 addressSource = .ok slot ∧
      awayWeb.KeepsSlot
        ⟨.markdown 0 awayFrame, (Context.empty.withPage (.ofUrl ['p'])).withSlot slot⟩
        ⟨.outlet, ctx⟩ ∧
      (awayWeb.render .outlet ctx).run none = some (.ok (), Text.utf8 ['a']) ∧
      (awayWeb.convert 0 addressSource (Context.empty.withPage (.ofUrl ['p']))).run none =
        some (.ok (), Text.utf8 ['p']) ∧
      (awayWeb.renderPage 0 awayFrame addressSource (.ofUrl ['p'])).run none =
        some (.ok (), Text.utf8 ['a']) := by
  let place : Markup.Component := ⟨slotName, [], [], ⟨2, 5⟩⟩
  let around : Markup.Component := ⟨['A'], [], [.component place], ⟨1, 1⟩⟩
  let frame : Host.Document := ⟨.branch .root [markupNode "\\A\n    \\Slot" 1 0], ['u'],
    ⟨[(0, ⟨[.component around]⟩)], [], .empty⟩⟩
  let slot : Content := .document 0 addressDocument addressSource
  let children : Content := .nodes 0 [.component place] (.inside away.inside)
  let inside : Context := ⟨some children, some slot, some (.ofUrl ['a'])⟩
  have read_frame : (awayWeb 0).read awayFrame = .ok frame := by cbv
  have read : (awayWeb 0).read addressSource = .ok addressDocument := by cbv
  have prepared : awayWeb.prepare 0 addressSource = .ok slot := by
    rw [prepare, read]
    rfl
  have outlet_away : awayWeb.render .outlet inside =
      Rendering.inside ['U'] (do Emit.text ['a']) :=
    (render_outlet rfl).trans (render_address (p := .ofUrl ['a']) rfl)
  have reached : awayWeb.KeepsSlot
      ⟨.markdown 0 awayFrame, (Context.empty.withPage (.ofUrl ['p'])).withSlot slot⟩
      ⟨.outlet, inside⟩ :=
    keepsSlot_frame read_frame (List.mem_cons_of_mem _ List.mem_cons_self) rfl rfl .render rfl rfl
  refine ⟨slot, inside, prepared, reached, ?_, ?_, ?_⟩
  · rw [outlet_away]
    rfl
  · rw [convert_of_read read, render_address rfl]
    rfl
  · have found : frame.markup? (markupNode "\\A\n    \\Slot" 1 0) = some [.component around] := rfl
    rw [renderPage, prepared]
    show (awayWeb.convert 0 awayFrame _).run none = _
    have made : instantiate 0 (awayWeb 0).layout .top around =
        .ok (.component 0 ['A'] away.template [] [.component place] away.inside) := rfl
    let ctx := (Context.empty.withPage (.ofUrl ['p'])).withSlot slot
    have filled : awayWeb.render (.filled away.template []) (ctx.withChildren children) =
        awayWeb.render .outlet inside := by
      rw [render_eq]
      refine (perform_render fun _ => rfl).trans ((bind_pure _).trans ?_)
      exact (render_place ..).trans (render_eq awayWeb .outlet inside).symm
    rw [convert_of_read read_frame, render_single rfl rfl found, render_component made, filled,
      outlet_away]
    rfl

end Web
end Inlay.Render
