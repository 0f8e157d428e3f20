import Inlay.Proofs.Render.Echoes
import Inlay.Proofs.Render.Fold
import Inlay.Proofs.Render.Names
import Inlay.Proofs.Render.Slots

namespace Inlay.Render

open Inlay.Markdown (Node Branch)
open Inlay.Host (preorder preorders)
open Rendering (Echoes FailsAs Congruence framed gathered)

/-! ## Routines that write texts -/

/-- Whether a routine ends with an error, whatever comes of its steps, and makes nothing of what a
failed part has written. -/
inductive Routine.Fails : Routine → Prop
  | done (e : Error) : Fails (.done (.error e))
  | write {bytes : List UInt8} {next : Option Error → Routine} :
      Fails (next none) → Fails (.write bytes next)
  | render {part : Part} {setting : Setting} {next : Option Error → Routine} :
      (∀ failure, Fails (next failure)) → Fails (.render part setting next)
  | collect {part : Part} {setting : Setting} {next : Option Error → List UInt8 → Routine} :
      (∀ failure bytes, Fails (next failure bytes)) →
      (∀ e bytes bytes', next (some e) bytes = next (some e) bytes') →
      Fails (.collect part setting next)

/-- Whether a routine writes texts, counted from some bytes that it has written already: what it
writes before a part and at the end is UTF-8.  After the error of a part it has to fail as well. -/
inductive Routine.Textual : List UInt8 → Routine → Prop
  | done (s : Text) : Textual s.utf8 (.done (.ok ()))
  | failed (pending : List UInt8) (e : Error) : Textual pending (.done (.error e))
  | write {pending bytes : List UInt8} {next : Option Error → Routine} :
      Textual (pending ++ bytes) (next none) → Textual pending (.write bytes next)
  | render (s : Text) {part : Part} {setting : Setting} {next : Option Error → Routine} :
      Textual [] (next none) → (∀ e, (next (some e)).Fails) →
      Textual s.utf8 (.render part setting next)
  | collect {pending : List UInt8} {part : Part} {setting : Setting}
      {next : Option Error → List UInt8 → Routine} :
      (∀ s : Text, Textual pending (next none s.utf8)) →
      (∀ e bytes, Textual pending (next (some e) bytes)) →
      (∀ e bytes bytes', next (some e) bytes = next (some e) bytes') →
      Textual pending (.collect part setting next)

section

variable {below below' : Below} {props : Props Content} {ctx : Context} {r : Routine}

theorem failsAs_perform (fails : r.Fails) (less : ∀ part setting, r.Asks part setting →
      Echoes (below (part.content props ctx) (setting.context props ctx))
        (below' (part.content props ctx) (setting.context props ctx))) :
    FailsAs (perform below props ctx r) (perform below' props ctx r) := by
  induction fails with
  | done e =>
    intro held result s found
    cases found
    exact ⟨e, held, rfl, rfl, fun held' => ⟨held', rfl⟩⟩
  | write _ ih =>
    intro held result s found
    rw [perform, Rendering.attempt_write] at found
    obtain ⟨e, out, rfl, rfl, again⟩ :=
      ih (fun part setting asks => less part setting (.written none asks)) _ _ _ found
    refine ⟨e, out, rfl, rfl, fun held' => ?_⟩
    rw [perform, Rendering.attempt_write]
    exact again _
  | render _ ih =>
    exact FailsAs.attempt_bind (less _ _ .render) fun failure =>
      ih failure fun part setting asks => less part setting (.rendered failure asks)
  | collect _ same ih =>
    refine FailsAs.collect_bind (less _ _ .collect) fun x x' collected => ?_
    cases collected with
    | done t =>
      exact ih none t.utf8 fun part setting asks => less part setting (.collected none _ asks)
    | failed e bytes bytes' =>
      simp only [same e bytes' bytes]
      exact ih (some e) bytes fun part setting asks => less part setting (.collected _ bytes asks)

theorem echoes_perform {pending : List UInt8} (textual : r.Textual pending)
    (less : ∀ part setting, r.Asks part setting →
      Echoes (below (part.content props ctx) (setting.context props ctx))
        (below' (part.content props ctx) (setting.context props ctx))) :
    Echoes (do Emit.write pending; perform below props ctx r)
      (do Emit.write pending; perform below' props ctx r) := by
  induction textual with
  | done s => exact Echoes.bind (.text s) fun _ => .pure ()
  | failed pending e =>
    intro held result s found
    cases found
    exact .failed fun held' => ⟨_, rfl⟩
  | @write pending bytes next _ ih =>
    have joined (below : Below) (held : Array UInt8) :
        (do Emit.write pending; perform below props ctx (.write bytes next) : Rendering Unit)
            ⟨held, none⟩ =
          (do Emit.write (pending ++ bytes); perform below props ctx (next none) : Rendering Unit)
            ⟨held, none⟩ := by
      rw [Rendering.write_then, perform, Rendering.attempt_write, Rendering.write_then,
        written_append]
    exact Echoes.congr_none (joined below) (joined below') <|
      ih fun part setting asks => less part setting (.written none asks)
  | render s _ fails ih =>
    refine Echoes.bind (.text s) fun _ => Echoes.attempt_bind (less _ _ .render) ?_ fun e => ?_
    · have later := ih fun part setting asks => less part setting (.rendered none asks)
      exact Echoes.congr_none (fun held => (by rw [Rendering.write_then, written_nil]))
        (fun held => (by rw [Rendering.write_then, written_nil])) later
    · exact failsAs_perform (fails e) fun part setting asks =>
        less part setting (.rendered (some e) asks)
  | collect _ _ same ih ih' =>
    refine Echoes.congr_none (Rendering.write_collect _) (Rendering.write_collect _) <|
      Echoes.collect_bind (less _ _ .collect) fun x x' collected => ?_
    cases collected with
    | done t => exact ih t fun part setting asks => less part setting (.collected none _ asks)
    | failed e bytes bytes' =>
      simp only [same e bytes' bytes]
      exact ih' e bytes fun part setting asks => less part setting (.collected _ bytes asks)

end

/-! ## Layouts with the component and without it -/

def paragraph : Template :=
  ⟨[], fun _ _ => .text "<p>".toList <| .part .children <| .text "</p>".toList .ended⟩

def Web.withLayout (web : Web) (home : Nat) (l : Layout) : Web := fun other =>
  if other = home then { web home with layout := l } else web other

/-- Whether a layout is another one with the component for paragraphs. -/
structure TakesOver (l l' : Layout) : Prop where
  free : l.get? ['p'] = none
  taken : l'.get? ['p'] = some paragraph
  elsewhere : ∀ name : Text, name.lower ≠ ['p'] → l'.lookup? name = l.lookup? name

theorem takesOver_of_register {l l' : Layout} {name : Text} (named : name.lower = ['p'])
    (free : l.lookup? name = none) (added : l.register name paragraph = .ok l') :
    TakesOver l l' := by
  have put : l' = l.put ⟨name, paragraph, .empty name⟩ := by
    rw [Layout.register] at added
    split at added
    · cases added
    · obtain ⟨_, -, added⟩ := Attempt.bind_eq_ok.1 added
      cases added
      rfl
  have lookup (other : Text) : l'.lookup? other =
      if ['p'] = other.lower then some ⟨name, paragraph, .empty name⟩ else l.lookup? other := by
    rw [put, Layout.lookup?, Layout.put, Keyed.get?_put, named]
    rfl
  have small : Text.lower ['p'] = ['p'] := by decide
  refine ⟨?_, ?_, fun other differs => ?_⟩
  · rw [Layout.get?, Layout.lookup?, small, ← named, ← Layout.lookup?, free]
    rfl
  · rw [Layout.get?, lookup, small, if_pos rfl]
    rfl
  · rw [lookup, if_neg (Ne.symm differs)]

/-! ## Names -/

section

variable {home : Nat} {top top' : Layout}

theorem resolve_congr {scope : Scope} {name : Text} (same : top.lookup? name = top'.lookup? name) :
    scope.resolve top name = scope.resolve top' name := by
  cases scope with
  | top => simp only [Scope.resolve, same]
  | inside l => simp only [Scope.resolve, same]

mutual

theorem instantiate_congr {scope : Scope} (c : Markup.Component)
    (same : ∀ name ∈ c.names, top.lookup? name = top'.lookup? name) :
    instantiate home top scope c = instantiate home top' scope c := by
  obtain ⟨name, properties, below, location⟩ := c
  rw [Markup.Component.names, List.forall_mem_cons, List.forall_mem_append] at same
  simp only [instantiate, resolve_congr same.1, supplyAll_congr _ properties same.2.1]

theorem supplyAll_congr (scope : Scope) (properties : List Markup.Property)
    (same : ∀ name ∈ Markup.propertiesNames properties, top.lookup? name = top'.lookup? name) :
    supplyAll home top scope properties = supplyAll home top' scope properties := by
  cases properties with
  | nil => rfl
  | cons p rest =>
    obtain ⟨name, value⟩ := p
    rw [Markup.propertiesNames, List.forall_mem_append] at same
    rw [supplyAll, supplyAll, supply_congr value same.1, supplyAll_congr _ rest same.2]

theorem supply_congr {scope : Scope} (value : Markup.Value)
    (same : ∀ name ∈ value.names, top.lookup? name = top'.lookup? name) :
    supply home top scope value = supply home top' scope value := by
  cases value with
  | string text => rfl
  | flag => rfl
  | component inner => rw [supply, supply, instantiate_congr inner same]

end

end

namespace Web

section

variable {web : Web} {home : Nat} {l' : Layout}

theorem withLayout_here : web.withLayout home l' home = { web home with layout := l' } := if_pos rfl

theorem withLayout_elsewhere {other : Nat} (differs : other ≠ home) :
    web.withLayout home l' other = web other := if_neg differs

theorem elementName_mem {n : Node} {name : String} (named : Site.elementName n = some name) :
    (∃ ns, n = .branch .paragraph ns) ∧ name = "p" ∨
      name ∈ ["h1", "h2", "h3", "h4", "h5", "h6", "hr", "a", "ul", "li"] := by
  have headings : ∀ k ∈ [1, 2, 3, 4, 5, 6], Html.headingName k ∈
      ["h1", "h2", "h3", "h4", "h5", "h6", "hr", "a", "ul", "li"] := by decide
  rw [Site.elementName.eq_def] at named
  split at named
  · cases named
    refine .inr (headings _ ?_)
    simp only [List.mem_cons, List.not_mem_nil, or_false]
    split
    · omega
    · simp
  · cases named
    exact .inl ⟨⟨_, rfl⟩, rfl⟩
  all_goals cases named
  all_goals exact .inr (by decide)

variable (takes : TakesOver (web home).layout l')

include takes

theorem element?_paragraph (ns : List Node) :
    (web home).element? (.branch .paragraph ns) = none ∧
      (web.withLayout home l' home).element? (.branch .paragraph ns) = some ("p", paragraph) := by
  have name : "p".toList = ['p'] := rfl
  simp [Site.element?, Site.elementName, withLayout_here, takes.free, takes.taken]

theorem element?_other {n : Node} (other : ∀ ns, n ≠ .branch .paragraph ns) :
    (web.withLayout home l' home).element? n = (web home).element? n := by
  cases named : Site.elementName n with
  | none => simp [Site.element?, named]
  | some name =>
    have differs : ∀ name ∈ ["h1", "h2", "h3", "h4", "h5", "h6", "hr", "a", "ul", "li"],
        Text.lower (String.toList name) ≠ ['p'] := by decide
    have known := (elementName_mem named).resolve_left fun ⟨⟨ns, same⟩, _⟩ => other ns same
    have same := takes.elsewhere _ (differs name known)
    simp [Site.element?, named, withLayout_here, Layout.get?, same]

/-! ## One level -/

variable {R : (α : Type) → Rendering α → Rendering α → Prop} (congruent : Congruence R)
  {below below' : Below} {ctx : Context}

include congruent

theorem written_override {escape : Html.Escape} {raw : Bool} {d : Host.Document} {source : Text}
    {n : Node} (member : n ∈ preorder d.root) {a b : Rendering Unit} (walks : R Unit a b)
    (less : ∀ asked, web.Asks ⟨.document home d source, ctx⟩ asked →
      R Unit (below asked.content asked.ctx) (below' asked.content asked.ctx))
    (paragraphs : ∀ ns, R Unit (framed a)
      (element home below' d ctx ("p", paragraph) (.branch .paragraph ns) b)) :
    R Unit (web.written home escape raw below d ctx n a)
      ((web.withLayout home l').written home escape raw below' d ctx n b) := by
  unfold written
  cases found : d.markup? n with
  | some nodes => exact less _ (.markup member found)
  | none =>
    by_cases other : ∀ ns, n ≠ .branch .paragraph ns
    · rw [element?_other takes other]
      cases taken : (web home).element? n with
      | some e =>
        exact congruent.element d walks fun inner props bound =>
          less _ (.element inner member taken bound)
      | none =>
        cases n with
        | leaf l => exact congruent.text _
        | branch b ns =>
          refine congruent.bind (congruent.text _) fun _ => ?_
          exact congruent.bind walks fun _ => congruent.text _
    · obtain ⟨ns, other⟩ := Classical.not_forall.1 other
      obtain rfl := Classical.not_not.1 other
      obtain ⟨free, taken⟩ := element?_paragraph takes ns
      rw [free, taken]
      exact paragraphs ns

theorem node_override {nodes : List Markup.Node} {scope : Scope} {n : Markup.Node}
    (member : n ∈ nodes) (unnamed : Markup.Omits ['p'] nodes)
    (less : ∀ asked, web.Asks ⟨.nodes home nodes scope, ctx⟩ asked →
      R Unit (below asked.content asked.ctx) (below' asked.content asked.ctx)) :
    R Unit (web.node home below scope ctx n)
      ((web.withLayout home l').node home below' scope ctx n) := by
  cases n with
  | text value => exact less _ (.text member)
  | component c =>
    have same : ∀ name ∈ c.names, l'.lookup? name = (web home).layout.lookup? name :=
      fun name named => takes.elsewhere name
        (unnamed name (Markup.names_subset_nodesNames member named))
    have made : instantiate home (web.withLayout home l' home).layout scope c =
        instantiate home (web home).layout scope c := by
      rw [withLayout_here]
      exact instantiate_congr c same
    simp only [node, made]
    cases found : instantiate home (web home).layout scope c with
    | error error => exact congruent.throw error
    | ok content => exact less _ (.made member found)

theorem level_override {content : Content}
    (html : ∀ other, ∃ escape raw, (web other).fallback = htmlFallback escape raw)
    (unnamed : ∀ nodes scope, content = .nodes home nodes scope → Markup.Omits ['p'] nodes)
    (fills : ∀ t props, content = .filled t props →
      R Unit (perform below props ctx (t.routine props ctx.view))
        (perform below' props ctx (t.routine props ctx.view)))
    (less : ∀ asked, web.Asks ⟨content, ctx⟩ asked →
      R Unit (below asked.content asked.ctx) (below' asked.content asked.ctx))
    (paragraphs : ∀ d ns a b, R Unit a b →
      R Unit (framed a) (element home below' d ctx ("p", paragraph) (.branch .paragraph ns) b)) :
    R Unit (web.level below content ctx) ((web.withLayout home l').level below' content ctx) := by
  have fallback (other : Nat) (d : Host.Document) (source : Text) (n : Node) (entering : Bool) :
      R Status ((web other).fallback d source n entering)
        ((web other).fallback d source n entering) := by
    obtain ⟨escape, raw, same⟩ := html other
    rw [same]
    exact congruent.htmlFallback escape raw d source n entering
  -- what is not of the site with the component is rendered as it is without
  have alike (same : (web.withLayout home l').level below' content ctx =
      web.level below' content ctx) :
      R Unit (web.level below content ctx) ((web.withLayout home l').level below' content ctx) := by
    rw [same]
    exact Asks.level congruent fallback fills less
  cases content with
  | nodes other nodes scope =>
    by_cases here : other = home
    · subst here
      exact congruent.forM fun n member =>
        node_override takes congruent member (unnamed nodes scope rfl) less
    · refine alike ?_
      have node_same : (web.withLayout home l').node other below' scope ctx =
          web.node other below' scope ctx := by
        funext n
        cases n <;> simp only [node, withLayout_elsewhere here]
      simp only [level, node_same]
  | markdown other source =>
    refine alike ?_
    have read_same : (web.withLayout home l' other).read source = (web other).read source := by
      by_cases here : other = home
      · subst here
        rw [withLayout_here]
        rfl
      · rw [withLayout_elsewhere here]
    simp only [level, read_same]
  | document other d source =>
    by_cases here : other = home
    · subst here
      obtain ⟨escape, raw, same⟩ := html other
      have same' : (web.withLayout other l' other).fallback = htmlFallback escape raw := by
        rw [withLayout_here]
        exact same
      simp only [level]
      rw [document_eq below d source ctx same, document_eq below' d source ctx same']
      exact related_fold congruent fun n member a b walks =>
        written_override takes congruent member walks less fun ns => paragraphs d ns a b walks
    · refine alike ?_
      have visit_same : (web.withLayout home l').visit other below' d source ctx =
          web.visit other below' d source ctx := by
        funext n each entering
        simp only [visit, withLayout_elsewhere here]
      simp only [level, document, visit_same]
  | _ => exact alike rfl

end

/-! ## All levels -/

theorem render_paragraph (web : Web) (html : Text) (ctx : Context) :
    web.render (.filled paragraph []) (ctx.withChildren (.html html)) =
      Emit.text (Html.tag "p" true ++ html ++ Html.tag "p" false) := by
  have children : web.render (.html html) (ctx.withChildren (.html html)) = Emit.text html := by
    rw [render_eq]
    rfl
  rw [render_eq, text_append, text_append, Rendering.lift_bind, Rendering.lift_bind, ← children,
    bind_assoc]
  exact (perform_text ..).trans <| congrArg _ <| funext fun _ =>
    (perform_part ..).trans <| congrArg _ <| funext fun _ => (perform_text ..).trans (bind_pure _)

theorem element_paragraph (web : Web) (home : Nat) (d : Host.Document) (ctx : Context)
    (ns : List Node) (each : Rendering Unit) :
    element home web.render d ctx ("p", paragraph) (.branch .paragraph ns) each =
      gathered each := by
  have bound : (elementSupplies d (.branch .paragraph ns)).bind (Content.markdown home)
      paragraph.schema = .ok [] := rfl
  simp only [element, bound, render_paragraph]
  rfl

section

variable {web : Web} {home : Nat} {l' : Layout} (takes : TakesOver (web home).layout l')
  (html : ∀ other, ∃ escape raw, (web other).fallback = htmlFallback escape raw)
  (units : web.Keeps (Routine.Textual [])) {start a : Piece}
  (keeps : start.Keeps (Routine.Textual [])) (unnamed : web.NeverNames home ['p'] start)
  (reached : web.Reaches start a)

omit takes html in
include units keeps in
theorem echoes_filled {t : Template} {props : Props Content} {ctx : Context} {below below' : Below}
    (reached : web.Reaches start ⟨.filled t props, ctx⟩)
    (less : ∀ asked, web.Asks ⟨.filled t props, ctx⟩ asked →
      Echoes (below asked.content asked.ctx) (below' asked.content asked.ctx)) :
    Echoes (perform below props ctx (t.routine props ctx.view))
      (perform below' props ctx (t.routine props ctx.view)) := by
  have textual : (t.routine props ctx.view).Textual [] := by
    obtain ⟨filled, -⟩ := reached.keeps units keeps
    cases filled with | filled template _ => exact template.body props ctx.view
  have echoes := echoes_perform textual fun part setting asks => less _ (.part asks)
  exact Echoes.congr_none (fun held => (by rw [Rendering.write_then, written_nil]))
    (fun held => (by rw [Rendering.write_then, written_nil])) echoes

include takes html units keeps unnamed reached

theorem echoes_override : Echoes (web.render a.content a.ctx)
    ((web.withLayout home l').render a.content a.ctx) := by
  intro held result s found
  have levels := web.render_induction fun content ctx s outcome =>
    s.room = none → web.Reaches start ⟨content, ctx⟩ →
      ((web.withLayout home l').render content ctx).Repeats s.written outcome.1 outcome.2
  refine levels ?_ a.content a.ctx _ _ found rfl reached
  rintro below known content ctx ⟨held, room⟩ ⟨result, s⟩ found rfl reached
  have less (asked : Piece) (asks : web.Asks ⟨content, ctx⟩ asked) :
      Echoes (below asked.content asked.ctx)
        ((web.withLayout home l').render asked.content asked.ctx) :=
    fun held result s found => known _ _ _ _ found rfl (reached.tail asks)
  have echoes : Echoes (web.level below content ctx)
      ((web.withLayout home l').level (web.withLayout home l').render content ctx) := by
    refine level_override takes Echoes.congruence html
      (fun nodes scope same => unnamed nodes scope ctx (same ▸ reached)) ?fills less ?paragraphs
    case fills =>
      rintro t props rfl
      exact echoes_filled units keeps reached less
    case paragraphs =>
      intro d ns a b echoes
      rw [element_paragraph]
      exact echoes.gathered
  rw [render_eq]
  exact echoes held result s found

theorem echoes_fallback : Echoes ((web.withLayout home l').render a.content a.ctx)
    (web.render a.content a.ctx) := by
  intro held result s found
  -- What the component writes is known of rendering itself and not of the levels below, but they
  -- have no outcomes that rendering does not have.
  have levels := (web.withLayout home l').render_induction_below fun content ctx s outcome =>
    s.room = none → web.Reaches start ⟨content, ctx⟩ →
      (web.render content ctx).Repeats s.written outcome.1 outcome.2
  refine levels ?_ a.content a.ctx _ _ found rfl reached
  rintro below less known content ctx ⟨held, room⟩ ⟨result, s⟩ found rfl reached
  have asked_less (asked : Piece) (asks : web.Asks ⟨content, ctx⟩ asked) :
      Echoes (below asked.content asked.ctx) (web.render asked.content asked.ctx) :=
    fun held result s found => known _ _ _ _ found rfl (reached.tail asks)
  have echoes : Echoes ((web.withLayout home l').level below content ctx)
      (web.level web.render content ctx) := by
    refine level_override takes Echoes.congruence.flip html
      (fun nodes scope same => unnamed nodes scope ctx (same ▸ reached)) ?fills asked_less
      ?paragraphs
    case fills =>
      rintro t props rfl
      exact echoes_filled units keeps reached asked_less
    case paragraphs =>
      intro d ns a b echoes
      have outcomes :
          (element home below d ctx ("p", paragraph) (.branch .paragraph ns) b).Approximates
            (element home (web.withLayout home l').render d ctx ("p", paragraph)
              (.branch .paragraph ns) b) :=
        Rendering.Approximates.catching.element d (.refl b) fun inner props _ => less _ _
      rw [element_paragraph] at outcomes
      exact echoes.framed.of_approximates outcomes
  rw [render_eq]
  exact echoes held result s found

theorem agree_override : Rendering.Agree (web.render a.content a.ctx)
    ((web.withLayout home l').render a.content a.ctx) :=
  (echoes_override takes html units keeps unnamed reached).agree
    (echoes_fallback takes html units keeps unnamed reached)

end

theorem omits_bracketWeb (home : Nat) (source : Text) (d : Host.Document)
    (read : (bracketWeb home).read source = .ok d) : d.Omits ['p'] := by
  let place (line column : Nat) : Markup.Node := .component ⟨slotName, [], [], ⟨line, column⟩⟩
  let around (nodes : List Markup.Node) (line column : Nat) : Markup.Node :=
    .component ⟨['B'], [], nodes, ⟨line, column⟩⟩
  have known (root : Node) (blocks : List (Nat × Markup.Document))
      (found : Host.Document.ofTree ['u'] root = .ok ⟨root, ['u'], ⟨blocks, [], .empty⟩⟩)
      (omits : Host.Document.Omits ['p'] ⟨root, ['u'], ⟨blocks, [], .empty⟩⟩) :
      ∀ d, Host.Document.ofTree bracketSite.options.trigger root = .ok d →
        d.Omits ['p'] := omits_of_ofTree found omits
  refine @omits_of_ofKnown bracketSite _ ['p'] rfl ?_ source d read
  simp only [List.forall_mem_cons, List.not_mem_nil, false_imp_iff, implies_true, and_true]
  refine ⟨known _ [(0, ⟨[place 1 1]⟩)] (by cbv) (by decide),
    known _ [(0, ⟨[around [place 2 5] 1 1]⟩)] (by cbv) (by decide),
    known _ [(0, ⟨[around [around [place 3 9] 2 5] 1 1]⟩)] (by cbv) (by decide),
    known _ [(3, ⟨[around [.text ['c']] 1 1]⟩)] (by cbv) (by decide)⟩

theorem textual_bracket (props : Props Unit) (view : View) :
    (bracket.template.body props view).Textual [] := by
  refine .write ?_
  refine .render ['['] (.write (.done [']'])) fun e => .done e

theorem plain_bracket (props : Props Unit) (view : View) :
    (bracket.template.body props view).Plain := by
  intro part setting asks
  rcases asks.of_text.of_part with ⟨rfl, rfl⟩ | later
  · exact ⟨.children, rfl, nofun⟩
  · exact (Routine.not_asks_ended later.of_text).elim

inductive Routine.WritesTexts : Routine → Prop
  | done (result : Except Error Unit) : WritesTexts (.done result)
  | write (s : Text) {next : Option Error → Routine} : (∀ failure, WritesTexts (next failure)) →
      WritesTexts (.write s.utf8 next)
  | render {part : Part} {setting : Setting} {next : Option Error → Routine} :
      (∀ failure, WritesTexts (next failure)) → WritesTexts (.render part setting next)
  | collect {part : Part} {setting : Setting} {next : Option Error → List UInt8 → Routine} :
      (∀ failure bytes, WritesTexts (next failure bytes)) →
      WritesTexts (.collect part setting next)

def lenient : Entry :=
  ⟨['T'], ⟨[], fun _ _ => .render .children .same fun _ => .ended⟩, .empty ['T']⟩

def noLinks : Entry := ⟨['a'], ⟨[], fun _ _ => .ended⟩, .empty ['a']⟩

def linkLine : Text := "one [x](y)".toList

def lenientSource : Text := "```u\n\\T\n    one [x](y)\n```".toList

def lenientBlock : List Markup.Node := [.component ⟨['T'], [], [.text linkLine], ⟨1, 1⟩⟩]

def lenientDocument : Host.Document :=
  ⟨.branch .root [markupNode "\\T\n    one [x](y)" 1 0], ['u'], ⟨[(0, ⟨lenientBlock⟩)], [], .empty⟩⟩

def linkDocument : Host.Document :=
  ⟨.branch .root [.branch .paragraph
    [.leaf (.text "one ".toList), .branch (.link ['y'] none) [.leaf (.text ['x'])]]], ['u'], .empty⟩

def lenientKit : Kit where
  reader := .ofKnown [(lenientSource, lenientDocument.root), (linkLine, linkDocument.root)]
  escape := .named

def lenientSite : Site :=
  .ofLayout lenientKit ⟨[], [(['t'], lenient), (['a'], noLinks)]⟩ ⟨['u'], true, false⟩

def lenientWeb : Web := lenientSite.web

theorem omits_lenientWeb (home : Nat) (source : Text) (d : Host.Document)
    (read : (lenientWeb home).read source = .ok d) : d.Omits ['p'] := by
  refine @omits_of_ofKnown lenientSite _ ['p'] rfl ?_ source d read
  simp only [List.forall_mem_cons, List.not_mem_nil, false_imp_iff, implies_true, and_true]
  have block : Host.Document.ofTree ['u'] lenientDocument.root = .ok lenientDocument := by cbv
  have line : Host.Document.ofTree ['u'] linkDocument.root = .ok linkDocument := by cbv
  exact ⟨omits_of_ofTree block (by decide), omits_of_ofTree line (by decide)⟩

theorem keeps_lenientWeb {allowed : Routine → Prop}
    (goes_on : allowed (.render .children .same fun _ => .ended)) (ended : allowed .ended) :
    lenientWeb.Keeps allowed := by
  intro home
  refine .of_entries fun key e member => ?_
  rcases List.mem_cons.1 member with same | member
  · cases same
    refine ⟨.intro (fun _ _ => goes_on) ?_, Layout.keeps_empty _⟩
    rintro props view part ⟨asked, setting, asks, what⟩
    cases asks with
    | render =>
      rcases what with rfl | put | put
      · exact .children
      · cases put
      · cases put
    | rendered _ later => exact (Routine.not_asks_ended later).elim
  · cases List.mem_singleton.1 member
    refine ⟨.intro (fun _ _ => ended) fun props view part mentions => ?_, Layout.keeps_empty _⟩
    exact (Routine.not_mentions_ended mentions).elim

theorem plain_lenientWeb : lenientWeb.Keeps Routine.Plain := by
  refine keeps_lenientWeb ?_ fun _ _ asks => nomatch asks
  intro part setting asks
  cases asks with
  | render => exact ⟨.children, rfl, nofun⟩
  | rendered _ later => exact (Routine.not_asks_ended later).elim

section

variable {web : Web} {s s' : Sink}

def lineInside : Content := .nodes 0 [.text linkLine] (.inside lenient.inside)

theorem render_lineInside {ctx : Context} (line : (web 0).read linkLine = .ok linkDocument) :
    web.render lineInside ctx = web.render (.document 0 linkDocument linkLine) ctx := by
  rw [← convert_of_read line, lineInside, render_eq]
  simp [level, node, convert]

theorem render_lenientBlock {ctx : Context} (found : (web 0).layout.lookup? ['T'] = some lenient) :
    web.render (.nodes 0 lenientBlock .top) ctx =
      Rendering.inside ['T'] (do
        let _ ← Rendering.attempt (web.render lineInside (ctx.withChildren lineInside))) := by
  have resolved : Scope.top.resolve (web 0).layout ['T'] = .ok lenient := by
    rw [Scope.resolve, found]
  have made : instantiate 0 (web 0).layout .top ⟨['T'], [], [.text linkLine], ⟨1, 1⟩⟩ =
      .ok (.component 0 ['T'] lenient.template [] [.text linkLine] lenient.inside) := by
    simp only [instantiate, resolved]
    rfl
  rw [lenientBlock, render_component made, render_eq]
  rfl

theorem convert_lenient {escape : Html.Escape} {raw : Bool}
    (html : (web 0).fallback = htmlFallback escape raw)
    (found : (web 0).layout.lookup? ['T'] = some lenient)
    (block : (web 0).read lenientSource = .ok lenientDocument)
    (line : (web 0).read linkLine = .ok linkDocument)
    (failed : ∀ ctx, ∃ e, web.fold 0 escape raw web.render linkDocument ctx linkDocument.root s =
      some (.error e, s')) :
    web.convert 0 lenientSource .empty s = some (.ok (), s') := by
  have marked : lenientDocument.markup? (markupNode "\\T\n    one [x](y)" 1 0) =
      some lenientBlock := rfl
  obtain ⟨e, failed⟩ := failed (Context.empty.withChildren lineInside)
  have inside : web.render lineInside (Context.empty.withChildren lineInside) s =
      some (.error e, s') := by
    rw [render_lineInside line, render_eq, level, document_eq _ _ _ _ html, failed]
  rw [convert_of_read block, render_single html rfl marked, render_lenientBlock found,
    Rendering.inside, Rendering.bind_apply, Rendering.attempt, inside]
  rfl

end

end Web
end Inlay.Render
