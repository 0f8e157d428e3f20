import Inlay.Proofs.Host.Extraction
import Inlay.Render.Web
import Mathlib.Logic.Relation

namespace Inlay.Render

open Inlay.Markdown (Node)
open Inlay.Host (preorder preorders)

structure Piece where
  content : Content
  ctx : Context

namespace Web

/-- Whether rendering one piece may ask for another.  What has been written of the nodes that a
component takes over is not known beforehand. -/
inductive Asks (web : Web) : Piece → Piece → Prop
  | joined {parts : List Content} {part : Content} {ctx : Context} : part ∈ parts →
      Asks web ⟨.join parts, ctx⟩ ⟨part, ctx⟩
  | component {home : Nat} {name : Text} {t : Template} {props : Props Content}
      {nodes : List Markup.Node} {space : Layout} {ctx : Context} :
      Asks web ⟨.component home name t props nodes space, ctx⟩
        ⟨.filled t props, ctx.withChildren (.nodes home nodes (.inside space))⟩
  | part {t : Template} {props : Props Content} {ctx : Context} {part : Part} {setting : Setting} :
      (t.routine props ctx.view).Asks part setting →
      Asks web ⟨.filled t props, ctx⟩ ⟨part.content props ctx, setting.context props ctx⟩
  | text {home : Nat} {nodes : List Markup.Node} {scope : Scope} {ctx : Context} {value : Text} :
      .text value ∈ nodes → Asks web ⟨.nodes home nodes scope, ctx⟩ ⟨.markdown home value, ctx⟩
  | made {home : Nat} {nodes : List Markup.Node} {scope : Scope} {ctx : Context}
      {c : Markup.Component} {content : Content} : .component c ∈ nodes →
      instantiate home (web home).layout scope c = .ok content →
      Asks web ⟨.nodes home nodes scope, ctx⟩ ⟨content, ctx⟩
  | markdown {home : Nat} {source : Text} {ctx : Context} {d : Host.Document} :
      (web home).read source = .ok d →
      Asks web ⟨.markdown home source, ctx⟩ ⟨.document home d source, ctx⟩
  | markup {home : Nat} {d : Host.Document} {source : Text} {ctx : Context} {n : Node}
      {nodes : List Markup.Node} : n ∈ preorder d.root → d.markup? n = some nodes →
      Asks web ⟨.document home d source, ctx⟩ ⟨.nodes home nodes .top, ctx⟩
  | element {home : Nat} {d : Host.Document} {source : Text} {ctx : Context} {n : Node}
      {e : String × Template} {props : Props Content} (inner : List UInt8) : n ∈ preorder d.root →
      (web home).element? n = some e →
      (elementSupplies d n).bind (.markdown home) e.2.schema = .ok props →
      Asks web ⟨.document home d source, ctx⟩
        ⟨.filled e.2 props, ctx.withChildren (.html (Text.lossy inner))⟩
  | outlet {ctx : Context} {c : Content} : ctx.slot = some c →
      Asks web ⟨.outlet, ctx⟩ ⟨c, ctx.withoutSlot⟩

section

variable {visit visit' : Visitor Rendering}

mutual

theorem tour_congr {n : Node} (same : ∀ m ∈ preorder n, visit m = visit' m) :
    tour visit n = tour visit' n := by
  cases n with
  | leaf l => rw [tour, tour, tourNode, tourNode, same _ List.mem_cons_self]
  | branch b inside =>
    have later : ∀ m ∈ preorders inside, visit m = visit' m := fun m member =>
      same m (List.mem_cons_of_mem _ member)
    rw [tour, tour, tourNode, tourNode, same _ List.mem_cons_self, tourEach_congr later,
      tourAll_congr later]

theorem tourAll_congr {ns : List Node} (same : ∀ m ∈ preorders ns, visit m = visit' m) :
    tourAll visit ns = tourAll visit' ns := by
  cases ns with
  | nil => rfl
  | cons n rest =>
    rw [tourAll, tourAll, tour_congr fun m member => same m (List.mem_append_left _ member),
      tourAll_congr fun m member => same m (List.mem_append_right _ member)]

theorem tourEach_congr {ns : List Node} (same : ∀ m ∈ preorders ns, visit m = visit' m) :
    tourEach visit ns = tourEach visit' ns := by
  cases ns with
  | nil => rfl
  | cons n rest =>
    rw [tourEach, tourEach, tour_congr fun m member => same m (List.mem_append_left _ member),
      tourEach_congr fun m member => same m (List.mem_append_right _ member)]

end

end

open Classical in
theorem tour_of_mem {R : (α : Type) → Rendering α → Rendering α → Prop}
    (congruent : Rendering.Congruence R) {visit visit' : Visitor Rendering} {root : Node}
    (visits : ∀ n ∈ preorder root, ∀ each each' entering, R Unit each each' →
      R Status (visit n each entering) (visit' n each' entering)) :
    R Status (tour visit root) (tour visit' root) := by
  let only (visit : Visitor Rendering) : Visitor Rendering := fun n =>
    if n ∈ preorder root then visit n else fun _ _ => return .continue
  have same (visit : Visitor Rendering) : tour visit root = tour (only visit) root :=
    tour_congr fun n member => (if_pos member).symm
  rw [same visit, same visit']
  refine congruent.tour (fun n each each' entering walks => ?_) root
  by_cases member : n ∈ preorder root
  · simpa only [only, if_pos member] using visits n member each each' entering walks
  · simpa only [only, if_neg member] using congruent.pure Status.continue

theorem forM_congr {action action' : α → Rendering PUnit} {as : List α}
    (same : ∀ a ∈ as, action a = action' a) : as.forM action = as.forM action' := by
  induction as with
  | nil => rfl
  | cons a as ih =>
    obtain ⟨first, later⟩ := List.forall_mem_cons.1 same
    show (action a >>= fun _ => as.forM action) = (action' a >>= fun _ => as.forM action')
    rw [first, ih later]

section

variable {web : Web} {below below' : Below} {ctx : Context}

theorem outlet_congr
    (same : ∀ c, ctx.slot = some c → below c ctx.withoutSlot = below' c ctx.withoutSlot) :
    outlet below ctx = outlet below' ctx := by
  unfold outlet
  cases found : ctx.slot with
  | none => rfl
  | some c => exact same c found

theorem perform_congr {props : Props Content} {r : Routine}
    (same : ∀ part setting, r.Asks part setting →
      below (part.content props ctx) (setting.context props ctx) =
        below' (part.content props ctx) (setting.context props ctx)) :
    perform below props ctx r = perform below' props ctx r := by
  induction r with
  | done result => cases result <;> rfl
  | write bytes next ih =>
    exact bind_congr fun failure => ih failure fun part setting asks =>
      same part setting (.written failure asks)
  | render part setting next ih =>
    rw [perform, perform, same _ _ .render]
    exact bind_congr fun failure => ih failure fun part setting asks =>
      same part setting (.rendered failure asks)
  | collect part setting next ih =>
    rw [perform, perform, same _ _ .collect]
    exact bind_congr fun (failure, bytes) => ih failure bytes fun part setting asks =>
      same part setting (.collected failure bytes asks)

theorem visit_congr {home : Nat} {d : Host.Document} {source : Text} {n : Node}
    (member : n ∈ preorder d.root) (same : ∀ asked, web.Asks ⟨.document home d source, ctx⟩ asked →
      below asked.content asked.ctx = below' asked.content asked.ctx) :
    web.visit home below d source ctx n = web.visit home below' d source ctx n := by
  funext each entering
  simp only [visit]
  cases found : d.markup? n with
  | some nodes =>
    have nodes_same : below (.nodes home nodes .top) ctx = below' (.nodes home nodes .top) ctx :=
      same _ (.markup member found)
    simp only [nodes_same]
  | none =>
    cases taken : (web home).element? n with
    | none => rfl
    | some e =>
      have element_same :
          element home below d ctx e n each = element home below' d ctx e n each := by
        unfold element
        cases bound : (elementSupplies d n).bind (Content.markdown home) e.2.schema with
        | error error => rfl
        | ok props =>
          congr 1
          funext inner
          have filled_same := same _ (.element inner member taken bound)
          simp only at filled_same
          simp only [filled_same]
      simp only [element_same]

theorem level_congr {content : Content}
    (same : ∀ asked, web.Asks ⟨content, ctx⟩ asked →
      below asked.content asked.ctx = below' asked.content asked.ctx) :
    web.level below content ctx = web.level below' content ctx := by
  cases content with
  | html text => rfl
  | join parts => exact forM_congr fun part member => same _ (.joined member)
  | filled t props => exact perform_congr fun part setting asks => same _ (.part asks)
  | component home name t props nodes space =>
    exact congrArg (Rendering.inside name) (same _ .component)
  | nodes home nodes scope =>
    refine forM_congr fun n member => ?_
    cases n with
    | text value => exact same _ (.text member)
    | component c =>
      simp only [node]
      cases found : instantiate home (web home).layout scope c with
      | error error => rfl
      | ok content => exact same _ (.made member found)
  | markdown home source =>
    simp only [level]
    cases found : (web home).read source with
    | error error => rfl
    | ok d => exact same _ (.markdown found)
  | document home d source =>
    simp only [level, document]
    rw [tour_congr fun n member => visit_congr member same]
  | outlet => exact outlet_congr fun c found => same _ (.outlet found)

open Classical in
/-- A level is related to itself, if the levels below are related where it asks for them. -/
theorem Asks.level {R : (α : Type) → Rendering α → Rendering α → Prop} {content : Content}
    (congruent : Rendering.Congruence R)
    (fallback : ∀ home d source n entering, R Status ((web home).fallback d source n entering)
      ((web home).fallback d source n entering))
    (fills : ∀ t props, content = .filled t props →
      R Unit (perform below props ctx (t.routine props ctx.view))
        (perform below' props ctx (t.routine props ctx.view)))
    (less : ∀ asked, web.Asks ⟨content, ctx⟩ asked →
      R Unit (below asked.content asked.ctx) (below' asked.content asked.ctx)) :
    R Unit (web.level below content ctx) (web.level below' content ctx) := by
  -- elsewhere than at what is asked for, the levels below can be anything
  let only (below : Below) : Below := fun c x =>
    if web.Asks ⟨content, ctx⟩ ⟨c, x⟩ then below c x else return ()
  have same (below : Below) (asked : Piece) (asks : web.Asks ⟨content, ctx⟩ asked) :
      below asked.content asked.ctx = only below asked.content asked.ctx := (if_pos asks).symm
  rw [level_congr (same below), level_congr (same below')]
  refine congruent.level (fun c x => ?_) fallback fun t props filled => ?_
  · by_cases asks : web.Asks ⟨content, ctx⟩ ⟨c, x⟩
    · simpa only [only, if_pos asks] using less _ asks
    · simpa only [only, if_neg asks] using congruent.pure ()
  · subst filled
    have part (below : Below) : perform (only below) props ctx (t.routine props ctx.view) =
        perform below props ctx (t.routine props ctx.view) :=
      perform_congr fun part setting asks => (same below _ (.part asks)).symm
    rw [part, part]
    exact fills t props rfl

end

def Reaches (web : Web) : Piece → Piece → Prop := Relation.ReflTransGen web.Asks

end Web
end Inlay.Render
