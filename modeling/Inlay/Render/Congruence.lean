import Inlay.Render.Level

namespace Inlay.Render

open Inlay.Markdown (Node)

namespace Rendering

/-- Whether a relation holds of the smallest actions, and of larger ones if it holds of their
parts. -/
structure Congruence (R : (α : Type) → Rendering α → Rendering α → Prop) : Prop where
  pure : ∀ {α : Type} (a : α), R α (pure a) (pure a)
  throw : ∀ {α : Type} (e : Error), R α (throw e) (throw e)
  text : ∀ s : Text, R Unit (Emit.text s) (Emit.text s)
  bind : ∀ {α β : Type} {a a' : Rendering α} {next next' : α → Rendering β}, R α a a' →
    (∀ answer, R β (next answer) (next' answer)) → R β (a >>= next) (a' >>= next')
  capture : ∀ {a a' : Rendering Unit}, R Unit a a' → R (List UInt8) (capture a) (capture a')
  inside : ∀ {α : Type} {a a' : Rendering α} (component : Text), R α a a' →
    R α (inside component a) (inside component a')

/-- The same where actions may go on after an error. -/
structure Catching (R : (α : Type) → Rendering α → Rendering α → Prop) : Prop
    extends Congruence R where
  attempt : ∀ {a a' : Rendering Unit}, R Unit a a' → R (Option Error) (attempt a) (attempt a')
  collect : ∀ {a a' : Rendering Unit}, R Unit a a' →
    R (Option Error × List UInt8) (collect a) (collect a')

theorem Congruence.flip {R : (α : Type) → Rendering α → Rendering α → Prop}
    (congruent : Congruence R) : Congruence fun α a b => R α b a where
  pure := congruent.pure
  throw := congruent.throw
  text := congruent.text
  bind first rest := congruent.bind first rest
  capture := congruent.capture
  inside := congruent.inside

theorem Catching.flip {R : (α : Type) → Rendering α → Rendering α → Prop} (catching : Catching R) :
    Catching fun α a b => R α b a where
  toCongruence := catching.toCongruence.flip
  attempt := catching.attempt
  collect := catching.collect

theorem lift_bind (action : Emit α) (next : α → Emit β) :
    (liftM (action >>= next) : Rendering β) = liftM action >>= fun a => liftM (next a) := by
  funext s
  show some ((action >>= next) s) = _
  rw [Emit.bind_apply, bind_apply]
  show _ = match some (action s) with
    | some (.ok a, s) => some (next a s)
    | some (.error e, s) => some (.error e, s)
    | none => none
  rcases action s with ⟨_ | a, s'⟩
  · rfl
  · rfl

namespace Congruence

variable {R : (α : Type) → Rendering α → Rendering α → Prop} (congruent : Congruence R)

include congruent

theorem forM {α : Type} {action action' : α → Rendering PUnit} {as : List α}
    (each : ∀ a ∈ as, R PUnit (action a) (action' a)) :
    R PUnit (as.forM action) (as.forM action') := by
  induction as with
  | nil => exact congruent.pure ()
  | cons a as ih =>
    obtain ⟨first, later⟩ := List.forall_mem_cons.1 each
    exact congruent.bind first fun _ => ih later

theorem textThen {α : Type} (s : Text) (a : α) :
    R α (liftM (do Emit.text s; return a : Emit α))
      (liftM (do Emit.text s; return a : Emit α)) := by
  rw [lift_bind]
  exact congruent.bind (congruent.text s) fun _ => congruent.pure a

theorem htmlFallback (escape : Html.Escape) (raw : Bool) (d : Host.Document) (source : Text)
    (n : Node) (entering : Bool) :
    R Status (htmlFallback escape raw d source n entering)
      (htmlFallback escape raw d source n entering) := by
  cases n with
  | leaf l =>
    cases entering with
    | false => exact congruent.pure _
    | true => exact congruent.textThen _ _
  | branch b below =>
    cases entering with
    | false => exact congruent.textThen _ _
    | true => exact congruent.textThen _ _

section

variable {visit visit' : Visitor Rendering}

theorem tourNode {n : Node} {each each' : Rendering Unit} {inside inside' : Rendering Status}
    (visits : ∀ entering, R Status (visit n each entering) (visit' n each' entering))
    (walks : R Status inside inside') :
    R Status (tourNode visit n each inside) (tourNode visit' n each' inside') := by
  refine congruent.bind (visits true) fun answer => ?_
  cases answer with
  | stop => exact congruent.pure _
  | skipChildren => exact visits false
  | «continue» =>
    refine congruent.bind walks fun answer => ?_
    cases answer with
    | stop => exact congruent.pure _
    | _ => exact visits false

def Visits (R : (α : Type) → Rendering α → Rendering α → Prop) (visit visit' : Visitor Rendering) :
    Prop :=
  ∀ n each each' entering, R Unit each each' →
    R Status (visit n each entering) (visit' n each' entering)

mutual

theorem tour (visits : Visits R visit visit') (n : Node) :
    R Status (tour visit n) (tour visit' n) := by
  cases n with
  | leaf l =>
    exact congruent.tourNode (fun _ => visits _ _ _ _ (congruent.pure ())) (congruent.pure _)
  | branch b inside =>
    have each := tourEach visits inside
    exact congruent.tourNode (fun _ => visits _ _ _ _ each) (tourAll visits inside)

theorem tourAll (visits : Visits R visit visit') (ns : List Node) :
    R Status (tourAll visit ns) (tourAll visit' ns) := by
  cases ns with
  | nil => exact congruent.pure _
  | cons n rest =>
    refine congruent.bind (tour visits n) fun answer => ?_
    cases answer with
    | stop => exact congruent.pure _
    | _ => exact tourAll visits rest

theorem tourEach (visits : Visits R visit visit') (ns : List Node) :
    R Unit (tourEach visit ns) (tourEach visit' ns) := by
  cases ns with
  | nil => exact congruent.pure ()
  | cons n rest => exact congruent.bind (tour visits n) fun _ => tourEach visits rest

end

end

section

variable {below below' : Below} {ctx : Context}

theorem outlet
    (less : ∀ c, ctx.slot = some c → R Unit (below c ctx.withoutSlot) (below' c ctx.withoutSlot)) :
    R Unit (outlet below ctx) (outlet below' ctx) := by
  unfold Render.outlet
  cases found : ctx.slot with
  | none => exact congruent.throw _
  | some c => exact less c found

theorem element {home : Nat} {ctx' : Context} (d : Host.Document) {e : String × Template} {n : Node}
    {each each' : Rendering Unit} (walks : R Unit each each')
    (less : ∀ inner props, (elementSupplies d n).bind (.markdown home) e.2.schema = .ok props →
      R Unit (below (.filled e.2 props) (ctx.withChildren (.html (Text.lossy inner))))
        (below' (.filled e.2 props) (ctx'.withChildren (.html (Text.lossy inner))))) :
    R Unit (Web.element home below d ctx e n each) (Web.element home below' d ctx' e n each') := by
  refine congruent.bind (congruent.capture walks) fun inner => ?_
  cases bound : (elementSupplies d n).bind (Content.markdown home) e.2.schema with
  | error error => exact congruent.throw _
  | ok props => exact congruent.inside _ (less inner props bound)

theorem visit {web : Web} {home : Nat} {ctx' : Context} {d : Host.Document} {source : Text}
    {n : Node} {each each' : Rendering Unit} {entering : Bool} (walks : R Unit each each')
    (fallback : R Status ((web home).fallback d source n entering)
      ((web home).fallback d source n entering))
    (nodes : ∀ held, d.markup? n = some held →
      R Unit (below (.nodes home held .top) ctx) (below' (.nodes home held .top) ctx'))
    (elements : ∀ e props html, (web home).element? n = some e →
      (elementSupplies d n).bind (.markdown home) e.2.schema = .ok props →
      R Unit (below (.filled e.2 props) (ctx.withChildren (.html html)))
        (below' (.filled e.2 props) (ctx'.withChildren (.html html)))) :
    R Status (web.visit home below d source ctx n each entering)
      (web.visit home below' d source ctx' n each' entering) := by
  simp only [Web.visit]
  cases found : d.markup? n with
  | some held =>
    cases entering with
    | false => exact congruent.pure _
    | true => exact congruent.bind (nodes held found) fun _ => congruent.pure _
  | none =>
    cases taken : (web home).element? n with
    | none => exact fallback
    | some e =>
      cases entering with
      | false => exact congruent.pure _
      | true =>
        refine congruent.bind ?_ fun _ => congruent.pure _
        exact congruent.element d walks fun inner props bound => elements _ _ _ taken bound

variable (less : ∀ content ctx, R Unit (below content ctx) (below' content ctx))

include less

theorem node (web : Web) (home : Nat) (scope : Scope) (ctx : Context) (n : Markup.Node) :
    R Unit (web.node home below scope ctx n) (web.node home below' scope ctx n) := by
  cases n with
  | text value => exact less (.markdown home value) ctx
  | component c =>
    simp only [Web.node]
    cases instantiate home (web home).layout scope c with
    | ok content => exact less content ctx
    | error error => exact congruent.throw error

/-- What templates do is left to be shown; only a `Catching` relation holds of all of it. -/
theorem level {web : Web}
    (fallback : ∀ home d source n entering, R Status ((web home).fallback d source n entering)
      ((web home).fallback d source n entering)) {content : Content} {ctx : Context}
    (fills : ∀ t props, content = .filled t props →
      R Unit (perform below props ctx (t.routine props ctx.view))
        (perform below' props ctx (t.routine props ctx.view))) :
    R Unit (web.level below content ctx) (web.level below' content ctx) := by
  cases content with
  | html text => exact congruent.text text
  | join parts => exact congruent.forM fun part _ => less part ctx
  | filled t props => exact fills t props rfl
  | component home name t props nodes space => exact congruent.inside name (less _ _)
  | nodes home nodes scope =>
    exact congruent.forM fun n _ => congruent.node less web home scope ctx n
  | markdown home source =>
    simp only [Web.level]
    cases (web home).read source with
    | ok d => exact less _ _
    | error error => exact congruent.throw error
  | document home d source =>
    have visits : Visits R (web.visit home below d source ctx)
      (web.visit home below' d source ctx) :=
      fun n _ _ entering walks => congruent.visit walks (fallback home d source n entering)
        (fun _ _ => less _ _) fun _ _ _ _ _ => less _ _
    exact congruent.bind (congruent.tour visits d.root) fun _ => congruent.pure _
  | outlet => exact congruent.outlet fun c _ => less c _

end

end Congruence

theorem Catching.perform {R : (α : Type) → Rendering α → Rendering α → Prop}
    (catching : Catching R) (write : ∀ bytes, R Unit (Emit.write bytes) (Emit.write bytes))
    {below below' : Below} {props : Props Content} {ctx ctx' : Context} {r : Routine}
    (less : ∀ part setting, r.Asks part setting →
      R Unit (below (part.content props ctx) (setting.context props ctx))
        (below' (part.content props ctx') (setting.context props ctx'))) :
    R Unit (perform below props ctx r) (perform below' props ctx' r) := by
  induction r with
  | done result =>
    cases result with
    | ok answer => exact catching.pure ()
    | error e => exact catching.throw e
  | write bytes next ih =>
    refine catching.bind (catching.attempt (write bytes)) fun failure => ?_
    exact ih failure fun part setting asks => less part setting (.written failure asks)
  | render part setting next ih =>
    refine catching.bind (catching.attempt (less _ _ .render)) fun failure => ?_
    exact ih failure fun part setting asks => less part setting (.rendered failure asks)
  | collect part setting next ih =>
    refine catching.bind (catching.collect (less _ _ .collect)) fun (failure, bytes) => ?_
    exact ih failure bytes fun part setting asks =>
      less part setting (.collected failure bytes asks)

end Rendering
end Inlay.Render
