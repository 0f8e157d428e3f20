import Inlay.Proofs.Render.Provenance
import Inlay.Proofs.Render.Slots
import Inlay.Proofs.Render.Watch

namespace Inlay.Render

open Inlay.Markdown (Node)

/-! ## Errors and failures -/

namespace Error

theorem cause_of_path {e : Error} (root : e.path = []) : e.cause = e := by
  cases e with
  | inside name inner => cases root
  | _ => rfl

theorem failure_of_path {e : Error} (root : e.path = []) (path : List Text) :
    e.failure path = ⟨path, e⟩ := by
  rw [failure, root, cause_of_path root, List.append_nil]

theorem failure_inside (path : List Text) (name : Text) (e : Error) :
    (inside name e).failure path = e.failure (path ++ [name]) := by
  rw [failure, failure, List.append_assoc]
  rfl

theorem within_path (e : Error) : e.cause.within e.path = e := by
  induction e with
  | inside name inner ih => exact congrArg (inside name) ih
  | _ => rfl

theorem path_cause (e : Error) : e.cause.path = [] := by
  induction e with
  | inside name inner ih => exact ih
  | _ => rfl

theorem told_failure (path : List Text) (e : Error) : (e.failure path).told path = e := by
  rw [Failure.told, failure, List.drop_left, within_path]

def Known (path : List Text) (met : List Failure) : Prop :=
  ∀ failure ∈ met, ∃ e : Error, failure = e.failure path

theorem Known.append {path : List Text} {met met' : List Failure} (known : Known path met)
    (known' : Known path met') : Known path (met ++ met') :=
  fun failure member => (List.mem_append.1 member).elim (known failure) (known' failure)

/-- A failure that a template ends with is its error inside of it, whether it has met it or not. -/
theorem raised_eq {path : List Text} {met : List Failure} (known : Known path met) (e : Error) :
    Failure.raised path met e = e.failure path := by
  rw [Failure.raised]
  cases found : met.find? fun failure => failure.told path = e with
  | none => rfl
  | some failure =>
    obtain ⟨e', rfl⟩ := known failure (List.mem_of_find?_eq_some found)
    have same := List.find?_some found
    rw [decide_eq_true_eq, told_failure] at same
    rw [same]
    rfl

end Error

def Plainly (r : Except Error α) : Prop := ∀ e, r = .error e → e.path = []

theorem Plainly.ok (a : α) : Plainly (.ok a) := nofun

theorem Plainly.error {e : Error} (root : e.path = []) : Plainly (.error e : Except Error α) := by
  intro e same
  cases same
  exact root

theorem Plainly.bind {r : Except Error α} {next : α → Except Error β} (first : Plainly r)
    (rest : ∀ a, Plainly (next a)) : Plainly (r >>= next) := by
  cases r with
  | ok a => exact rest a
  | error e => exact .error (first e rfl)

/-! ## Binding -/

section

variable {γ : Type} {markdown : Text → γ}

theorem plainly_coerce {s : Supplied γ} (made : ∀ r, s = .component r → Plainly r) (f : Field) :
    Plainly (s.coerce markdown f) := by
  rw [Supplied.coerce.eq_def]
  split
  · exact .ok _
  · exact .ok _
  · split
    · exact .ok _
    · exact .error rfl
  · split
    · exact .ok _
    · exact .error rfl
  · exact .ok _
  · next r _ =>
    cases r with
    | ok content => exact .ok _
    | error e => exact .error (made _ rfl e rfl)
  · exact .error rfl

theorem plainly_asAttribute (name : Text) (s : Supplied γ) : Plainly (s.asAttribute name) := by
  cases s with
  | string text => exact .ok _
  | flag => exact .ok _
  | component made => exact .error rfl

theorem plainly_attributes (supplies : Supplies γ) :
    Plainly (supplies.mapM fun p => p.2.asAttribute p.1) := by
  induction supplies with
  | nil => exact .ok _
  | cons p rest ih =>
    rw [List.mapM_cons]
    exact (plainly_asAttribute p.1 p.2).bind fun pair => ih.bind fun pairs => .ok _

end

section

variable {path : List Text} {markdown : Text → Content}

def Supplied.watched (path : List Text) : Supplied Content → Supplied (Except Failure Content)
  | .string text => .string text
  | .flag => .flag
  | .component made => .component (.ok (made.mapError (Error.failure path)))

def Supplies.watched (path : List Text) (supplies : Supplies Content) :
    Supplies (Except Failure Content) :=
  supplies.map fun p => (p.1, p.2.watched path)

theorem coerce_watched (s : Supplied Content) (f : Field) :
    (((s.watched path).coerce (fun text => .ok (markdown text)) f).mapError (Failure.mk path) >>=
      Value.settle) = (s.coerce markdown f).mapError (Error.failure path) := by
  obtain ⟨name, kind⟩ := f
  have mismatch (fault : BindFault) :
      (.error ⟨path, .bind fault⟩ : Except Failure (Value Content)) =
        .error (Error.failure path (.bind fault)) := by rw [Error.failure_of_path rfl]
  cases s with
  | string text =>
    cases kind with
    | integer =>
      simp only [Supplied.watched, Supplied.coerce]
      cases Number.integer? text.trim with
      | some number => rfl
      | none => exact mismatch _
    | float =>
      simp only [Supplied.watched, Supplied.coerce]
      cases Number.float? text.trim with
      | some number => rfl
      | none => exact mismatch _
    | string => rfl
    | component => rfl
    | _ => exact mismatch _
  | flag =>
    cases kind with
    | boolean => rfl
    | _ => exact mismatch _
  | component made =>
    cases kind with
    | component => cases made <;> rfl
    | _ => exact mismatch _

namespace Supplies

variable {supplies : Supplies Content}

theorem for?_watched (f : Field) :
    (supplies.watched path).for? f = (supplies.for? f).map (Supplied.watched path) := by
  rw [for?, for?, List.findRev?_eq_find?_reverse, List.findRev?_eq_find?_reverse, watched,
    ← List.map_reverse, List.find?_map, Option.map_map, Option.map_map]
  rfl

theorem untaken_watched (schema : Schema) :
    (supplies.watched path).untaken schema = (supplies.untaken schema).watched path := by
  rw [untaken, watched, List.filter_map]
  rfl

theorem bindFieldsIn_watched (props : Props Content) (schema : Schema) :
    (supplies.watched path).bindFieldsIn path markdown props schema =
      (supplies.bindFields markdown props schema).mapError (Error.failure path) := by
  induction schema generalizing props with
  | nil => rfl
  | cons f r ih =>
    rw [bindFieldsIn, bindFields, for?_watched]
    cases supplies.for? f with
    | none => exact ih props
    | some s =>
      dsimp only [Option.map_some]
      rw [← bind_assoc, coerce_watched s f]
      cases s.coerce markdown f with
      | error e => rfl
      | ok v => exact ih (props.put f.name v)

theorem attributes_watched : (supplies.watched path).mapM (fun p => p.2.asAttribute p.1) =
    supplies.mapM fun p => p.2.asAttribute p.1 := by
  induction supplies with
  | nil => rfl
  | cons p rest ih =>
    have first : (p.2.watched path).asAttribute p.1 = p.2.asAttribute p.1 := by
      cases p.2 <;> rfl
    rw [List.mapM_cons, ← ih, ← first, watched, List.map_cons, List.mapM_cons]
    rfl

theorem bindIn_watched (schema : Schema) :
    (supplies.watched path).bindIn path markdown schema =
      (supplies.bind markdown schema).mapError (Error.failure path) := by
  rw [bindIn, bind, bindFieldsIn_watched]
  cases supplies.bindFields markdown [] schema with
  | error e => rfl
  | ok props =>
    simp only [untaken_watched, attributes_watched]
    cases schema.bag? with
    | some bag =>
      have plainly := plainly_attributes (supplies.untaken schema)
      cases found : ((supplies.untaken schema).mapM fun p => p.2.asAttribute p.1 :
        Except Error _) with
      | ok pairs => rfl
      | error e => exact congrArg Except.error (Error.failure_of_path (plainly e found) path).symm
    | none =>
      cases supplies.untaken schema with
      | nil => rfl
      | cons p rest =>
        have names : (watched path (p :: rest)).map (·.1) = (p :: rest).map (·.1) := by
          rw [watched, List.map_map]
          rfl
        show Except.error ⟨path, .bind (.unknown ((watched path (p :: rest)).map (·.1)))⟩ =
          Except.error (Error.failure path (.bind (.unknown ((p :: rest).map (·.1)))))
        rw [names, Error.failure_of_path rfl]

theorem plainly_bind {γ : Type} {markdown : Text → γ} {supplies : Supplies γ}
    (made : ∀ name r, (name, Supplied.component r) ∈ supplies → Plainly r) (schema : Schema) :
    Plainly (supplies.bind markdown schema) := by
  have fields (props : Props γ) (fields : Schema) :
      Plainly (supplies.bindFields markdown props fields) := by
    induction fields generalizing props with
    | nil => exact .ok _
    | cons f r ih =>
      rw [bindFields]
      split
      · exact ih props
      · next s found =>
        obtain ⟨⟨name, _⟩, first, rfl⟩ := Option.map_eq_some_iff.1 found
        rw [List.findRev?_eq_find?_reverse] at first
        have member := List.mem_reverse.1 (List.mem_of_find?_eq_some first)
        refine Plainly.bind (plainly_coerce (fun r same => made name r ?_) f) fun v => ih _
        rwa [← same]
  rw [bind]
  refine (fields [] schema).bind fun props => ?_
  dsimp only
  split
  · exact (plainly_attributes _).bind fun pairs => .ok _
  · split
    · exact .ok _
    · exact .error rfl

end Supplies

end

/-! ## Instances -/

section

variable {home : Nat} {top : Layout}

mutual

theorem instantiateIn_eq (path : List Text) (scope : Scope) (c : Markup.Component) :
    instantiateIn home top path scope c =
      (instantiate home top scope c).mapError (Error.failure path) := by
  obtain ⟨name, properties, below, location⟩ := c
  rw [instantiateIn, instantiate]
  split
  · rfl
  · cases scope.resolve top name with
    | error fault => exact congrArg Except.error (Error.failure_of_path rfl path).symm
    | ok e =>
      dsimp only
      rw [supplyAllIn_eq, Supplies.bindIn_watched]
      cases (supplyAll home top (.inside e.inside) properties).bind (Content.markdown home)
        e.template.schema with
      | ok props => rfl
      | error error => exact congrArg Except.error (Error.failure_inside path name error).symm

theorem supplyAllIn_eq (path : List Text) (scope : Scope) (properties : List Markup.Property) :
    supplyAllIn home top path scope properties =
      (supplyAll home top scope properties).watched path := by
  cases properties with
  | nil => rfl
  | cons p rest =>
    obtain ⟨name, value⟩ := p
    rw [supplyAllIn, supplyIn_eq, supplyAllIn_eq]
    rfl

theorem supplyIn_eq (path : List Text) (scope : Scope) (value : Markup.Value) :
    supplyIn home top path scope value = (supply home top scope value).watched path := by
  cases value with
  | string text => rfl
  | flag => rfl
  | component inner =>
    rw [supplyIn, instantiateIn_eq]
    rfl

end

end

/-! ## Watched actions -/

theorem Watching.bind_apply (action : Watching α) (next : α → Watching β) (s : Sink) :
    (action >>= next) s =
      match action s with
      | some (.ok a, s) => next a s
      | some (.error failure, s) => some (.error failure, s)
      | none => none := by
  show (action s).bind (fun outcome => ExceptT.bindCont next outcome.1 outcome.2) = _
  rcases action s with _ | ⟨_ | _, _⟩ <;> rfl

namespace Rendering

/-- An action as it is watched inside some templates. -/
def watched (path : List Text) (action : Rendering α) : Watching α := fun s =>
  (action s).map fun (result, s) => (result.mapError (Error.failure path), s)

variable {path : List Text}

theorem watched_throw (e : Error) :
    watched path (throw e : Rendering α) = throw (e.failure path) := rfl

theorem watched_bind (action : Rendering α) (next : α → Rendering β) :
    watched path (action >>= next) = watched path action >>= fun a => watched path (next a) := by
  funext s
  rw [Watching.bind_apply, watched, Rendering.bind_apply, watched]
  rcases action s with _ | ⟨_ | _, _⟩ <;> rfl

theorem watched_capture (action : Rendering Unit) :
    watched path (capture action) = Watching.capture (watched path action) := by
  funext s
  rw [watched, capture, Watching.capture, watched, Option.map_map, Option.map_map]
  congr 1
  funext outcome
  obtain ⟨_ | _, _⟩ := outcome <;> rfl

theorem watched_attempt (action : Rendering Unit) :
    watched path (attempt action) = do
      return (← Watching.attempt (watched path action)).map (·.told path) := by
  funext s
  rw [Watching.bind_apply, watched, attempt, Watching.attempt, watched]
  rcases action s with _ | ⟨e | _, _⟩
  · rfl
  · exact congrArg (fun e => some (Except.ok (some e), _)) (Error.told_failure path e).symm
  · rfl

theorem watched_collect (action : Rendering Unit) :
    watched path (collect action) = do
      let (failure, bytes) ← Watching.collect (watched path action)
      return (failure.map (·.told path), bytes) := by
  funext s
  rw [Watching.bind_apply, watched, collect, Watching.collect, watched]
  rcases action (.empty none) with _ | ⟨e | _, _⟩
  · rfl
  · exact congrArg (fun e => some (Except.ok (some e, _), _)) (Error.told_failure path e).symm
  · rfl

theorem watched_inside (name : Text) (action : Rendering α) :
    watched path (inside name action) = watched (path ++ [name]) action := by
  funext s
  rw [watched, inside, watched, Option.map_map]
  congr 1
  funext outcome
  obtain ⟨e | a, s⟩ := outcome
  · exact congrArg (fun failure => (Except.error failure, s)) (Error.failure_inside path name e)
  · rfl

theorem plainly_write (bytes : List UInt8) (s : Sink) : Plainly (Emit.write bytes s).1 := by
  unfold Emit.write
  split
  · exact .ok _
  · split
    · exact .ok _
    · exact .error rfl

theorem watched_lift {action : Emit α} (plainly : ∀ s, Plainly (action s).1) :
    watched path (liftM action) = Watching.emit path action := by
  funext s
  have plainly := plainly s
  show some ((action s).1.mapError (Error.failure path), (action s).2) = _
  rw [Watching.emit]
  generalize action s = outcome at plainly ⊢
  obtain ⟨e | a, s⟩ := outcome
  · exact congrArg (fun failure => some (Except.error failure, s))
      (Error.failure_of_path (plainly e rfl) path)
  · rfl

end Rendering

namespace Watching

def Answers (action : Watching α) (answer : α) : Prop :=
  ∃ s s', action s = some (.ok answer, s')

theorem known_of_watched {path : List Text} {action : Rendering α} {s s' : Sink} {f : Failure}
    (found : action.watched path s = some (.error f, s')) : Error.Known path [f] := by
  obtain ⟨⟨e | _, _⟩, -, same⟩ := Option.map_eq_some_iff.1 found
  · cases same
    exact fun _ member => ⟨e, List.mem_singleton.1 member⟩
  · cases same

theorem known_of_attempt {path : List Text} {action : Rendering Unit} {failure : Option Failure}
    (answers : (attempt (action.watched path)).Answers failure) :
    Error.Known path failure.toList := by
  obtain ⟨s, s', found⟩ := answers
  obtain ⟨⟨f | _, _⟩, done, same⟩ := Option.map_eq_some_iff.1 found
  · cases same
    exact known_of_watched done
  · cases same
    exact nofun

theorem known_of_collect {path : List Text} {action : Rendering Unit} {failure : Option Failure}
    {bytes : List UInt8} (answers : (collect (action.watched path)).Answers (failure, bytes)) :
    Error.Known path failure.toList := by
  obtain ⟨s, s', found⟩ := answers
  obtain ⟨⟨f | _, _⟩, done, same⟩ := Option.map_eq_some_iff.1 found
  · cases same
    exact known_of_watched done
  · cases same
    exact nofun

/-- A comparison of watched actions that holds of two of them if it holds of their parts. -/
structure Comparison (Q : (α : Type) → Watching α → Watching α → Prop) : Prop where
  refl : ∀ {α : Type} (a : Watching α), Q α a a
  bind : ∀ {α β : Type} {a a' : Watching α} {next next' : α → Watching β}, Q α a a' →
    (∀ answer, a'.Answers answer → Q β (next answer) (next' answer)) →
    Q β (a >>= next) (a' >>= next')
  capture : ∀ {a a' : Watching Unit}, Q Unit a a' → Q (List UInt8) (capture a) (capture a')
  attempt : ∀ {a a' : Watching Unit}, Q Unit a a' → Q (Option Failure) (attempt a) (attempt a')
  collect : ∀ {a a' : Watching Unit}, Q Unit a a' →
    Q (Option Failure × List UInt8) (collect a) (collect a')

end Watching

namespace Watching.Comparison

open Rendering (watched watched_bind)

variable {Q : (α : Type) → Watching α → Watching α → Prop} (comparison : Comparison Q)
  {path : List Text}
include comparison

theorem fail {α : Type} {e : Error} (root : e.path = []) :
    Q α (.fail path e) (watched path (throw e)) := by
  rw [Rendering.watched_throw, Error.failure_of_path root]
  exact comparison.refl _

theorem emit {α : Type} {action : Emit α} (plainly : ∀ s, Plainly (action s).1) :
    Q α (.emit path action) (watched path (liftM action)) := by
  rw [Rendering.watched_lift plainly]
  exact comparison.refl _

theorem forM {α : Type} {action' : α → Watching PUnit} {action : α → Rendering PUnit}
    (each : ∀ a, Q PUnit (action' a) (watched path (action a))) (as : List α) :
    Q PUnit (as.forM action') (watched path (as.forM action)) := by
  induction as with
  | nil => exact comparison.refl _
  | cons a as ih =>
    show Q PUnit (action' a >>= fun _ => as.forM action')
      (watched path (action a >>= fun _ => as.forM action))
    rw [watched_bind]
    exact comparison.bind (each a) fun _ _ => ih

/-! ## Walks -/

def Visits (Q : (α : Type) → Watching α → Watching α → Prop) (path : List Text)
    (visit' : Visitor Watching) (visit : Visitor Rendering) : Prop :=
  ∀ n each' each entering, Q Unit each' (watched path each) →
    Q Status (visit' n each' entering) (watched path (visit n each entering))

section

variable {visit' : Visitor Watching} {visit : Visitor Rendering}

theorem tourNode (visits : Visits Q path visit' visit) {n : Node} {each' : Watching Unit}
    {each : Rendering Unit} {inside' : Watching Status} {inside : Rendering Status}
    (walk : Q Unit each' (watched path each)) (walks : Q Status inside' (watched path inside)) :
    Q Status (tourNode visit' n each' inside') (watched path (tourNode visit n each inside)) := by
  rw [Render.tourNode, Render.tourNode, watched_bind]
  refine comparison.bind (visits n each' each true walk) fun answer _ => ?_
  cases answer with
  | stop => exact comparison.refl _
  | skipChildren => exact visits n each' each false walk
  | «continue» =>
    dsimp only
    rw [watched_bind]
    refine comparison.bind walks fun answer _ => ?_
    cases answer with
    | stop => exact comparison.refl _
    | _ => exact visits n each' each false walk

mutual

theorem tour (visits : Visits Q path visit' visit) (n : Node) :
    Q Status (tour visit' n) (watched path (tour visit n)) := by
  cases n with
  | leaf l => exact comparison.tourNode visits (comparison.refl _) (comparison.refl _)
  | branch b inside =>
    exact comparison.tourNode visits (tourEach visits inside) (tourAll visits inside)

theorem tourAll (visits : Visits Q path visit' visit) (ns : List Node) :
    Q Status (tourAll visit' ns) (watched path (tourAll visit ns)) := by
  cases ns with
  | nil => exact comparison.refl _
  | cons n rest =>
    rw [Render.tourAll, Render.tourAll, watched_bind]
    refine comparison.bind (tour visits n) fun answer _ => ?_
    cases answer with
    | stop => exact comparison.refl _
    | _ => exact tourAll visits rest

theorem tourEach (visits : Visits Q path visit' visit) (ns : List Node) :
    Q Unit (tourEach visit' ns) (watched path (tourEach visit ns)) := by
  cases ns with
  | nil => exact comparison.refl _
  | cons n rest =>
    rw [Render.tourEach, Render.tourEach, watched_bind]
    exact comparison.bind (tour visits n) fun _ _ => tourEach visits rest

end

end

/-! ## Levels -/

section

variable {web : Web} {home : Nat} {below' : Web.BelowIn} {below : Below} {ctx : Context}
  (less : ∀ path content ctx, Q Unit (below' path content ctx) (watched path (below content ctx)))
include less

theorem outlet : Q Unit (Web.outletIn below' path ctx)
    (watched path (Render.outlet below ctx)) := by
  unfold Web.outletIn Render.outlet
  cases ctx.slot with
  | none => exact comparison.fail rfl
  | some c => exact less path c ctx.withoutSlot

omit comparison less in
theorem plainly_read (site : Site) (source : Text) : Plainly (site.read source) := by
  unfold Site.read
  split
  · exact .ok _
  · exact .error rfl

theorem perform (props : Props Content) (r : Routine) {met : List Failure}
    (known : Error.Known path met) :
    Q Unit (Web.performIn below' path props ctx met r)
      (watched path (Render.perform below props ctx r)) := by
  induction r generalizing met with
  | done result =>
    cases result with
    | ok answer => exact comparison.refl _
    | error e =>
      rw [Web.performIn, Error.raised_eq known]
      exact comparison.refl _
  | write bytes next ih =>
    rw [Web.performIn, Render.perform, watched_bind, Rendering.watched_attempt, bind_assoc]
    simp only [pure_bind]
    refine comparison.bind (comparison.attempt ?_) fun failure answers => ?_
    · exact comparison.emit (Rendering.plainly_write bytes)
    · exact ih _ ((Watching.known_of_attempt answers).append known)
  | render part setting next ih =>
    rw [Web.performIn, Render.perform, watched_bind, Rendering.watched_attempt, bind_assoc]
    simp only [pure_bind]
    refine comparison.bind (comparison.attempt (less path _ _)) fun failure answers => ?_
    exact ih _ ((Watching.known_of_attempt answers).append known)
  | collect part setting next ih =>
    rw [Web.performIn, Render.perform, watched_bind, Rendering.watched_collect, bind_assoc]
    simp only [pure_bind]
    refine comparison.bind (comparison.collect (less path _ _)) fun collected answers => ?_
    obtain ⟨failure, bytes⟩ := collected
    exact ih _ _ ((Watching.known_of_collect answers).append known)

theorem node (scope : Scope) (n : Markup.Node) :
    Q Unit (Web.nodeIn below' path web home scope ctx n)
      (watched path (web.node home below scope ctx n)) := by
  cases n with
  | text value => exact less path (.markdown home value) ctx
  | component c =>
    rw [Web.nodeIn, Web.node, instantiateIn_eq]
    cases instantiate home (web home).layout scope c with
    | ok content => exact less path content ctx
    | error e => exact comparison.refl _

theorem element (d : Host.Document) (e : String × Template) (n : Node) {each' : Watching Unit}
    {each : Rendering Unit} (walk : Q Unit each' (watched path each)) :
    Q Unit (Web.elementIn below' path home d ctx e n each')
      (watched path (Web.element home below d ctx e n each)) := by
  rw [Web.elementIn, Web.element, watched_bind, Rendering.watched_capture]
  refine comparison.bind (comparison.capture walk) fun inner _ => ?_
  -- what an element supplies is texts, so nothing is around an error of its binding
  have plainly : Plainly ((elementSupplies d n).bind (Content.markdown home) e.2.schema) := by
    refine Supplies.plainly_bind (fun name made member => ?_) e.2.schema
    rcases mem_elementSupplies member with ⟨-, -, url, other⟩ | ⟨place, id, -, other⟩
    · cases other
    · cases other
  cases bound : (elementSupplies d n).bind (Content.markdown home) e.2.schema with
  | error error =>
    dsimp only
    rw [Rendering.watched_throw, Error.failure_inside]
    exact comparison.fail (plainly error bound)
  | ok props =>
    dsimp only
    rw [Rendering.watched_inside]
    exact less _ _ _

theorem visits (d : Host.Document) (source : Text)
    (fallback : ∀ n entering s, Plainly ((web home).fallback d source n entering s).1) :
    Visits Q path (Web.visitIn below' path web home d source ctx)
      (web.visit home below d source ctx) := by
  intro n each' each entering walk
  simp only [Web.visitIn, Web.visit]
  cases d.markup? n with
  | some nodes =>
    cases entering with
    | false => exact comparison.refl _
    | true =>
      refine Eq.subst (watched_bind (below (.nodes home nodes .top) ctx) _).symm ?_
      exact comparison.bind (less path _ ctx) fun _ _ => comparison.refl _
  | none =>
    cases (web home).element? n with
    | none => exact comparison.emit (fallback n entering)
    | some e =>
      cases entering with
      | false => exact comparison.refl _
      | true =>
        refine Eq.subst (watched_bind (Web.element home below d ctx e n each) _).symm ?_
        exact comparison.bind (comparison.element less d e n walk) fun _ _ => comparison.refl _

theorem level (fallback : ∀ home d source n entering s,
    Plainly ((web home).fallback d source n entering s).1)
    (path : List Text) (content : Content) (ctx : Context) :
    Q Unit (web.levelIn below' path content ctx)
      (watched path (web.level below content ctx)) := by
  cases content with
  | html text => exact comparison.emit (Rendering.plainly_write text.utf8)
  | join parts => exact comparison.forM (fun part => less path part ctx) parts
  | filled t props => exact comparison.perform less props _ nofun
  | component home name t props nodes space =>
    rw [Web.level, Rendering.watched_inside]
    exact less _ _ _
  | nodes home nodes scope => exact comparison.forM (fun n => comparison.node less scope n) nodes
  | markdown home source =>
    rw [Web.levelIn, Web.level]
    have plainly := plainly_read (web home) source
    cases found : (web home).read source with
    | ok d => exact less path _ ctx
    | error e => exact comparison.fail (plainly e found)
  | document home d source =>
    rw [Web.levelIn, Web.level, Web.document, watched_bind]
    have visits : Visits Q path (Web.visitIn below' path web home d source ctx)
        (web.visit home below d source ctx) :=
          comparison.visits less d source (fallback home d source)
    exact comparison.bind (comparison.tour visits d.root) fun _ _ => comparison.refl _
  | outlet => exact comparison.outlet less

end

end Watching.Comparison

namespace Watching

theorem comparison_eq : Comparison fun _ a a' => a = a' where
  refl _ := rfl
  bind := by
    rintro α β a _ next next' rfl rest
    funext s
    rw [bind_apply, bind_apply]
    cases done : a s with
    | none => rfl
    | some outcome =>
      obtain ⟨failure | answer, s'⟩ := outcome
      · rfl
      · exact congrFun (rest answer ⟨s, s', done⟩) s'
  capture same := by rw [same]
  attempt same := by rw [same]
  collect same := by rw [same]

def Less (a a' : Watching α) : Prop := ∀ s outcome, a s = some outcome → a' s = some outcome

theorem Less.map_apply {a a' : Watching α}
    {f : Except Failure α × Sink → Except Failure β × Sink} {s : Sink}
    {outcome : Except Failure β × Sink} (less : Less a a')
    (found : (a s).map f = some outcome) : (a' s).map f = some outcome := by
  obtain ⟨result, done, rfl⟩ := Option.map_eq_some_iff.1 found
  rw [less s result done]
  rfl

theorem comparison_less : Comparison fun _ => Less where
  refl _ := fun _ _ outcome => outcome
  bind := by
    intro α β a a' next next' first rest s outcome found
    rw [bind_apply] at found ⊢
    cases done : a s with
    | none => rw [done] at found; cases found
    | some result =>
      rw [first s result done]
      rw [done] at found
      obtain ⟨failure | answer, s'⟩ := result
      · exact found
      · exact rest answer ⟨s, s', first s _ done⟩ s' outcome found
  capture less := fun _ _ found => less.map_apply found
  attempt less := fun _ _ found => less.map_apply found
  collect less := fun _ _ found => less.map_apply found

end Watching

/-! ## Rendering -/

namespace Web

variable {web : Web}

def watching (below : Below) : BelowIn := fun path content ctx => (below content ctx).watched path

/-- Watched rendering comes to what rendering comes to, with the names around the cause of an error
for the templates at hand. -/
theorem watched_iff
    (fallback : ∀ home d source n entering s,
      Plainly ((web home).fallback d source n entering s).1)
    {path : List Text} {content : Content} {ctx : Context} {s : Sink}
    {outcome : Except Failure Unit × Sink} :
    web.Watched path content ctx s outcome ↔
      (web.render content ctx).watched path s = some outcome := by
  constructor
  -- a watched level has no outcomes but those of the level, if so it is below
  · intro watched
    induction watched with
    | @level below path content ctx s outcome _ found ih =>
      have level := Watching.comparison_less.level
        (fun path content ctx s outcome => ih path content ctx s outcome) fallback path content ctx
      rw [render_eq]
      exact level s outcome found
  · intro found
    obtain ⟨⟨result, s'⟩, done, rfl⟩ := Option.map_eq_some_iff.1 found
    -- the other way by the induction of the fixed point, for every path
    refine web.render_induction (fun content ctx s outcome => ∀ path,
      web.Watched path content ctx s (outcome.1.mapError (Error.failure path), outcome.2)) ?_
      content ctx s (result, s') done path
    intro below known content ctx s outcome done path
    have level : web.levelIn (watching below) path content ctx =
        (web.level below content ctx).watched path :=
      Watching.comparison_eq.level (fun _ _ _ => rfl) fallback path content ctx
    have calls (path : List Text) (content : Content) (ctx : Context) (s : Sink)
        (outcome : Except Failure Unit × Sink)
        (found : watching below path content ctx s = some outcome) :
        web.Watched path content ctx s outcome := by
      obtain ⟨outcome, done, rfl⟩ := Option.map_eq_some_iff.1 found
      exact known content ctx s outcome done path
    refine .level calls ?_
    rw [level, Rendering.watched, done]
    rfl

theorem plainly_htmlFallback (escape : Html.Escape) (raw : Bool) (d : Host.Document) (source : Text)
    (n : Node)
    (entering : Bool) (s : Sink) : Plainly (htmlFallback escape raw d source n entering s).1 := by
  have textThen (text : Text) (answer : Status) :
      Plainly ((do Emit.text text; return answer : Emit Status) s).1 := by
    have plainly := Rendering.plainly_write text.utf8 s
    rw [Emit.bind_apply, Emit.text]
    generalize Emit.write text.utf8 s = outcome at plainly ⊢
    obtain ⟨e | _, s'⟩ := outcome
    · exact .error (plainly e rfl)
    · exact .ok answer
  cases n with
  | leaf leaf =>
    cases entering with
    | false => exact .ok _
    | true => exact textThen _ _
  | branch b inside =>
    cases entering with
    | false => exact textThen _ _
    | true => exact textThen _ _

end Web
end Inlay.Render
