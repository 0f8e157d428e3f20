import Inlay.Render.Web

namespace Inlay.Render

open Inlay.Markdown (Node)

abbrev Path := List Nat

inductive Deed
  | fallback (entering : Bool) (answer : Except Error Status) (left : Sink)
  | markup
  | component

structure Event where
  path : Path
  deed : Deed

abbrev Report (α : Type) : Type := Option (Except Error α × Sink) × List Event

/-- An action with a journal, which is there also if the action fails or goes on without end. -/
def Journaled (α : Type) : Type := Sink → Report α

namespace Journaled

def result (action : Journaled α) : Rendering α := fun s => (action s).1

instance : Monad Journaled where
  pure a := fun s => (some (.ok a, s), [])
  bind action next := fun s =>
    match action s with
    | (some (.ok a, s), events) => ((next a s).1, events ++ (next a s).2)
    | (some (.error e, s), events) => (some (.error e, s), events)
    | (none, events) => (none, events)

def fail (e : Error) : Journaled α := fun s => (some (.error e, s), [])

def enter (path : Path) (deed : Deed) (action : Rendering α) : Journaled α := fun s =>
  (action s, [⟨path, deed⟩])

def ask (path : Path) (entering : Bool) (answer : Emit Status) : Journaled Status := fun s =>
  (some (answer s), [⟨path, .fallback entering (answer s).1 (answer s).2⟩])

def capture (action : Journaled Unit) : Journaled (List UInt8) := fun s =>
  (Rendering.capture action.result s, (action (.empty none)).2)

variable {α β : Type}

theorem bind_apply (action : Journaled α) (next : α → Journaled β) (s : Sink) :
    (action >>= next) s =
      match action s with
      | (some (.ok a, s), events) => ((next a s).1, events ++ (next a s).2)
      | (some (.error e, s), events) => (some (.error e, s), events)
      | (none, events) => (none, events) := rfl

theorem result_bind (action : Journaled α) (next : α → Journaled β) :
    (action >>= next).result = action.result >>= fun a => (next a).result := by
  funext s
  rw [Rendering.bind_apply, result, result, bind_apply]
  rcases action s with ⟨_ | ⟨_ | _, _⟩, _⟩ <;> rfl

theorem bind_cases (action : Journaled α) (next : α → Journaled β) (s : Sink) :
    (∃ a s', (action s).1 = some (.ok a, s') ∧
      (action >>= next) s = ((next a s').1, (action s).2 ++ (next a s').2)) ∨
    ((∀ a s', (action s).1 ≠ some (.ok a, s')) ∧ ((action >>= next) s).2 = (action s).2 ∧
      ∀ b s', ((action >>= next) s).1 ≠ some (.ok b, s')) := by
  rw [bind_apply]
  rcases action s with ⟨_ | ⟨_ | a, s'⟩, events⟩
  · exact .inr ⟨fun _ _ => nofun, rfl, fun _ _ => nofun⟩
  · exact .inr ⟨fun _ _ => nofun, rfl, fun _ _ => nofun⟩
  · exact .inl ⟨a, s', rfl, rfl⟩

theorem mem_bind {action : Journaled α} {next : α → Journaled β} {s : Sink} {e : Event}
    (member : e ∈ ((action >>= next) s).2) :
    e ∈ (action s).2 ∨ ∃ a s', (action s).1 = some (.ok a, s') ∧ e ∈ (next a s').2 := by
  rcases bind_cases action next s with ⟨a, s', done, whole⟩ | ⟨-, same, -⟩
  · rw [whole] at member
    rcases List.mem_append.1 member with first | later
    · exact .inl first
    · exact .inr ⟨a, s', done, later⟩
  · exact .inl (same ▸ member)

theorem skipping_apply (action : Journaled Unit) (s : Sink) :
    ∃ outcome, (do action; return Status.skipChildren : Journaled Status) s =
        (outcome, (action s).2) ∧
      ∀ answer s', outcome = some (.ok answer, s') → answer = .skipChildren := by
  rcases bind_cases action (fun _ => pure Status.skipChildren) s with
    ⟨a, s', -, whole⟩ | ⟨-, same, failed⟩
  · refine ⟨_, whole.trans (Prod.ext rfl (List.append_nil _)), ?_⟩
    rintro _ _ ⟨⟩
    rfl
  · exact ⟨_, Prod.ext rfl same, fun answer s' done => absurd done (failed answer s')⟩

end Journaled

section

variable {m : Type → Type} [Monad m]

mutual

def tourAt (visit : Path → Visitor m) (path : Path) : Node → m Status
  | .leaf l => tourNode (visit path) (.leaf l) (return ()) (return .continue)
  | .branch b below =>
    tourNode (visit path) (.branch b below) (tourEachAt visit path 0 below)
      (tourAllAt visit path 0 below)

def tourAllAt (visit : Path → Visitor m) (path : Path) (i : Nat) : List Node → m Status
  | [] => return .continue
  | n :: r => do
    match ← tourAt visit (path ++ [i]) n with
    | .stop => return .stop
    | _ => tourAllAt visit path (i + 1) r

def tourEachAt (visit : Path → Visitor m) (path : Path) (i : Nat) : List Node → m Unit
  | [] => return ()
  | n :: r => do
    let _ ← tourAt visit (path ++ [i]) n
    tourEachAt visit path (i + 1) r

end

end

section

variable {visit : Path → Visitor Journaled} {plain : Visitor Rendering}

theorem result_tourNode {path : Path} {n : Node} {each : Journaled Unit} {below : Journaled Status}
    (same : ∀ entering, (visit path n each entering).result = plain n each.result entering) :
    (tourNode (visit path) n each below).result = tourNode plain n each.result below.result := by
  rw [tourNode, tourNode, Journaled.result_bind, same]
  congr 1
  funext answer
  cases answer with
  | stop => rfl
  | skipChildren => exact same false
  | «continue» =>
    refine (Journaled.result_bind ..).trans ?_
    congr 1
    funext answer
    cases answer with
    | stop => rfl
    | _ => exact same false

def Follows (visit : Path → Visitor Journaled) (plain : Visitor Rendering) : Prop :=
  ∀ path n each entering, (visit path n each entering).result = plain n each.result entering

mutual

theorem result_tourAt (same : Follows visit plain) (path : Path) (n : Node) :
    (tourAt visit path n).result = tour plain n := by
  cases n with
  | leaf l =>
    rw [tourAt, tour, result_tourNode (same path _ _)]
    rfl
  | branch b below =>
    rw [tourAt, tour, result_tourNode (same path _ _), result_tourEachAt same,
      result_tourAllAt same]

theorem result_tourAllAt (same : Follows visit plain) (path : Path) (i : Nat) (ns : List Node) :
    (tourAllAt visit path i ns).result = tourAll plain ns := by
  cases ns with
  | nil =>
    rw [tourAllAt, tourAll]
    rfl
  | cons n rest =>
    rw [tourAllAt, tourAll, Journaled.result_bind, result_tourAt same]
    congr 1
    funext answer
    cases answer with
    | stop => rfl
    | _ => exact result_tourAllAt same path (i + 1) rest

theorem result_tourEachAt (same : Follows visit plain) (path : Path) (i : Nat) (ns : List Node) :
    (tourEachAt visit path i ns).result = tourEach plain ns := by
  cases ns with
  | nil =>
    rw [tourEachAt, tourEach]
    rfl
  | cons n rest =>
    rw [tourEachAt, tourEach, Journaled.result_bind, result_tourAt same]
    congr 1
    funext _
    exact result_tourEachAt same path (i + 1) rest

end

end

namespace Web

def componentAt (home : Nat) (below : Below) (d : Host.Document) (ctx : Context)
    (e : String × Template) (path : Path) (n : Node) (inner : List UInt8) : Journaled Unit :=
  let name := e.1.toList
  match (elementSupplies d n).bind (.markdown home) e.2.schema with
  | .error error => .fail (.inside name error)
  | .ok props =>
    .enter path .component <| Rendering.inside name <|
      below (.filled e.2 props) (ctx.withChildren (.html (Text.lossy inner)))

def elementAt (home : Nat) (below : Below) (d : Host.Document) (ctx : Context)
    (e : String × Template) (path : Path) (n : Node) (each : Journaled Unit) : Journaled Unit :=
  each.capture >>= componentAt home below d ctx e path n

def visitAt (web : Web) (home : Nat) (below : Below) (d : Host.Document) (source : Text)
    (ctx : Context) (path : Path) : Visitor Journaled := fun n each entering => do
  match d.markup? n with
  | some nodes =>
    if entering then .enter path .markup (below (.nodes home nodes .top) ctx)
    return .skipChildren
  | none =>
    match (web home).element? n with
    | some e =>
      if entering then elementAt home below d ctx e path n each
      return .skipChildren
    | none => .ask path entering ((web home).fallback d source n entering)

def journal (web : Web) (home : Nat) (d : Host.Document) (source : Text) (ctx : Context) :
    Journaled Unit := do
  let _ ← tourAt (web.visitAt home web.render d source ctx) [] d.root

theorem visitAt_cases (web : Web) (home : Nat) (below : Below) (d : Host.Document) (source : Text)
    (ctx : Context) (p : Path) (n : Node) (each : Journaled Unit) (entering : Bool) :
    (∃ answer, web.visitAt home below d source ctx p n each entering = .ask p entering answer) ∨
    (∃ work : Rendering Unit, entering = true ∧
      web.visitAt home below d source ctx p n each entering =
        (do .enter p .markup work; return .skipChildren)) ∨
    (∃ e, entering = true ∧ (web home).element? n = some e ∧
      web.visitAt home below d source ctx p n each entering =
        (do elementAt home below d ctx e p n each; return .skipChildren)) ∨
    (entering = false ∧
      web.visitAt home below d source ctx p n each entering = (return .skipChildren)) := by
  unfold visitAt
  cases d.markup? n with
  | some nodes =>
    cases entering with
    | true => exact .inr (.inl ⟨_, rfl, rfl⟩)
    | false => exact .inr (.inr (.inr ⟨rfl, rfl⟩))
  | none =>
    cases taken : (web home).element? n with
    | none => exact .inl ⟨_, rfl⟩
    | some e =>
      cases entering with
      | true => exact .inr (.inr (.inl ⟨e, rfl, rfl, rfl⟩))
      | false => exact .inr (.inr (.inr ⟨rfl, rfl⟩))

theorem elementAt_events (home : Nat) (below : Below) (d : Host.Document) (ctx : Context)
    (e : String × Template) (p : Path) (n : Node) (each : Journaled Unit) (s : Sink) :
    ∃ last, (elementAt home below d ctx e p n each s).2 = (each (.empty none)).2 ++ last ∧
      ∀ event ∈ last, event = ⟨p, .component⟩ := by
  have component (inner : List UInt8) (s : Sink) :
      ∀ event ∈ (componentAt home below d ctx e p n inner s).2, event = ⟨p, .component⟩ := by
    unfold componentAt
    cases (elementSupplies d n).bind (Content.markdown home) e.2.schema with
    | error error => exact nofun
    | ok props => exact fun event member => List.mem_singleton.1 member
  rcases Journaled.bind_cases each.capture (componentAt home below d ctx e p n) s with
    ⟨inner, s', -, whole⟩ | ⟨-, same, -⟩
  · exact ⟨_, congrArg Prod.snd whole, component inner s'⟩
  · exact ⟨[], same.trans (List.append_nil _).symm, nofun⟩

theorem result_elementAt (home : Nat) (below : Below) (d : Host.Document) (ctx : Context)
    (e : String × Template) (path : Path) (n : Node) (each : Journaled Unit) :
    (elementAt home below d ctx e path n each).result =
      element home below d ctx e n each.result := by
  refine (Journaled.result_bind ..).trans ?_
  rw [element]
  congr 1
  funext inner
  rw [componentAt]
  cases (elementSupplies d n).bind (Content.markdown home) e.2.schema <;> rfl

theorem follows_visitAt (web : Web) (home : Nat) (below : Below) (d : Host.Document) (source : Text)
    (ctx : Context) :
    Follows (web.visitAt home below d source ctx) (web.visit home below d source ctx) := by
  intro path n each entering
  simp only [visitAt, visit]
  cases d.markup? n with
  | some nodes =>
    cases entering with
    | false => rfl
    | true => exact Journaled.result_bind ..
  | none =>
    cases (web home).element? n with
    | none => rfl
    | some e =>
      cases entering with
      | false => rfl
      | true =>
        simp only [↓reduceIte, Journaled.result_bind, result_elementAt]
        rfl

theorem result_journal (web : Web) (home : Nat) (d : Host.Document) (source : Text)
    (ctx : Context) :
    (web.journal home d source ctx).result = web.render (.document home d source) ctx := by
  rw [render_eq]
  refine (Journaled.result_bind ..).trans ?_
  rw [result_tourAt (web.follows_visitAt home web.render d source ctx)]
  rfl

end Web
end Inlay.Render
