import Inlay.Render.Approximation

namespace Inlay.Render
namespace Web

-- A recursive call that is written out as a term is recorded with its place in the file, and the
-- fixed point keeps that.
def renderFrom (web : Web) (content : Content) (ctx : Context) (s : Sink) :
    Option (Except Error Unit × Sink) :=
  web.level (fun content ctx s => by apply renderFrom <;> assumption) content ctx s
partial_fixpoint monotonicity by
  intro below below' less content ctx s
  have more (content : Content) (ctx : Context) :
      Rendering.Approximates (α := Unit) (below content ctx) (below' content ctx) := by
    intro s outcome found
    have step := less content ctx s
    rw [found] at step
    generalize below' content ctx s = found' at step ⊢
    cases step
    rfl
  have outcomes := approximates_level more web content ctx s
  dsimp only
  generalize web.level below content ctx s = found at *
  cases found with
  | none => with_unfolding_all constructor
  | some outcome =>
    rw [outcomes outcome rfl]
    with_unfolding_all constructor

section

variable (web : Web)

def render (content : Content) (ctx : Context) : Rendering Unit :=
  web.renderFrom content ctx

theorem render_eq (content : Content) (ctx : Context) :
    web.render content ctx = web.level web.render content ctx := by
  funext s
  rw [render, renderFrom]
  rfl

/-- What holds of the outcomes of a level, as long as it holds of those of the levels below, holds
of the outcomes of rendering. -/
theorem render_induction
    (motive : Content → Context → Sink → Except Error Unit × Sink → Prop)
    (step : ∀ below : Below,
      (∀ content ctx s outcome, below content ctx s = some outcome → motive content ctx s outcome) →
      ∀ content ctx s outcome, web.level below content ctx s = some outcome →
        motive content ctx s outcome) :
    ∀ content ctx s outcome, web.render content ctx s = some outcome →
      motive content ctx s outcome :=
  renderFrom.partial_correctness web motive step

/-- The same, where the levels below are known to have no outcomes but those of rendering. -/
theorem render_induction_below
    (motive : Content → Context → Sink → Except Error Unit × Sink → Prop)
    (step : ∀ below : Below,
      (∀ content ctx, (below content ctx).Approximates (web.render content ctx)) →
      (∀ content ctx s outcome, below content ctx s = some outcome → motive content ctx s outcome) →
      ∀ content ctx s outcome, web.level below content ctx s = some outcome →
        motive content ctx s outcome)
    (content : Content) (ctx : Context) (s : Sink) (outcome : Except Error Unit × Sink)
    (found : web.render content ctx s = some outcome) : motive content ctx s outcome := by
  have both := web.render_induction fun content ctx s outcome =>
    web.render content ctx s = some outcome ∧ motive content ctx s outcome
  refine (both ?_ content ctx s outcome found).2
  intro below known content ctx s outcome found
  have less (content : Content) (ctx : Context) :
      (below content ctx).Approximates (web.render content ctx) :=
    fun s outcome found => (known content ctx s outcome found).1
  constructor
  · rw [render_eq]
    exact approximates_level less web content ctx s outcome found
  · exact step below less (fun c x s o f => (known c x s o f).2) content ctx s outcome found

def renderChildren (ctx : Context) : Rendering Unit :=
  match ctx.children with
  | some c => web.render c ctx
  | none => return ()

def renderSlot (ctx : Context) : Rendering Unit := outlet web.render ctx

def convert (home : Nat) (source : Text) (ctx : Context) : Rendering Unit :=
  web.render (.markdown home source) ctx

/-- Content that renders a source later; that it cannot be read is known at once. -/
def prepare (home : Nat) (source : Text) : Except Error Content := do
  return .document home (← (web home).read source) source

def renderPage (home : Nat) (frame source : Text) (page : Page) : Rendering Unit := do
  match web.prepare home source with
  | .ok slot => web.convert home frame ((Context.empty.withPage page).withSlot slot)
  | .error error => throw error

end

end Web
end Inlay.Render
