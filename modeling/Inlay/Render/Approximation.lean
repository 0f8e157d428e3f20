import Inlay.Render.Congruence

namespace Inlay.Render

namespace Rendering

def Approximates (a b : Rendering α) : Prop := ∀ s outcome, a s = some outcome → b s = some outcome

namespace Approximates

variable {a a' : Rendering α}

theorem refl (a : Rendering α) : Approximates a a := fun _ _ outcome => outcome

theorem antisymm (forth : Approximates a a') (back : Approximates a' a) : a = a' := by
  funext s
  exact Option.ext fun outcome => ⟨forth s outcome, back s outcome⟩

theorem bind {next next' : α → Rendering β} (first : Approximates a a')
    (rest : ∀ answer, Approximates (next answer) (next' answer)) :
    Approximates (a >>= next) (a' >>= next') := by
  intro s outcome found
  refine bind_eq_some.2 ((bind_eq_some.1 found).imp ?_ ?_)
  · rintro ⟨answer, s', done, found⟩
    exact ⟨answer, s', first s _ done, rest answer s' outcome found⟩
  · rintro ⟨e, s', failed, same⟩
    exact ⟨e, s', first s _ failed, same⟩

theorem map_apply {f : Except Error α × Sink → Except Error β × Sink} {s : Sink}
    {outcome : Except Error β × Sink} (less : Approximates a a')
    (found : (a s).map f = some outcome) : (a' s).map f = some outcome := by
  obtain ⟨result, done, rfl⟩ := Option.map_eq_some_iff.1 found
  rw [less s result done]
  rfl

theorem capture {a a' : Rendering Unit} (less : Approximates a a') :
    Approximates (capture a) (capture a') :=
  fun _ _ found => less.map_apply found

theorem inside (component : Text) (less : Approximates a a') :
    Approximates (inside component a) (inside component a') :=
  fun _ _ found => less.map_apply found

theorem attempt {a a' : Rendering Unit} (less : Approximates a a') :
    Approximates (attempt a) (attempt a') :=
  fun _ _ found => less.map_apply found

theorem collect {a a' : Rendering Unit} (less : Approximates a a') :
    Approximates (collect a) (collect a') :=
  fun _ _ found => less.map_apply found

theorem catching : Catching fun _ => Approximates where
  pure a := refl (pure a)
  throw e := refl (throw e)
  text s := refl (liftM (Emit.text s))
  bind := bind
  capture := capture
  inside := inside
  attempt := attempt
  collect := collect

end Approximates
end Rendering

theorem Web.approximates_level {below below' : Below}
    (less : ∀ content ctx, (below content ctx).Approximates (below' content ctx)) (web : Web)
    (content : Content) (ctx : Context) :
    (web.level below content ctx).Approximates (web.level below' content ctx) := by
  have catching := Rendering.Approximates.catching
  refine catching.toCongruence.level less
    (fun home d source n entering => .refl (liftM ((web home).fallback d source n entering))) ?_
  intro t props _
  exact catching.perform (fun bytes => .refl (liftM (Emit.write bytes))) fun _ _ _ => less _ _

end Inlay.Render
