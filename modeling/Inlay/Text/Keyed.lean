import Inlay.Text.Basic

namespace Inlay

def Text.precedes : Text → Text → Bool
  | [], [] => false
  | [], _ :: _ => true
  | _ :: _, [] => false
  | c :: s, d :: t => if c = d then precedes s t else c < d

abbrev Keyed (α : Type) := List (Text × α)

namespace Keyed

def get? (key : Text) : Keyed α → Option α
  | [] => none
  | (k, a) :: r => if k = key then some a else get? key r

def put (key : Text) (a : α) : Keyed α → Keyed α
  | [] => [(key, a)]
  | (k, b) :: r =>
    if k = key then (key, a) :: r
    else if key.precedes k then (key, a) :: (k, b) :: r
    else (k, b) :: put key a r

theorem get?_put (t : Keyed α) (key : Text) (a : α) (other : Text) :
    get? other (put key a t) = if key = other then some a else get? other t := by
  induction t with
  | nil => simp [put, get?]
  | cons entry r ih =>
    obtain ⟨k, b⟩ := entry
    simp only [put]
    split
    · next same => subst same; simp [get?]; split <;> rfl
    · next differ =>
      split
      · simp [get?]
      · simp only [get?, ih]
        split <;> split <;> simp_all

end Keyed
end Inlay
