import Inlay.Text.Basic

namespace Inlay.Text

structure Class where
  ranges : List (Nat × Nat)

def Class.has (s : Class) (c : Char) : Bool :=
  s.ranges.any fun (low, high) => low ≤ c.toNat && c.toNat ≤ high

end Inlay.Text
