import Inlay.Text.Basic

namespace Inlay.Markup

structure Location where
  line : Nat
  column : Nat
deriving DecidableEq

namespace Location

def start : Location := ⟨1, 1⟩

def step (place : Location) (c : Char) : Location :=
  if c = '\n' then ⟨place.line + 1, 1⟩ else ⟨place.line, place.column + 1⟩

def past (place : Location) (s : Text) : Location := s.foldl step place

def down (place : Location) (lines : Nat) : Location := ⟨place.line + lines, place.column⟩

def written (place : Location) : String := s!"{place.line}:{place.column}"

theorem past_append (place : Location) (s t : Text) :
    place.past (s ++ t) = (place.past s).past t := by simp [past]

end Location
end Inlay.Markup
