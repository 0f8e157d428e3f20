import Inlay.Number.Float
import Inlay.Render.Schema
import Inlay.Text.Keyed

namespace Inlay.Render

inductive Value (γ : Type)
  | string (text : Text)
  | boolean (set : Bool)
  | integer (number : Int)
  | float (number : Float)
  | component (content : γ)
  | attributes (pairs : List (Text × Text))

namespace Value

variable {γ δ : Type}

def map (f : γ → δ) : Value γ → Value δ
  | string text => .string text
  | boolean set => .boolean set
  | integer number => .integer number
  | float number => .float number
  | component content => .component (f content)
  | attributes pairs => .attributes pairs

def pairShown (pair : Text × Text) : Text :=
  '(' :: pair.1.quoted ++ [',', ' '] ++ pair.2.quoted ++ [')']

def call (word : String) (inside : Text) : Text := word.toList ++ '(' :: inside ++ [')']

def shown : Value γ → Text
  | string text => call "String" text.quoted
  | boolean set => call "Bool" (toString set).toList
  | integer number => call "Int" (toString number).toList
  | float number => call "Float" (Number.showFloat number)
  | component _ => call "Component" ['.', '.']
  | attributes pairs => call "Attributes" ('[' :: commas (pairs.map pairShown) ++ [']'])

end Value

abbrev Props (γ : Type) := Keyed (Value γ)

namespace Props

variable {γ δ : Type}

def get? (props : Props γ) (name : Text) : Option (Value γ) := Keyed.get? name.lower props

def put (props : Props γ) (name : Text) (v : Value γ) : Props γ := Keyed.put name.lower v props

def string? (props : Props γ) (name : Text) : Option Text :=
  match props.get? name with
  | some (.string text) => some text
  | _ => none

def boolean? (props : Props γ) (name : Text) : Option Bool :=
  match props.get? name with
  | some (.boolean set) => some set
  | _ => none

def integer? (props : Props γ) (name : Text) : Option Int :=
  match props.get? name with
  | some (.integer number) => some number
  | _ => none

def float? (props : Props γ) (name : Text) : Option Float :=
  match props.get? name with
  | some (.float number) => some number
  | _ => none

def component? (props : Props γ) (name : Text) : Option γ :=
  match props.get? name with
  | some (.component content) => some content
  | _ => none

def attributes? (props : Props γ) (name : Text) : Option (List (Text × Text)) :=
  match props.get? name with
  | some (.attributes pairs) => some pairs
  | _ => none

def map (f : γ → δ) (props : Props γ) : Props δ :=
  List.map (fun entry => (entry.1, entry.2.map f)) props

end Props
end Inlay.Render
