import Inlay.Markup.Tree

namespace Inlay.Markup

def indentation (depth : Nat) : Text := List.replicate (4 * depth) ' '

def writeLine (depth : Nat) (s : Text) : Text := indentation depth ++ s ++ ['\n']

def escapeQuotes (s : Text) : Text := s.flatMap fun c => if c = '"' then ['\\', '"'] else [c]

/-- The lines of a text: a line end is a line feed, with the carriage return in front of it if one
is there, and nothing follows the last line end. -/
def textLines (s : Text) : List Text :=
  let parts := Text.pieces '\n' s
  let whole := parts.dropLast.map fun line =>
    if line.getLast? = some '\r' then line.dropLast else line
  match parts.getLast? with
  | some (c :: r) => whole ++ [c :: r]
  | _ => whole

def writeString (depth : Nat) (name s : Text) : Text :=
  if s.contains '\n' then
    writeLine depth (name ++ [':']) ++ (textLines s).flatMap (writeLine (depth + 1))
  else writeLine depth (name ++ [':', ' ', '"'] ++ escapeQuotes s ++ ['"'])

mutual

def Component.write (depth : Nat) : Component → Text
  | ⟨name, properties, children, _⟩ =>
    writeLine depth ('\\' :: name) ++ writeProperties (depth + 1) properties ++
      writeNodes (depth + 1) children

def writeProperties (depth : Nat) : List Property → Text
  | [] => []
  | ⟨name, value⟩ :: rest => value.write depth name ++ writeProperties depth rest

def Value.write (depth : Nat) (name : Text) : Value → Text
  | .string s => writeString depth name s
  | .flag => writeLine depth ('!' :: name)
  | .component inner => writeLine depth (name ++ [':']) ++ inner.write (depth + 1)

def writeNodes (depth : Nat) : List Node → Text
  | [] => []
  | .text s :: rest => writeLine depth s ++ writeNodes depth rest
  | .component inner :: rest => inner.write depth ++ writeNodes depth rest

end

def Document.toMarkup (d : Document) : Text := writeNodes 0 d.nodes

end Inlay.Markup
