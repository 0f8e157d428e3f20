import Inlay.Text.Printable

namespace Inlay.Text

def hex (n : Nat) : Text := Nat.toDigits 16 n

def escape (c : Char) : Text :=
  match c with
  | '"' => ['\\', '"']
  | '\\' => ['\\', '\\']
  | '\n' => ['\\', 'n']
  | '\r' => ['\\', 'r']
  | '\t' => ['\\', 't']
  | '\x00' => ['\\', '0']
  | c => if isPrintable c then [c] else ['\\', 'u', '\x7b'] ++ hex c.toNat ++ ['\x7d']

def quoted (s : Text) : Text := '"' :: s.flatMap escape ++ ['"']

end Inlay.Text
