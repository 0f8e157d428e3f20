import Inlay.Text.Class

namespace Inlay.Text

def whiteSpace : Class where
  ranges := [
    (9, 13), (32, 32), (133, 133), (160, 160), (5760, 5760), (8192, 8202), (8232, 8233),
    (8239, 8239), (8287, 8287), (12288, 12288)]

def isBlank (c : Char) : Bool := whiteSpace.has c

def trim (s : Text) : Text := dropEnds isBlank s

end Inlay.Text
