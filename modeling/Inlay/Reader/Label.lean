import Inlay.Reader.Mark
import Inlay.Text.Lowercase

namespace Inlay.Markdown

def sameLetters : List (Char × String) := [
  ('\u00b5', "\u03bc"), ('\u00df', "\u0073\u0073"), ('\u0131', "\u0069"),
  ('\u0149', "\u02bc\u006e"), ('\u017f', "\u0073"), ('\u01f0', "\u006a\u030c"),
  ('\u0345', "\u03b9"), ('\u0390', "\u03b9\u0308\u0301"), ('\u03b0', "\u03c5\u0308\u0301"),
  ('\u03c2', "\u03c3"), ('\u03d0', "\u03b2"), ('\u03d1', "\u03b8"), ('\u03d5', "\u03c6"),
  ('\u03d6', "\u03c0"), ('\u03f0', "\u03ba"), ('\u03f1', "\u03c1"), ('\u03f5', "\u03b5"),
  ('\u0587', "\u0565\u0582"), ('\u1c80', "\u0432"), ('\u1c81', "\u0434"), ('\u1c82', "\u043e"),
  ('\u1c83', "\u0441"), ('\u1c84', "\u0442"), ('\u1c85', "\u0442"), ('\u1c86', "\u044a"),
  ('\u1c87', "\u0463"), ('\u1c88', "\ua64b"), ('\u1e96', "\u0068\u0331"),
  ('\u1e97', "\u0074\u0308"), ('\u1e98', "\u0077\u030a"), ('\u1e99', "\u0079\u030a"),
  ('\u1e9a', "\u0061\u02be"), ('\u1e9b', "\u1e61"), ('\u1f50', "\u03c5\u0313"),
  ('\u1f52', "\u03c5\u0313\u0300"), ('\u1f54', "\u03c5\u0313\u0301"),
  ('\u1f56', "\u03c5\u0313\u0342"), ('\u1f80', "\u1f00\u03b9"), ('\u1f81', "\u1f01\u03b9"),
  ('\u1f82', "\u1f02\u03b9"), ('\u1f83', "\u1f03\u03b9"), ('\u1f84', "\u1f04\u03b9"),
  ('\u1f85', "\u1f05\u03b9"), ('\u1f86', "\u1f06\u03b9"), ('\u1f87', "\u1f07\u03b9"),
  ('\u1f90', "\u1f20\u03b9"), ('\u1f91', "\u1f21\u03b9"), ('\u1f92', "\u1f22\u03b9"),
  ('\u1f93', "\u1f23\u03b9"), ('\u1f94', "\u1f24\u03b9"), ('\u1f95', "\u1f25\u03b9"),
  ('\u1f96', "\u1f26\u03b9"), ('\u1f97', "\u1f27\u03b9"), ('\u1fa0', "\u1f60\u03b9"),
  ('\u1fa1', "\u1f61\u03b9"), ('\u1fa2', "\u1f62\u03b9"), ('\u1fa3', "\u1f63\u03b9"),
  ('\u1fa4', "\u1f64\u03b9"), ('\u1fa5', "\u1f65\u03b9"), ('\u1fa6', "\u1f66\u03b9"),
  ('\u1fa7', "\u1f67\u03b9"), ('\u1fb2', "\u1f70\u03b9"), ('\u1fb3', "\u03b1\u03b9"),
  ('\u1fb4', "\u03ac\u03b9"), ('\u1fb6', "\u03b1\u0342"), ('\u1fb7', "\u03b1\u0342\u03b9"),
  ('\u1fbe', "\u03b9"), ('\u1fc2', "\u1f74\u03b9"), ('\u1fc3', "\u03b7\u03b9"),
  ('\u1fc4', "\u03ae\u03b9"), ('\u1fc6', "\u03b7\u0342"), ('\u1fc7', "\u03b7\u0342\u03b9"),
  ('\u1fd2', "\u03b9\u0308\u0300"), ('\u1fd3', "\u03b9\u0308\u0301"), ('\u1fd6', "\u03b9\u0342"),
  ('\u1fd7', "\u03b9\u0308\u0342"), ('\u1fe2', "\u03c5\u0308\u0300"),
  ('\u1fe3', "\u03c5\u0308\u0301"), ('\u1fe4', "\u03c1\u0313"), ('\u1fe6', "\u03c5\u0342"),
  ('\u1fe7', "\u03c5\u0308\u0342"), ('\u1ff2', "\u1f7c\u03b9"), ('\u1ff3', "\u03c9\u03b9"),
  ('\u1ff4', "\u03ce\u03b9"), ('\u1ff6', "\u03c9\u0342"), ('\u1ff7', "\u03c9\u0342\u03b9"),
  ('\ufb00', "\u0066\u0066"), ('\ufb01', "\u0066\u0069"), ('\ufb02', "\u0066\u006c"),
  ('\ufb03', "\u0066\u0066\u0069"), ('\ufb04', "\u0066\u0066\u006c"), ('\ufb05', "\u0073\u0074"),
  ('\ufb06', "\u0073\u0074"), ('\ufb13', "\u0574\u0576"), ('\ufb14', "\u0574\u0565"),
  ('\ufb15', "\u0574\u056b"), ('\ufb16', "\u057e\u0576"), ('\ufb17', "\u0574\u056d")]

def isGapChar (c : Char) : Bool := c == ' ' || c == '\t' || c == '\n' || c == '\r'

def words (s : Text) : List Text :=
  (s.foldr (fun c words =>
    if isGapChar c then [] :: words
    else match words with
      | [] => [[c]]
      | w :: ws => (c :: w) :: ws) [[]]).filter (!·.isEmpty)

/-- Words with one space between any two of them; there is none behind the first word of a label
that begins with it. -/
def spaced (s : Text) : Text :=
  match s.head?.any (!isGapChar ·), words s with
  | true, w :: ws => w ++ [' '].intercalate ws
  | _, ws => [' '].intercalate ws

def labelKey (s : Text) : Text :=
  (spaced s).flatMap fun c =>
    (Text.lowerChar c).flatMap fun small =>
      match sameLetters.lookup small with
      | some same => same.toList
      | none => [small]

def bracketed? : List Symbol → Option (List Symbol × List Symbol)
  | [] => none
  | .char '\\' :: .char c :: r =>
    if c = '[' ∨ c = ']' ∨ c = '\\' then
      (bracketed? r).map fun (inside, rest) => (.char '\\' :: .char c :: inside, rest)
    else (bracketed? (.char c :: r)).map fun (inside, rest) => (.char '\\' :: inside, rest)
  | x :: r =>
    if x = .char '[' then none
    else if x = .char ']' then some ([], r)
    else (bracketed? r).map fun (inside, rest) => (x :: inside, rest)

def labelLength (behindEnd : Bool) : List Symbol → Nat
  | [] => 0
  | .char c :: r =>
    if behindEnd && (c = ' ' ∨ c = '\t') then labelLength true r
    else c.utf8Size + labelLength false r
  | .pad _ :: r => if behindEnd then labelLength true r else 1 + labelLength false r
  | .lineEnd .. :: r => labelLength true r

def label? (counted : Nat) (s : List Symbol) : Option (List Symbol × List Symbol) :=
  (bracketed? s).bind fun (inside, rest) =>
    if counted + labelLength false inside ≤ longestLabel ∧ inside.any (!·.isGap) then
      some (inside, rest)
    else none

end Inlay.Markdown
