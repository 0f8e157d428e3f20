import Inlay.Reader.Link
import Inlay.Reader.Literal
import Inlay.Reader.Mark
import Inlay.Markdown.Tree

namespace Inlay.Markdown

inductive Opening
  | link
  | image
  | footnote
deriving DecidableEq

def Opening.source : Opening → Text
  | .link => ['[']
  | .image => ['!', '[']
  | .footnote => ['[', '^']

inductive Piece
  | data (s : List Symbol)
  | lineEnd (escaped : Bool) (ending : Text)
  | escaped (c : Char)
  | reference (s : Text)
  | node (n : Node)
  | image (resource : Resource) (text : Text)
  | run (mark : Char) (size : Nat) (opens closes : Bool)
  | opening (kind : Opening) (active : Bool) (behind : List Symbol)

def Piece.ofText (s : Text) : Piece := .data (s.map .char)

inductive Side
  | blank
  | punctuation
  | other
deriving DecidableEq

def Side.of : Option Char → Side
  | none => .blank
  | some c =>
    if Text.isBlank c then .blank else if Text.isPunctuation c then .punctuation else .other

def runBetween (gfm : Bool) (mark : Char) (size : Nat) (before after : Option Char) : Piece :=
  let left := Side.of before
  let right := Side.of after
  let isMark (c : Option Char) := mark != '~' &&
    (c == some '*' || c == some '_' || (gfm && c == some '~'))
  let opens := right == .other || (right == .punctuation && left != .other) || isMark after
  let closes := left == .other || (left == .punctuation && right != .other) || isMark before
  if mark = '_' then
    .run mark size (opens && (left != .other || !closes)) (closes && (right != .other || !opens))
  else .run mark size opens closes

def joinTexts : List Node → List Node
  | [] => []
  | .leaf (.text s) :: r =>
    match joinTexts r with
    | .leaf (.text t) :: rest => .leaf (.text (s ++ t)) :: rest
    | rest => if s.isEmpty then rest else .leaf (.text s) :: rest
  | n :: r => n :: joinTexts r

def linkTo (url s : Text) : Node := .branch (.link url none) [.leaf (.text s)]

def mailNodes (s : Text) : List Node :=
  (mails (s.length + 1) [] s).map fun
    | .plain s => .leaf (.text s)
    | .address url s => linkTo url s

def Piece.part (mail : Bool) : Piece → Part Node
  | .data s => .data s
  | .lineEnd hard ending => .lineEnd hard ending
  | .escaped c => .other (.leaf (.text [c]))
  | .reference s => .other (.leaf (.text s))
  | .node n => .other n
  | .image resource text =>
    .other (.leaf (.image (destinationText mail resource.url)
      (resource.title.map (titleText mail)) text))
  | .run mark size _ _ => .data (List.replicate size (.char mark))
  | .opening kind _ _ => .data (kind.source.map .char)

def phraseNodes (mail : Bool) : Phrase Node → List Node
  | .text s => if mail then mailNodes s else [.leaf (.text s)]
  | .lineBreak => [.leaf .lineBreak]
  | .other n => [n]

def pieceNodes (mail front back : Bool) (pieces : List Piece) : List Node :=
  joinTexts
    ((Phrase.ofParts true front back [] (pieces.map (Piece.part mail))).flatMap (phraseNodes mail))

/-- The pieces between a closing run and the nearest run that it can close, newest first; the size
of that run; and the pieces before it. -/
def findOpening (mark : Char) (size : Nat) (opens : Bool) :
    List Piece → Option (List Piece × (Nat × Bool) × List Piece)
  | [] => none
  | p :: r =>
    let go := (findOpening mark size opens r).map fun (between, found, before) =>
      (p :: between, found, before)
    match p with
    | .run mark' size' true closes' =>
      if mark' ≠ mark then go
      else if (closes' || opens) && size % 3 != 0 && (size' + size) % 3 == 0 then go
      else if mark == '~' && (size != size' || 2 < size) then go
      else some ([], (size', closes'), r)
    | _ => go

def matchRuns (mail : Bool) : Nat → List Piece → List Piece → List Piece
  | 0, left, right => left.reverse ++ right
  | _ + 1, left, [] => left.reverse
  | fuel + 1, left, .run mark size opens true :: right =>
    match findOpening mark size opens left with
    | none => matchRuns mail fuel (.run mark size opens true :: left) right
    | some (between, (size', closes'), before) =>
      let used := if 1 < size ∧ 1 < size' then 2 else 1
      let inside := pieceNodes mail false false between.reverse
      let kind : Branch := if mark = '~' then .delete else if used = 2 then .strong else .emphasis
      let node : Node := .branch kind inside
      let left := if used < size' then .run mark (size' - used) true closes' :: before else before
      if used < size then
        matchRuns mail fuel (.node node :: left) (.run mark (size - used) opens true :: right)
      else matchRuns mail fuel (.node node :: left) right
  | fuel + 1, left, p :: right => matchRuns mail fuel (p :: left) right

def runSteps : List Piece → Nat
  | [] => 1
  | .run _ size _ _ :: r => size + 1 + runSteps r
  | _ :: r => 1 + runSteps r

def nodesOf (mail front back : Bool) (pieces : List Piece) : List Node :=
  pieceNodes mail front back (matchRuns mail (runSteps pieces) [] pieces.reverse)

end Inlay.Markdown
