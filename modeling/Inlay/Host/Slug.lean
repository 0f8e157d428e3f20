import Inlay.Text.Blank
import Inlay.Text.Letter
import Inlay.Text.Lowercase

namespace Inlay.Host

def slugChar (c : Char) : Text :=
  if Text.isAlphanumeric c || c == '-' || c == '_' then Text.lowerChar c
  else if c = ' ' then ['-']
  else []

def slugify (s : Text) : Text :=
  match s.trim.flatMap slugChar with
  | [] => ['h', 'e', 'a', 'd', 'i', 'n', 'g']
  | slug => slug

structure Slugger where
  seen : List Text

namespace Slugger

def empty : Slugger := ⟨[]⟩

def next (g : Slugger) (heading : Text) : Text × Slugger :=
  let slug := slugify heading
  let id := match g.seen.count slug with
    | 0 => slug
    | n => slug ++ '-' :: Nat.toDigits 10 n
  (id, ⟨slug :: g.seen⟩)

def ids (g : Slugger) : List Text → List Text
  | [] => []
  | heading :: rest => let (id, g') := g.next heading; id :: g'.ids rest

end Slugger
end Inlay.Host
