import Inlay.Json.Reader
import Inlay.Text.Keyed

namespace Inlay.Json

structure Member (σ : Type) where
  key : String
  read : σ → Reader σ

def member (known : List (Member σ)) (key : Text) (seen : List Text × σ) :
    Reader (List Text × σ) := do
  match known.find? fun m => m.key.toList == key with
  | some m =>
    if seen.1.contains key then throw .unfit
    colon
    return (key :: seen.1, ← m.read seen.2)
  | none =>
    colon
    skip
    return seen

def values : List (Member σ) → Bool → σ → Reader σ
  | [], _, s => return s
  | m :: known, before, s => do
    if ← more ']' before then values known true (← m.read s) else return s

def complete (finish : σ → Option α) (s : σ) : Reader α :=
  match finish s with
  | some a => return a
  | none => throw .unfit

def record (known : List (Member σ)) (empty : σ) (finish : σ → Option α) : Reader α := do
  let c ← start
  if c = '[' then
    drop
    let a ← complete finish (← values known false empty)
    if (← start) = ']' then drop else throw .malformed
    return a
  else if c = '\x7b' then
    drop
    let (_, s) ← members (member known) ((← get).length + 1) false ([], empty)
    complete finish s
  else refuse c

/-- An object of texts, where the last of several values of a key stays. -/
def table : Reader (Keyed Text) := do
  let c ← start
  if c = '\x7b' then
    drop
    members (fun key t => do
      colon
      return Keyed.put key (← text) t) ((← get).length + 1) false []
  else refuse c

end Inlay.Json
