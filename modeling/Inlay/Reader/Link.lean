import Inlay.Reader.Label

namespace Inlay.Markdown

def angled? : List Symbol → Option (List Symbol × List Symbol)
  | [] => none
  | .char '\\' :: .char c :: r =>
    if c = '<' ∨ c = '>' ∨ c = '\\' then
      (angled? r).map fun (inside, rest) => (.char '\\' :: .char c :: inside, rest)
    else (angled? (.char c :: r)).map fun (inside, rest) => (.char '\\' :: inside, rest)
  | x :: r =>
    match x with
    | .char '>' => some ([], r)
    | .char '<' | .lineEnd .. => none
    | x => (angled? r).map fun (inside, rest) => (x :: inside, rest)

def isControl (c : Char) : Bool := (0 < c.toNat && c.toNat < 32) || c.toNat == 127

def bare? (most : Option Nat) (depth : Nat) : List Symbol → Option (List Symbol × List Symbol)
  | [] => if depth = 0 then some ([], []) else none
  | .char '\\' :: .char c :: r =>
    if c = '(' ∨ c = ')' ∨ c = '\\' then
      (bare? most depth r).map fun (inside, rest) => (.char '\\' :: .char c :: inside, rest)
    else (bare? most depth (.char c :: r)).map fun (inside, rest) => (.char '\\' :: inside, rest)
  | x :: r =>
    if depth = 0 ∧ (x.isGap ∨ x = .char ')') then some ([], x :: r)
    else if x = .char '(' then
      if most.any (· ≤ depth) then none
      else (bare? most (depth + 1) r).map fun (inside, rest) => (x :: inside, rest)
    else if x.isGap ∨ x.isIn isControl then none
    else if x = .char ')' then
      (bare? most (depth - 1) r).map fun (inside, rest) => (x :: inside, rest)
    else (bare? most depth r).map fun (inside, rest) => (x :: inside, rest)

def isBare (s : List Symbol) : Bool :=
  s.head?.any fun x => !(x.isGap || x.isIn isControl || x == .char ')' || x == .char '<')

def destination? (most : Option Nat) (depth : Nat) (s : List Symbol) :
    Option (List Symbol × List Symbol) :=
  match s with
  | .char '<' :: r => angled? r
  | s => if isBare s then bare? most depth s else none

def until? (mark : Char) : List Symbol → Option (List Symbol × List Symbol)
  | [] => none
  | .char '\\' :: .char c :: r =>
    if c = mark ∨ c = '\\' then
      (until? mark r).map fun (inside, rest) => (.char '\\' :: .char c :: inside, rest)
    else (until? mark (.char c :: r)).map fun (inside, rest) => (.char '\\' :: inside, rest)
  | x :: r =>
    if x = .char mark then some ([], r)
    else (until? mark r).map fun (inside, rest) => (x :: inside, rest)

def title? (s : List Symbol) : Option (Option (List Symbol) × List Symbol) :=
  match s with
  | .char c :: r =>
    if c = '"' ∨ c = '\'' ∨ c = '(' then
      (until? (if c = '(' then ')' else c) r).map fun (inside, rest) =>
        (if inside.isEmpty then none else some inside, rest)
    else none
  | _ => none

def deepestParens : Nat := 32

structure Resource where
  url : List Symbol
  title : Option (List Symbol)

def resource? (depth : Nat) (s : List Symbol) : Option (Resource × List Symbol) :=
  match ungapped s with
  | .char ')' :: r => some (⟨[], none⟩, r)
  | s => do
    let (url, rest) ← destination? (some deepestParens) depth s
    let behind := ungapped rest
    match behind with
    | .char ')' :: r => some (⟨url, none⟩, r)
    | _ =>
      if behind.length = rest.length then none
      else
        let (title, rest) ← title? behind
        match ungapped rest with
        | .char ')' :: r => some (⟨url, title⟩, r)
        | _ => none

/-- How the count goes on behind the opening parenthesis of a resource: a destination without
brackets brings it back to zero. -/
def countBehindResource (counted : Nat) (s : List Symbol) : Nat :=
  if isBare (ungapped s) then 0 else counted

def atLineEnd? (s : List Symbol) : Option (List Symbol) :=
  match unblanked s with
  | [] => some []
  | .lineEnd ending taken :: r => some (.lineEnd ending taken :: r)
  | _ => none

def definition? (s : List Symbol) : Option (List Symbol × List Symbol) :=
  match unblanked s with
  | .char '[' :: r => do
    let (label, rest) ← label? 0 r
    match rest with
    | .char ':' :: r =>
      let (_, rest) ← destination? none 0 (ungapped r)
      let bare := (atLineEnd? rest).map (label, ·)
      let behind := ungapped rest
      if behind.length = rest.length then bare
      else match (title? behind).bind fun (_, rest) => atLineEnd? rest with
        | some rest => some (label, rest)
        | none => bare
    | _ => none
  | _ => none

end Inlay.Markdown
