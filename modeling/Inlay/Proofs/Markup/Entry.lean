import Inlay.Proofs.Attempt
import Inlay.Proofs.Markup.Machine

namespace Inlay.Markup
open Attempt

/-- A component, a line of text, or a property.  A block is the property whose value follows on the
lines below, with the line end it begins with. -/
inductive Item
  | component (name : Text) (location : Location)
  | text (value : Text)
  | flag (name : Text)
  | string (name value : Text)
  | number (name value : Text)
  | block (name : Text) (opening : Location)

def Item.opens : Item → Bool
  | component .. | block .. => true
  | _ => false

structure Entry where
  level : Nat
  item : Item

def Token.mark (t : Token) : Token.Kind × Text :=
  match t.kind with
  | .colon => (.colon, [])
  | .quote => (.quote, [])
  | kind => (kind, t.value)

def marks (level : Nat) : List Token → List (Nat × Token.Kind × Text)
  | [] => []
  | t :: ts =>
    match t.kind with
    | .indent => marks (level + 1) ts
    | .lineBreak => marks 0 ts
    | .endOfInput => marks level ts
    | _ => (level, t.mark) :: marks level ts

def Await.marks (name : Text) : Await → List (Token.Kind × Text)
  | colon => [(.property, name)]
  | value => [(.property, name), (.colon, [])]
  | contents => [(.property, name), (.colon, []), (.quote, [])]
  | closing inside => [(.property, name), (.colon, []), (.quote, []), (.text, inside)]

def Item.marks : Item → List (Token.Kind × Text)
  | component name _ => [(.component, name)]
  | text value => [(.text, value)]
  | flag name => [(.flag, name)]
  | string name value => (Await.closing value).marks name ++ [(.quote, [])]
  | number name value => Await.value.marks name ++ [(.number, value)]
  | block name _ => Await.value.marks name

def Entry.marks (e : Entry) : List (Nat × Token.Kind × Text) := e.item.marks.map (e.level, ·)

inductive Reader
  | item (level : Nat)
  | property (level : Nat) (name : Text) (await : Await)

def Reader.step (t : Token) : Reader → Option (Option Entry × Reader)
  | item level =>
    match t.kind with
    | .indent => some (none, item (level + 1))
    | .lineBreak => some (none, item 0)
    | .component => some (some ⟨level, .component t.value t.location⟩, item level)
    | .text => some (some ⟨level, .text t.value⟩, item level)
    | .flag => some (some ⟨level, .flag t.value⟩, item level)
    | .property => some (none, property level t.value .colon)
    | _ => none
  | property level name await =>
    match await, t.kind with
    | .colon, .colon => some (none, property level name .value)
    | .value, .quote => some (none, property level name .contents)
    | .value, .number => some (some ⟨level, .number name t.value⟩, item level)
    | .value, .lineBreak => some (some ⟨level, .block name t.location⟩, item 0)
    | .contents, .text => some (none, property level name (.closing t.value))
    | .closing contents, .quote => some (some ⟨level, .string name contents⟩, item level)
    | _, _ => none

def Stream.entries? (r : Reader) : Stream → Option (List Entry)
  | .ended _ =>
    match r with
    | .item _ => some []
    | .property .. => none
  | .malformed _ => none
  | .cons t rest => do
    let (e, r) ← r.step t
    let es ← rest.entries? r
    some (e.toList ++ es)

def Reader.marks : Reader → List (Nat × Token.Kind × Text)
  | item _ => []
  | property level name await => (await.marks name).map (level, ·)

def Reader.level : Reader → Nat
  | item level => level
  | property level _ _ => level

theorem Reader.step_marks {r r' : Reader} {t : Token} {e : Option Entry} {ts : List Token}
    (h : r.step t = some (e, r')) :
    r.marks ++ Markup.marks r.level (t :: ts) =
      e.toList.flatMap Entry.marks ++ (r'.marks ++ Markup.marks r'.level ts) := by
  cases r with
  | item level =>
    simp only [step] at h
    split at h <;> cases h <;> rename_i kind <;>
      simp [marks, Reader.level, Markup.marks, kind, Token.mark, Entry.marks, Item.marks,
        Await.marks]
  | property level name await =>
    simp only [step] at h
    split at h <;> cases h <;> rename_i kind <;>
      simp [marks, Reader.level, Markup.marks, kind, Token.mark, Entry.marks, Item.marks,
        Await.marks]

theorem Stream.entries?_marks {r : Reader} {s : Stream} {es : List Entry}
    (h : s.entries? r = some es) :
    ∃ ts, s.tokens = .ok ts ∧ r.marks ++ Markup.marks r.level ts = es.flatMap Entry.marks := by
  induction s generalizing r es with
  | ended place =>
    cases r with
    | item level => cases h; exact ⟨_, rfl, rfl⟩
    | property level name await => cases h
  | malformed place => cases h
  | cons t rest ih =>
    simp only [entries?, Option.bind_eq_bind, Option.bind_eq_some_iff] at h
    obtain ⟨⟨e, r'⟩, stepped, es', more, same⟩ := h
    cases same
    obtain ⟨ts, tokens, same⟩ := ih more
    refine ⟨t :: ts, by simp [Stream.tokens, tokens], ?_⟩
    rw [Reader.step_marks stepped, same, List.flatMap_append]

namespace Stack

def put (e : Entry) (s : Stack) : Option Stack :=
  match e.item, s with
  | .component name location, s => some (component ⟨e.level, name, location, [], []⟩ s)
  | .text value, s => some (s.addNode (.text value))
  | .flag name, component c below => some (component (c.addProperty ⟨name, .flag⟩) below)
  | .string name value, component c below =>
    some (component (c.addProperty ⟨name, .string value⟩) below)
  | .number name value, component c below =>
    some (component (c.addProperty ⟨name, .string value⟩) below)
  | .block name opening, component c below => some (block ⟨e.level, name, opening, []⟩ c below)
  | _, _ => none

def fill (s : Stack) : List Entry → Option (List Node)
  | [] => (s.close 0).toOption.map nodes
  | e :: es => (s.close e.level).toOption.bind fun s => (s.put e).bind fun s => s.fill es

def fillNext (s : Stack) : List Entry → Option (List Node)
  | [] => none
  | e :: es => (s.put e).bind fun s => s.fill es

end Stack

def Item.isProperty : Item → Bool
  | .component .. | .text _ => false
  | _ => true

theorem Stack.put_property {e : Entry} {s : Stack} (property : e.item.isProperty)
    (other : ∀ c below, s ≠ .component c below) : s.put e = none := by
  obtain ⟨level, item⟩ := e
  cases s with
  | component c below => exact absurd rfl (other c below)
  | root nodes => cases item <;> first | rfl | cases property
  | block b owner below => cases item <;> first | rfl | cases property

theorem Stream.entries?_property {level : Nat} {name : Text} {await : Await} {s : Stream}
    {es : List Entry} (h : s.entries? (.property level name await) = some es) :
    ∃ e rest, es = e :: rest ∧ e.level = level ∧ e.item.isProperty := by
  induction s generalizing await es with
  | ended place => cases h
  | malformed place => cases h
  | cons t rest ih =>
    simp only [entries?, Option.bind_eq_bind, Option.bind_eq_some_iff] at h
    obtain ⟨⟨e, r'⟩, stepped, es', more, same⟩ := h
    cases same
    simp only [Reader.step] at stepped
    split at stepped <;> cases stepped
    · exact ih more
    · exact ih more
    · exact ⟨_, _, rfl, rfl, rfl⟩
    · exact ⟨_, _, rfl, rfl, rfl⟩
    · exact ih more
    · exact ⟨_, _, rfl, rfl, rfl⟩

namespace Machine

def reader : Machine → Reader
  | ready _ level => .item level
  | property _ _ level name await => .property level name await

def fill : Machine → List Entry → Option (List Node)
  | ready stack _ => stack.fill
  | property owner below .. => (Stack.component owner below).fillNext

theorem run_place {stack : Stack} {level : Nat} {t : Token} {s : Stream} (e : Entry)
    (ih : ∀ m : Machine, (m.run s).toOption.map (·.nodes) = (s.entries? m.reader).bind m.fill)
    (same : e.level = level)
    (put : ∀ st : Stack, (place level t st).toOption = (st.put e).map (ready · level)) :
    ((stack.close level >>= place level t) >>= fun m => m.run s).toOption.map (·.nodes) =
      (s.entries? (.item level)).bind fun es => stack.fill (e :: es) := by
  subst same
  cases closed : stack.close e.level with
  | error error => simp [Stack.fill, closed, Except.toOption]
  | ok st =>
    have put := put st
    cases placed : place e.level t st with
    | error error =>
      cases found : st.put e with
      | none => simp [Stack.fill, closed, placed, found, Except.toOption]
      | some st' => simp [placed, found, Except.toOption] at put
    | ok m =>
      cases found : st.put e with
      | none => simp [placed, found, Except.toOption] at put
      | some st' =>
        have : m = ready st' e.level := by simpa [placed, found, Except.toOption] using put
        subst this
        simp only [placed, ok_bind]
        rw [ih]
        simp [Stack.fill, closed, found, Except.toOption, reader, fill]

theorem run_name {stack : Stack} {level : Nat} {t : Token} {s : Stream}
    (ih : ∀ m : Machine, (m.run s).toOption.map (·.nodes) = (s.entries? m.reader).bind m.fill)
    (kind : t.kind = .property) :
    ((stack.close level >>= place level t) >>= fun m => m.run s).toOption.map (·.nodes) =
      (s.entries? (.property level t.value .colon)).bind stack.fill := by
  cases found : s.entries? (.property level t.value .colon) with
  | none =>
    cases stack.close level with
    | error error => rfl
    | ok st =>
      cases st with
      | component c below =>
        rw [ok_bind, place_property kind, ok_bind, ih, reader, found]
        rfl
      | _ => simp [place, kind, Except.toOption]
  | some es =>
    obtain ⟨e, rest, rfl, same, property⟩ := Stream.entries?_property found
    cases closed : stack.close level with
    | error error => simp [Stack.fill, same, closed, Except.toOption]
    | ok st =>
      by_cases component : ∃ c below, st = .component c below
      · obtain ⟨c, below, rfl⟩ := component
        rw [ok_bind, place_property kind, ok_bind, ih, reader, found]
        simp [Stack.fill, Stack.fillNext, same, closed, Except.toOption, fill]
      · have none := Stack.put_property property fun c below same => component ⟨c, below, same⟩
        cases st with
        | component c below => exact absurd ⟨c, below, rfl⟩ component
        | _ => simp [place, kind, Stack.fill, same, closed, none, Except.toOption]

theorem run_eq_fill (m : Machine) (s : Stream) :
    (m.run s).toOption.map (·.nodes) = (s.entries? m.reader).bind m.fill := by
  induction s generalizing m with
  | ended place =>
    cases m with
    | ready stack level =>
      simp only [run, finish, reader, Stream.entries?, Option.bind_some, fill, Stack.fill]
      cases stack.close 0 <;> rfl
    | property owner below level name await => rfl
  | malformed place => cases m <;> rfl
  | cons t rest ih =>
    cases m with
    | ready stack level =>
      simp only [run, step, reader, Stream.entries?, Reader.step, fill]
      cases kind : t.kind with
      | indent => simp [ih, reader, fill]
      | lineBreak => simp [ih, reader, fill]
      | component =>
        refine (run_place ⟨level, .component t.value t.location⟩ ih rfl fun st => ?_).trans ?_
        · simp [place_component kind, Stack.put, Except.toOption]
        · simp [Option.bind_assoc]
      | text =>
        refine (run_place ⟨level, .text t.value⟩ ih rfl fun st => ?_).trans ?_
        · simp [place_text kind, Stack.put, Except.toOption]
        · simp [Option.bind_assoc]
      | flag =>
        refine (run_place ⟨level, .flag t.value⟩ ih rfl fun st => ?_).trans ?_
        · cases st <;> simp [place, kind, Stack.put, Except.toOption]
        · simp [Option.bind_assoc]
      | property =>
        refine (run_name ih kind).trans ?_
        simp
      | _ =>
        cases stack.close level with
        | error error => rfl
        | ok st => cases st <;> simp [place, kind, Except.toOption]
    | property owner below level name await =>
      simp only [run, step, reader, Stream.entries?, Reader.step]
      split <;> simp only [ok_bind, error_bind]
      · simp [*, reader, fill]
      · simp [*, reader, fill]
      · simp [*, reader, fill, Stack.fillNext, Stack.put, Option.bind_assoc]
      · simp [*, reader, fill, Stack.fillNext, Stack.put, Option.bind_assoc]
      · simp [*, reader, fill]
      · simp [*, reader, fill, Stack.fillNext, Stack.put, Option.bind_assoc]
      · simp [*, Except.toOption]

end Machine
end Inlay.Markup
