import Inlay.Proofs.Markup.Calls
import Inlay.Proofs.Markup.Descent

/-!
# Parsing call by call

The parser as a client of a lexer.  It looks at a token with `peek`, takes it with `next`, and
counts the indents of the line.  Its loops and procedures call each other without a measure, so a
scan has an outcome or none at all (`Scan`).  It always has one: the document or the error that the
stream of tokens has, after no more tokens than there can be.

Main statement: `reading_ends`.
-/

namespace Inlay.Markup
open Attempt

structure Scanner where
  lexer : Lexer
  level : Nat
  taken : Nat

abbrev Scan := ExceptT Error (StateT Scanner Option)

def Scanner.start (s : Text) : Scanner := ⟨.start s, 0, 0⟩

namespace Scan

def next : Scan Token := fun r =>
  match r.lexer.call .next with
  | (.ok t, l) => some (.ok t, { r with lexer := l, taken := r.taken + 1 })
  | (.error e, l) => some (.error e, { r with lexer := l })

def peek : Scan Token := fun r =>
  some ((r.lexer.call .peek).1, { r with lexer := (r.lexer.call .peek).2 })

def level : Scan Nat := fun r => some (.ok r.level, r)

def setLevel (n : Nat) : Scan Unit := fun r => some (.ok (), { r with level := n })

-- A recursive call that is written out as a term is recorded with its place in the file, and the
-- fixed point keeps that.  Calls that are applied leave it out, so that the definition is the same
-- wherever it stands.

def tokens : Scan (List Token) := do
  let t ← next
  if t.kind = .endOfInput then return [t]
  else return t :: (← by apply tokens)
partial_fixpoint

def skipLayout : Scan (Option Token) := do
  let t ← peek
  match t.kind with
  | .endOfInput => return none
  | .indent => do
    setLevel ((← level) + 1)
    let _ ← next
    by apply skipLayout
  | .lineBreak => do
    setLevel 0
    let _ ← next
    by apply skipLayout
  | _ => return some t
partial_fixpoint

def demand (kind : Token.Kind) (fault : Token → Error) : Scan Token := do
  let t ← next
  if t.kind = kind then return t else throw (fault t)

def string : Scan Text := do
  let _ ← demand .quote fun t => ⟨.malformedString (.notOpened t.value), t.location⟩
  let inside ← demand .text fun t => ⟨.malformedString (.noContents t.kind), t.location⟩
  let _ ← demand .quote fun t => ⟨.malformedString (.notClosed t.kind), t.location⟩
  return inside.value

mutual

def block : Scan (List Node) := do
  let base ← level
  setLevel 0
  by apply nodes; exact base
partial_fixpoint

def nodes (base : Nat) : Scan (List Node) := do
  match ← skipLayout with
  | none => return []
  | some t =>
    if base ≠ 0 ∧ (← level) ≤ base then return []
    else match t.kind with
      | .component => do
        let inner ← by apply component
        return .component inner :: (← by apply nodes; exact base)
      | .text => do
        let _ ← next
        return .text t.value :: (← by apply nodes; exact base)
      | kind => throw ⟨.unexpectedToken kind t.value, t.location⟩
partial_fixpoint

def component : Scan Component := do
  let mark ← next
  let base ← level
  let (properties, children) ← by apply contents; exact base
  return ⟨mark.value, properties, children, mark.location⟩
partial_fixpoint

def contents (base : Nat) : Scan (List Property × List Node) := do
  match ← skipLayout with
  | none => return ([], [])
  | some t =>
    if (← level) ≤ base then return ([], [])
    else match t.kind with
      | .text => do
        let _ ← next
        let (properties, children) ← by apply contents; exact base
        return (properties, .text t.value :: children)
      | .component => do
        let inner ← by apply component
        let (properties, children) ← by apply contents; exact base
        return (properties, .component inner :: children)
      | .flag => do
        let _ ← next
        let (properties, children) ← by apply contents; exact base
        return (⟨t.value, .flag⟩ :: properties, children)
      | .property => do
        let p ← by apply property
        let (properties, children) ← by apply contents; exact base
        return (p :: properties, children)
      | kind => throw ⟨.unexpectedToken kind t.value, t.location⟩
partial_fixpoint

def property : Scan Property := do
  let name ← next
  let _ ← demand .colon fun t => ⟨.expectedColon t.value, t.location⟩
  let v ← by apply value
  return ⟨name.value, v⟩
partial_fixpoint

def value : Scan Value := do
  let head ← peek
  match head.kind with
  | .quote => return .string (← string)
  | .number => do
    let _ ← next
    return .string head.value
  | .lineBreak => do
    let _ ← next
    let nodes ← by apply block
    Parser.blockValue nodes head.location
  | _ => throw ⟨.expectedValue head.value, head.location⟩
partial_fixpoint

end

def document : Scan Document := return ⟨← block⟩

end Scan

/-! ## The tokens ahead of a lexer -/

theorem Lexer.next_ahead (l : Lexer) :
    match Stream.ofLexer l with
    | .ended place => l.next.1 = .ok ⟨.endOfInput, [], place⟩
    | .malformed place => l.next.1 = .error ⟨.malformedIndent, place⟩
    | .cons t rest => t.kind ≠ .endOfInput ∧ l.next.1 = .ok t ∧ Stream.ofLexer l.next.2 = rest := by
  cases found : l.lexeme with
  | error spaces =>
    have ahead : Stream.ofLexer l = .malformed l.location := by rw [Stream.ofLexer_eq, found]
    rw [ahead, next, found]
  | ok x =>
    have read : l.next = (.ok (l.token x), l.after x) := by rw [next, found]; rfl
    by_cases ended : x.kind = .endOfInput
    · have stands := Lexeme.read_stands found
      obtain ⟨source, -⟩ := List.append_eq_nil_iff.1 (stands.ended ended)
      have value : x.value = [] := by
        rcases stands.spelled with ⟨-, text, -⟩ | ⟨spelled, -⟩
        · rw [ended] at text
          cases text
        · rw [ended] at spelled
          exact (spelled : x.source = x.value) ▸ source
      rw [Stream.ofLexer_ended found ended, read]
      dsimp only [token]
      rw [ended, value]
    · rw [Stream.ofLexer_cons found ended, read]
      exact ⟨ended, rfl, rfl⟩

theorem Stream.length_le_weight (l : Lexer) : (ofLexer l).length ≤ l.weight := by
  fun_induction ofLexer l with
  | case1 => exact Nat.zero_le _
  | case2 l t l' taken more ih =>
    exact Nat.lt_of_le_of_lt ih ((Lexer.next_lighter taken).resolve_left more)
  | case3 => exact Nat.zero_le _

/-! ## What a scan comes to -/

structure Scanner.At (total : Nat) (c : Cursor) (r : Scanner) : Prop where
  ahead : Stream.ofLexer r.lexer = c.stream
  level : r.level = c.level
  taken : r.taken + c.size = total

namespace Scan

variable {total : Nat} {c c' : Cursor}

def Comes (m : Scan α) (total : Nat) (c : Cursor) : Except Error (α × Cursor) → Prop
  | .ok (a, c') => ∀ r : Scanner, r.At total c → ∃ r', m r = some (.ok a, r') ∧ r'.At total c'
  | .error e => ∀ r : Scanner, r.At total c → ∃ r', m r = some (.error e, r') ∧ r'.taken ≤ total + 1

theorem bind_apply (m : Scan α) (f : α → Scan β) (r : Scanner) :
    (m >>= f) r = (m r).bind fun
      | (.ok a, r') => f a r'
      | (.error e, r') => some (.error e, r') := by
  show (m r).bind _ = _
  congr
  funext p
  obtain ⟨x, r'⟩ := p
  cases x <;> rfl

namespace Comes

theorem of_lexer {m : Scan α} {x : Except Error (α × Cursor)}
    (comes : ∀ l, Stream.ofLexer l = c.stream → m.Comes total c x) : m.Comes total c x := by
  cases x with
  | ok p => exact fun r at_c => comes r.lexer at_c.ahead r at_c
  | error e => exact fun r at_c => comes r.lexer at_c.ahead r at_c

protected theorem pure (a : α) : (pure a : Scan α).Comes total c (.ok (a, c)) :=
  fun r at_c => ⟨r, rfl, at_c⟩

protected theorem throw (e : Error) : (throw e : Scan α).Comes total c (.error e) :=
  fun r at_c => ⟨r, rfl, by have := at_c.taken; omega⟩

theorem bind {m : Scan α} {f : α → Scan β} {x : Except Error (α × Cursor)}
    {y : α × Cursor → Except Error (β × Cursor)} (first : m.Comes total c x)
    (later : ∀ a c', x = .ok (a, c') → (f a).Comes total c' (y (a, c'))) :
    (m >>= f).Comes total c (x >>= y) := by
  cases x with
  | error e =>
    intro r at_c
    obtain ⟨r', came, taken⟩ := first r at_c
    exact ⟨r', by rw [bind_apply, came]; rfl, taken⟩
  | ok p =>
    obtain ⟨a, c'⟩ := p
    have next := later a c' rfl
    rw [ok_bind]
    have step (r : Scanner) (at_c : r.At total c) :
        ∃ r', (m >>= f) r = f a r' ∧ r'.At total c' := by
      obtain ⟨r', came, at_c'⟩ := first r at_c
      exact ⟨r', by rw [bind_apply, came]; rfl, at_c'⟩
    cases came : y (a, c') with
    | ok q =>
      rw [came] at next
      intro r at_c
      obtain ⟨r', same, at_c'⟩ := step r at_c
      rw [same]
      exact next r' at_c'
    | error e =>
      rw [came] at next
      intro r at_c
      obtain ⟨r', same, at_c'⟩ := step r at_c
      rw [same]
      exact next r' at_c'

theorem bind_ok {m : Scan α} {f : α → Scan β} {a : α} {y : Except Error (β × Cursor)}
    (first : m.Comes total c (.ok (a, c'))) (later : (f a).Comes total c' y) :
    (m >>= f).Comes total c y :=
  first.bind (y := fun _ => y) fun a' c'' same => by cases same; exact later

theorem bind_error {m : Scan α} {f : α → Scan β} {e : Error} (first : m.Comes total c (.error e)) :
    (m >>= f).Comes total c (.error e) :=
  first.bind (y := fun _ => .error e) nofun

end Comes

/-! ## Calls -/

theorem level_comes : level.Comes total c (.ok (c.level, c)) :=
  fun r at_c => ⟨r, by rw [← at_c.level]; rfl, at_c⟩

theorem setLevel_comes (n : Nat) : (setLevel n).Comes total c (.ok ((), ⟨c.stream, n⟩)) :=
  fun r at_c => ⟨{ r with level := n }, rfl, at_c.ahead, rfl, at_c.taken⟩

theorem lift_comes (x : Except Error α) :
    (liftM x : Scan α).Comes total c (do let a ← x; .ok (a, c)) := by
  cases x with
  | ok a => exact .pure a
  | error e => exact .throw e

theorem next_of_ok {r : Scanner} {t : Token} (answer : r.lexer.next.1 = .ok t) :
    next r = some (.ok t, ⟨r.lexer.next.2, r.level, r.taken + 1⟩) := by
  rw [next, Lexer.call_next, show r.lexer.next = (.ok t, r.lexer.next.2) by rw [← answer]]

theorem next_of_error {r : Scanner} {e : Error} (answer : r.lexer.next.1 = .error e) :
    next r = some (.error e, ⟨r.lexer.next.2, r.level, r.taken⟩) := by
  rw [next, Lexer.call_next, show r.lexer.next = (.error e, r.lexer.next.2) by rw [← answer]]

theorem peek_apply (r : Scanner) : peek r = some (r.lexer.next.1, r) := by
  rw [peek, Lexer.call_peek]

theorem peek_comes :
    peek.Comes total c (do let (t, _) ← c.stream.next; .ok (t, c)) := by
  obtain ⟨s, n⟩ := c
  cases s with
  | ended place =>
    intro r at_c
    have ahead := r.lexer.next_ahead
    rw [at_c.ahead] at ahead
    exact ⟨r, by rw [peek_apply, ahead], at_c⟩
  | malformed place =>
    intro r at_c
    have ahead := r.lexer.next_ahead
    rw [at_c.ahead] at ahead
    exact ⟨r, by rw [peek_apply, ahead], by have := at_c.taken; omega⟩
  | cons t rest =>
    intro r at_c
    have ahead := r.lexer.next_ahead
    rw [at_c.ahead] at ahead
    exact ⟨r, by rw [peek_apply, ahead.2.1], at_c⟩

theorem next_comes (t : Token) (rest : Stream) (n : Nat) :
    next.Comes total ⟨.cons t rest, n⟩ (.ok (t, ⟨rest, n⟩)) := by
  intro r at_c
  have ahead := r.lexer.next_ahead
  rw [at_c.ahead] at ahead
  obtain ⟨-, answer, behind⟩ := ahead
  refine ⟨_, next_of_ok answer, behind, at_c.level, ?_⟩
  rw [← at_c.taken]
  exact Nat.add_right_comm r.taken 1 rest.length

def demanded (kind : Token.Kind) (fault : Token → Error) (c : Cursor) :
    Except Error (Token × Cursor) := do
  let (t, s) ← c.stream.next
  if t.kind = kind then .ok (t, ⟨s, c.level⟩) else .error (fault t)

theorem demand_comes {kind : Token.Kind} (more : kind ≠ .endOfInput) (fault : Token → Error) :
    (demand kind fault).Comes total c (demanded kind fault c) := by
  obtain ⟨s, n⟩ := c
  cases s with
  | ended place =>
    show Comes _ _ _ (if Token.Kind.endOfInput = kind then _ else _)
    rw [if_neg more.symm]
    intro r at_c
    have ahead := r.lexer.next_ahead
    rw [at_c.ahead] at ahead
    have came : demand kind fault r = some (.error (fault ⟨.endOfInput, [], place⟩),
        ⟨r.lexer.next.2, r.level, r.taken + 1⟩) := by
      rw [demand, bind_apply, next_of_ok ahead]
      show (if Token.Kind.endOfInput = kind then _ else _ : Scan Token) _ = _
      rw [if_neg more.symm]
      rfl
    have taken : r.taken + 0 = total := at_c.taken
    exact ⟨_, came, by dsimp only; omega⟩
  | malformed place =>
    intro r at_c
    have ahead := r.lexer.next_ahead
    rw [at_c.ahead] at ahead
    have came : demand kind fault r = some (.error ⟨.malformedIndent, place⟩,
        ⟨r.lexer.next.2, r.level, r.taken⟩) := by
      rw [demand, bind_apply, next_of_error ahead]
      rfl
    have taken : r.taken + 0 = total := at_c.taken
    exact ⟨_, came, by dsimp only; omega⟩
  | cons t rest =>
    rw [demand]
    refine (next_comes t rest n).bind_ok ?_
    show Comes _ _ _ (if t.kind = kind then _ else _)
    split
    · exact .pure t
    · exact .throw _

theorem skipLayout_comes (total : Nat) (c : Cursor) :
    skipLayout.Comes total c (match c.skipLayout with
      | ⟨.ended place, n⟩ => .ok (none, ⟨.ended place, n⟩)
      | ⟨.malformed place, _⟩ => .error ⟨.malformedIndent, place⟩
      | ⟨.cons t rest, n⟩ => .ok (some t, ⟨.cons t rest, n⟩)) := by
  obtain ⟨s, n⟩ := c
  rw [Cursor.skipLayout]
  dsimp only
  induction s generalizing n with
  | ended place =>
    rw [skipLayout]
    refine peek_comes.bind_ok ?_
    exact .pure none
  | malformed place =>
    rw [skipLayout]
    exact peek_comes.bind_error
  | cons t rest ih =>
    refine .of_lexer fun l ahead => ?_
    have real := l.next_ahead
    rw [ahead] at real
    rw [skipLayout, Cursor.skipLayout.go.eq_def]
    refine peek_comes.bind_ok ?_
    dsimp only
    cases kind : t.kind with
    | endOfInput => exact absurd kind real.1
    | indent =>
      exact level_comes.bind_ok
        ((setLevel_comes (n + 1)).bind_ok ((next_comes t rest _).bind_ok (ih _)))
    | lineBreak => exact (setLevel_comes 0).bind_ok ((next_comes t rest _).bind_ok (ih 0))
    | _ => exact .pure (some t)

theorem string_eq (c : Cursor) :
    (do let p ← Parser.string c.stream; .ok (p.1, (⟨p.2.val, c.level⟩ : Cursor))) = (do
      let (_, c₁) ← demanded .quote (fun t => ⟨.malformedString (.notOpened t.value), t.location⟩) c
      let (inside, c₂) ←
        demanded .text (fun t => ⟨.malformedString (.noContents t.kind), t.location⟩) c₁
      let (_, c₃) ←
        demanded .quote (fun t => ⟨.malformedString (.notClosed t.kind), t.location⟩) c₂
      .ok (inside.value, c₃)) := by
  unfold Parser.string
  simp only [demanded, bind_assoc]
  split <;> rename_i first <;> simp only [first, error_bind, ok_bind]
  rename_i opening s₁
  by_cases opened : opening.kind = .quote
  · rw [if_neg (not_not.2 opened), if_pos opened, ok_bind]
    dsimp only
    split <;> rename_i second <;> simp only [second, error_bind, ok_bind]
    rename_i inside s₂
    by_cases text : inside.kind = .text
    · rw [if_neg (not_not.2 text), if_pos text, ok_bind]
      dsimp only
      split <;> rename_i third <;> simp only [third, error_bind, ok_bind]
      rename_i closing s₃
      by_cases closed : closing.kind = .quote
      · rw [if_neg (not_not.2 closed), if_pos closed]
        rfl
      · rw [if_pos closed, if_neg closed]
        rfl
    · rw [if_pos text, if_neg text]
      rfl
  · rw [if_pos opened, if_neg opened]
    rfl

theorem string_comes (total : Nat) (c : Cursor) :
    string.Comes total c (do let p ← Parser.string c.stream; .ok (p.1, ⟨p.2.val, c.level⟩)) := by
  rw [string_eq, string]
  refine (demand_comes (by decide) _).bind fun _ c₁ _ => ?_
  refine (demand_comes (by decide) _).bind fun inside c₂ _ => ?_
  exact (demand_comes (by decide) _).bind fun _ c₃ _ => .pure _

/-! ## Trees -/

theorem component_comes {t : Token} {rest : Stream} {n : Nat}
    (inner : (contents n).Comes total ⟨rest, n⟩ (Parser.contentsAt n ⟨rest, n⟩)) :
    component.Comes total ⟨.cons t rest, n⟩ (do
      let ((properties, children), c₁) ← Parser.contentsAt n ⟨rest, n⟩
      .ok (⟨t.value, properties, children, t.location⟩, c₁)) := by
  rw [component]
  refine (next_comes t rest n).bind_ok (level_comes.bind_ok ?_)
  exact inner.bind fun _ _ _ => .pure _

def headAt (c : Cursor) : Except Error (Value × Cursor) := do
  let (head, s₂) ← c.stream.next
  match head.kind with
  | .quote => do
    let p ← Parser.string c.stream
    .ok (.string p.1, ⟨p.2.val, c.level⟩)
  | .number => .ok (.string head.value, ⟨s₂, c.level⟩)
  | .lineBreak => do
    let (nodes, c₁) ← Parser.nodesAt c.level ⟨s₂, 0⟩
    let value ← Parser.blockValue nodes head.location
    .ok (value, c₁)
  | _ => .error ⟨.expectedValue head.value, head.location⟩

theorem valueAt_eq_headAt (c : Cursor) :
    Parser.valueAt c = (do
      let (_, c₁) ← demanded .colon (fun t => ⟨.expectedColon t.value, t.location⟩) c
      headAt c₁) := by
  rw [Parser.valueAt_eq, demanded, bind_assoc]
  cases c.stream.next with
  | error e => rfl
  | ok p =>
    obtain ⟨colon, s₁⟩ := p
    rw [ok_bind, ok_bind]
    dsimp only
    by_cases kind : colon.kind = .colon
    · rw [if_neg (not_not.2 kind), if_pos kind]
      rfl
    · rw [if_pos kind, if_neg kind]
      rfl

theorem block_comes {s : Stream} {n : Nat}
    (inner : (nodes n).Comes total ⟨s, 0⟩ (Parser.nodesAt n ⟨s, 0⟩)) :
    block.Comes total ⟨s, n⟩ (Parser.nodesAt n ⟨s, 0⟩) := by
  rw [block]
  exact level_comes.bind_ok ((setLevel_comes 0).bind_ok inner)

theorem value_comes
    (inner : ∀ head s, c.stream = .cons head s →
      (nodes c.level).Comes total ⟨s, 0⟩ (Parser.nodesAt c.level ⟨s, 0⟩)) :
    value.Comes total c (headAt c) := by
  rw [value, headAt]
  obtain ⟨s, n⟩ := c
  cases s with
  | ended place =>
    refine peek_comes.bind_ok ?_
    exact .throw _
  | malformed place => exact peek_comes.bind_error
  | cons head rest =>
    refine peek_comes.bind_ok ?_
    dsimp only [Stream.next]
    rw [ok_bind]
    dsimp only
    cases kind : head.kind with
    | quote =>
      have comes := (string_comes total ⟨.cons head rest, n⟩).bind
        (y := fun p => .ok (Value.string p.1, p.2)) fun _ _ _ => .pure _
      rw [bind_assoc] at comes
      exact comes
    | number => exact (next_comes head rest n).bind_ok (.pure _)
    | lineBreak =>
      refine (next_comes head rest n).bind_ok ?_
      exact (block_comes (inner head rest rfl)).bind fun nodes c₁ _ => lift_comes _
    | _ => exact .throw _

theorem demanded_eq_ok {kind : Token.Kind} {fault : Token → Error} {t : Token}
    (more : kind ≠ .endOfInput) (found : demanded kind fault c = .ok (t, c')) :
    c.stream = .cons t c'.stream ∧ c'.level = c.level := by
  obtain ⟨s, n⟩ := c
  obtain ⟨⟨u, rest⟩, first, found⟩ := bind_eq_ok.1 found
  dsimp only at found
  split at found
  · next same =>
    cases found
    cases s with
    | ended place =>
      cases first
      exact absurd same.symm more
    | malformed place => cases first
    | cons u rest =>
      cases first
      exact ⟨rfl, rfl⟩
  · cases found

theorem property_comes {t : Token} {rest : Stream} {n : Nat}
    (inner : ∀ s : Stream, s.length < rest.length →
      (nodes n).Comes total ⟨s, 0⟩ (Parser.nodesAt n ⟨s, 0⟩)) :
    property.Comes total ⟨.cons t rest, n⟩ (do
      let (v, c₁) ← Parser.valueAt ⟨rest, n⟩
      .ok (⟨t.value, v⟩, c₁)) := by
  rw [property, valueAt_eq_headAt, bind_assoc]
  refine (next_comes t rest n).bind_ok ?_
  refine (demand_comes (by decide) _).bind fun colon c₁ found => ?_
  obtain ⟨ahead, same⟩ := demanded_eq_ok (by decide) found
  refine (value_comes fun head s behind => ?_).bind fun _ _ _ => .pure _
  rw [same]
  refine inner s ?_
  rw [show rest = _ from ahead, behind, Stream.length, Stream.length]
  omega

theorem component_shorter {t : Token} {c₀ c₁ : Cursor} {n : Nat} {inner : Component}
    (found : (do
      let ((properties, children), c₁) ← Parser.contentsAt n c₀
      .ok (⟨t.value, properties, children, t.location⟩, c₁)) = Except.ok (inner, c₁)) :
    c₁.size < c₀.size + 1 := by
  obtain ⟨⟨contents, c₂⟩, read, same⟩ := bind_eq_ok.1 found
  cases same
  exact Parser.contentsAt_size read

theorem property_shorter {t : Token} {c₀ c₁ : Cursor} {p : Property}
    (found : (do
      let (v, c₁) ← Parser.valueAt c₀
      .ok (⟨t.value, v⟩, c₁)) = Except.ok (p, c₁)) :
    c₁.size < c₀.size + 1 := by
  obtain ⟨⟨v, c₂⟩, read, same⟩ := bind_eq_ok.1 found
  cases same
  exact Parser.valueAt_size read

mutual

theorem nodes_comes (base : Nat) (c : Cursor) :
    (nodes base).Comes total c (Parser.nodesAt base c) := by
  rw [nodes, Parser.nodesAt_eq]
  have skipped := skipLayout_comes total c
  cases here : c.skipLayout with
  | mk s n =>
    rw [here] at skipped
    cases s with
    | ended place => exact skipped.bind_ok (.pure [])
    | malformed place => exact skipped.bind_error
    | cons t rest =>
      have shorter := Cursor.skipLayout_rest here
      refine skipped.bind_ok (level_comes.bind_ok ?_)
      dsimp only
      split
      · exact .pure []
      · cases t.kind with
        | component =>
          have comes := (component_comes (t := t) (contents_comes n ⟨rest, n⟩)).bind
            (y := fun p => do
              let (nodes, c₂) ← Parser.nodesAt base p.2
              .ok (.component p.1 :: nodes, c₂))
            (f := fun inner => do return .component inner :: (← nodes base)) fun inner c₁
              found => by
              have := component_shorter found
              exact (nodes_comes base c₁).bind fun _ _ _ => .pure _
          rw [bind_assoc] at comes
          exact comes
        | text =>
          refine (next_comes t rest n).bind_ok ?_
          exact (nodes_comes base ⟨rest, n⟩).bind fun _ _ _ => .pure _
        | _ => exact .throw _
termination_by c.size

theorem contents_comes (base : Nat) (c : Cursor) :
    (contents base).Comes total c (Parser.contentsAt base c) := by
  rw [contents, Parser.contentsAt_eq]
  have skipped := skipLayout_comes total c
  cases here : c.skipLayout with
  | mk s n =>
    rw [here] at skipped
    cases s with
    | ended place => exact skipped.bind_ok (.pure ([], []))
    | malformed place => exact skipped.bind_error
    | cons t rest =>
      have shorter := Cursor.skipLayout_rest here
      refine skipped.bind_ok (level_comes.bind_ok ?_)
      dsimp only
      split
      · exact .pure ([], [])
      · cases t.kind with
        | text =>
          refine (next_comes t rest n).bind_ok ?_
          exact (contents_comes base ⟨rest, n⟩).bind fun _ _ _ => .pure _
        | flag =>
          refine (next_comes t rest n).bind_ok ?_
          exact (contents_comes base ⟨rest, n⟩).bind fun _ _ _ => .pure _
        | component =>
          have comes := (component_comes (t := t) (contents_comes n ⟨rest, n⟩)).bind
            (y := fun p => do
              let ((properties, children), c₂) ← Parser.contentsAt base p.2
              .ok ((properties, .component p.1 :: children), c₂))
            (f := fun inner => do
              let (properties, children) ← contents base
              return (properties, .component inner :: children)) fun inner c₁ found => by
              have := component_shorter found
              exact (contents_comes base c₁).bind fun _ _ _ => .pure _
          rw [bind_assoc] at comes
          exact comes
        | property =>
          have value (s : Stream) (inside : s.length < rest.length) :
              (nodes n).Comes total ⟨s, 0⟩ (Parser.nodesAt n ⟨s, 0⟩) := by
            have : (⟨s, 0⟩ : Cursor).size < (⟨rest, n⟩ : Cursor).size := inside
            exact nodes_comes n ⟨s, 0⟩
          have comes := (property_comes (t := t) value).bind
            (y := fun p => do
              let ((properties, children), c₂) ← Parser.contentsAt base p.2
              .ok ((p.1 :: properties, children), c₂))
            (f := fun p => do
              let (properties, children) ← contents base
              return (p :: properties, children)) fun p c₁ found => by
              have := property_shorter found
              exact (contents_comes base c₁).bind fun _ _ _ => .pure _
          rw [bind_assoc] at comes
          exact comes
        | _ => exact .throw _
termination_by c.size

end

/-! ## Whole texts -/

theorem Comes.outcome {m : Scan α} {x : Except Error (α × Cursor)} {r : Scanner}
    (comes : m.Comes total c x) (at_c : r.At total c) :
    ∃ r', m r = some ((·.1) <$> x, r') ∧ r'.taken ≤ total + 1 := by
  cases x with
  | ok p =>
    obtain ⟨r', came, at_c'⟩ := comes r at_c
    have taken := at_c'.taken
    exact ⟨r', came, by omega⟩
  | error e => exact comes r at_c

theorem document_outcome (s : Text) :
    ∃ r, document (.start s) = some (parse s, r) ∧ r.taken ≤ 2 * s.length + 1 := by
  have start : (Scanner.start s).At (Stream.ofText s).length ⟨.ofText s, 0⟩ :=
    ⟨rfl, rfl, Nat.zero_add _⟩
  have comes : document.Comes (Stream.ofText s).length ⟨.ofText s, 0⟩ (do
      let (nodes, c) ← Parser.nodesAt 0 ⟨.ofText s, 0⟩
      .ok (⟨nodes⟩, c)) := (block_comes (nodes_comes 0 _)).bind fun _ _ _ => .pure _
  obtain ⟨r, came, taken⟩ := comes.outcome start
  have same : (·.1) <$> (do
      let (nodes, c) ← Parser.nodesAt 0 ⟨.ofText s, 0⟩
      .ok (⟨nodes⟩, c)) = parse s := by
    rw [parse, Document.ofStream, Parser.nodesAt]
    cases Parser.block 0 ⟨.ofText s, 0⟩ <;> rfl
  rw [same] at came
  have length : (Stream.ofText s).length ≤ 2 * s.length := Stream.length_le_weight (.start s)
  exact ⟨r, came, taken.trans (Nat.succ_le_succ length)⟩

theorem tokens_outcome (r : Scanner) :
    ∃ r', tokens r = some ((Stream.ofLexer r.lexer).tokens, r') ∧
      r'.taken ≤ r.taken + (Stream.ofLexer r.lexer).length + 1 := by
  generalize ahead : Stream.ofLexer r.lexer = s
  induction s generalizing r with
  | ended place =>
    have next := r.lexer.next_ahead
    rw [ahead] at next
    refine ⟨⟨r.lexer.next.2, r.level, r.taken + 1⟩, ?_, Nat.le_refl _⟩
    rw [tokens, bind_apply, next_of_ok next]
    rfl
  | malformed place =>
    have next := r.lexer.next_ahead
    rw [ahead] at next
    refine ⟨⟨r.lexer.next.2, r.level, r.taken⟩, ?_, Nat.le_succ _⟩
    rw [tokens, bind_apply, next_of_error next]
    rfl
  | cons t rest ih =>
    have next := r.lexer.next_ahead
    rw [ahead] at next
    obtain ⟨more, answer, behind⟩ := next
    obtain ⟨r', came, taken⟩ := ih ⟨r.lexer.next.2, r.level, r.taken + 1⟩ behind
    refine ⟨r', ?_, ?_⟩
    · rw [tokens, bind_apply, next_of_ok answer]
      dsimp only [Option.bind_some]
      rw [if_neg more, bind_apply, came, Stream.tokens]
      cases rest.tokens <;> rfl
    · rw [Stream.length]
      dsimp only at taken
      omega

end Scan

/-- Whatever is called on a lexer for a text, it serves; every token of the text is taken, or a
malformed indentation met, after so many calls; and parsing it call by call has the outcome of the
parser, after no more calls. -/
theorem reading_ends (s : Text) :
    (∀ calls, Lexer.Serves s calls) ∧
    (∃ r, Scan.tokens (.start s) = some (tokenize s, r) ∧ r.taken ≤ 2 * s.length + 1) ∧
    ∃ r, Scan.document (.start s) = some (parse s, r) ∧ r.taken ≤ 2 * s.length + 1 := by
  obtain ⟨r, came, taken⟩ := Scan.tokens_outcome (.start s)
  have length := Stream.length_le_weight (.start s)
  refine ⟨Lexer.serves_start s, ⟨r, came, ?_⟩, Scan.document_outcome s⟩
  exact taken.trans (Nat.succ_le_succ ((Nat.zero_add _).le.trans length))

end Inlay.Markup
