import Inlay.Proofs.Markup.Tiling
import Mathlib.Logic.Function.Iterate

namespace Inlay.Markup

inductive Call
  | next
  | peek
deriving DecidableEq

namespace Lexer

def lex (l : Lexer) : Except Error Token × Lexer :=
  match l.lexeme with
  | .ok x =>
    (.ok (l.token x), { l with rest := x.rest, location := (l.location.past x.lead).past x.source })
  | .error spaces =>
    (.error ⟨.malformedIndent, l.location⟩,
      { l with rest := l.rest.drop spaces.length, location := l.location.past spaces })

def call (l : Lexer) : Call → Except Error Token × Lexer
  | .next =>
    match l.lex with
    | (.ok t, moved) => (.ok t, { moved with previous := some t })
    | (.error e, moved) => (.error e, moved)
  | .peek =>
    let (answer, moved) := l.lex
    (answer, { moved with rest := l.rest, location := l.location })

def session (l : Lexer) : List Call → List (Except Error Token) × Lexer
  | [] => ([], l)
  | c :: calls =>
    let (answer, l') := l.call c
    let (answers, last) := l'.session calls
    (answer :: answers, last)

theorem session_cons (l : Lexer) (c : Call) (calls : List Call) :
    l.session (c :: calls) =
      ((l.call c).1 :: ((l.call c).2.session calls).1, ((l.call c).2.session calls).2) := rfl

def behind (l : Lexer) (n : Nat) : Lexer := (fun l => l.next.2)^[n] l

def ends : Except Error Token → Bool
  | .ok t => t.kind = .endOfInput
  | .error _ => false

theorem call_next (l : Lexer) : l.call .next = l.next := by
  rw [call, lex, next]
  cases l.lexeme <;> rfl

theorem call_peek (l : Lexer) : l.call .peek = (l.next.1, l) := by
  rw [call, lex, next]
  cases l.lexeme <;> rfl

theorem call_answer (l : Lexer) (c : Call) : (l.call c).1 = l.next.1 := by
  cases c with
  | next => rw [call_next]
  | peek => rw [call_peek]

theorem lex_previous (l : Lexer) : l.lex.2.previous = l.previous := by
  rw [lex]
  cases l.lexeme <;> rfl

theorem lex_shorter {l l' : Lexer} {t : Token} (read : l.lex = (.ok t, l'))
    (opens : t.kind.opensLine) : l'.rest.length < l.rest.length := by
  rw [lex] at read
  cases found : l.lexeme with
  | error spaces =>
    rw [found] at read
    cases read
  | ok x =>
    rw [found] at read
    cases read
    have tiles := congrArg List.length (Lexeme.read_tiles found)
    have opens : x.kind.opensLine := opens
    have taken : x.source ≠ [] := by
      rcases Lexeme.read_progress found with ended | taken | ⟨-, text⟩
      · rw [ended] at opens
        cases opens
      · exact taken
      · rw [text] at opens
        cases opens
    have := List.length_pos_iff.2 taken
    simp only [List.length_append] at tiles
    dsimp only
    omega

theorem next_of_failed {l : Lexer} {e : Error} (failed : l.next.1 = .error e) :
    ∃ spaces, l.lexeme = .error spaces ∧
      l.next.2 = ⟨l.rest.drop spaces.length, l.location.past spaces, l.previous⟩ := by
  rw [next] at failed ⊢
  cases found : l.lexeme with
  | ok x =>
    rw [found] at failed
    cases failed
  | error spaces => exact ⟨spaces, rfl, rfl⟩

theorem previous_of_failed {l : Lexer} {e : Error} (failed : l.next.1 = .error e) :
    l.next.2.previous = l.previous := by
  obtain ⟨spaces, -, after⟩ := next_of_failed failed
  rw [after]

theorem rest_of_failed {l : Lexer} {e : Error} (failed : l.next.1 = .error e) :
    l.next.2.rest.length < l.rest.length := by
  obtain ⟨spaces, found, after⟩ := next_of_failed failed
  rw [lexeme] at found
  have head := (Lexeme.noUnit_of_read found).1
  have same := Lexeme.spaces_of_read found
  obtain ⟨r, rest⟩ : ∃ r, l.rest = ' ' :: r := List.head?_eq_some_iff.1 head
  have taken : 0 < spaces.length := by rw [← same, rest]; exact Nat.succ_pos _
  have left : 0 < l.rest.length := by rw [rest]; exact Nat.succ_pos _
  rw [after, List.length_drop]
  omega

theorem lighter_of_not_ends {l : Lexer} (more : ¬ends l.next.1) : l.next.2.weight < l.weight := by
  cases answer : l.next.1 with
  | ok t =>
    have read : l.next = (.ok t, l.next.2) := by rw [← answer]
    refine (next_lighter read).resolve_left fun ended => more ?_
    rw [answer]
    exact decide_eq_true ended
  | error e =>
    have shorter := rest_of_failed answer
    rw [weight, weight, previous_of_failed answer]
    omega

theorem rest_of_ends {l : Lexer} (ended : ends l.next.1) :
    l.next.2.rest = [] ∧ l.next.2.weight = 0 := by
  cases answer : l.next.1 with
  | ok t =>
    rw [answer] at ended
    have kind : t.kind = .endOfInput := of_decide_eq_true ended
    have read : l.next = (.ok t, l.next.2) := by rw [← answer]
    obtain ⟨x, found, rfl, after⟩ := next_eq_ok read
    have rest : x.rest = [] :=
      (List.append_eq_nil_iff.1 ((Lexeme.read_stands found).ended kind)).2
    have previous : (l.after x).previous.map (·.kind) = some .endOfInput := congrArg some kind
    rw [after]
    refine ⟨rest, ?_⟩
    rw [weight, previous, show (l.after x).rest = [] from rest]
    rfl
  | error e =>
    rw [answer] at ended
    cases ended

theorem ends_next {l : Lexer} (ended : ends l.next.1) : ends l.next.2.next.1 := by
  have found : l.next.2.lexeme = .ok ⟨[], .endOfInput, [], [], []⟩ := by
    rw [lexeme, (rest_of_ends ended).1, Lexeme.read_end]
  rw [next, found]
  rfl

theorem session_append (l : Lexer) (before after : List Call) :
    l.session (before ++ after) =
      ((l.session before).1 ++ ((l.session before).2.session after).1,
        ((l.session before).2.session after).2) := by
  induction before generalizing l with
  | nil => rfl
  | cons c before ih => simp only [List.cons_append, session_cons, ih]

theorem length_session (l : Lexer) (calls : List Call) :
    (l.session calls).1.length = calls.length := by
  induction calls generalizing l with
  | nil => rfl
  | cons c calls ih => exact congrArg (· + 1) (ih _)

theorem session_state (l : Lexer) (calls : List Call) :
    (l.session calls).2 = l.behind (calls.count .next) := by
  induction calls generalizing l with
  | nil => rfl
  | cons c calls ih =>
    rw [session_cons, ih]
    cases c with
    | next => rw [call_next, List.count_cons_self, behind, behind, Function.iterate_succ_apply]
    | peek => rw [call_peek, List.count_cons_of_ne (by decide)]

theorem answer_at (l : Lexer) (before : List Call) (c : Call) (after : List Call) :
    (l.session (before ++ c :: after)).1[before.length]? =
      some (l.behind (before.count .next)).next.1 := by
  have length := l.length_session before
  rw [session_append, List.getElem?_append_right (Nat.le_of_eq length), length, Nat.sub_self,
    session_cons, List.getElem?_cons_zero, call_answer, session_state]

theorem countP_le_weight (l : Lexer) (calls : List Call) :
    (calls.zip (l.session calls).1).countP (fun p => p.1 = .next ∧ ¬ends p.2) ≤ l.weight := by
  induction calls generalizing l with
  | nil => exact Nat.zero_le _
  | cons c calls ih =>
    rw [session_cons, List.zip_cons_cons, List.countP_cons]
    cases c with
    | peek =>
      rw [call_peek, if_neg (by simp)]
      exact ih l
    | next =>
      have later := ih l.next.2
      rw [call_next]
      by_cases ended : ends l.next.1
      · rw [(rest_of_ends ended).2] at later
        rw [if_neg (by simp [ended])]
        omega
      · have lighter := lighter_of_not_ends ended
        rw [if_pos (by simp [ended])]
        omega

theorem ends_session {l : Lexer} (ended : ends l.next.1) (calls : List Call) :
    ∀ answer ∈ (l.session calls).1, ends answer := by
  induction calls generalizing l with
  | nil => exact fun answer member => absurd member List.not_mem_nil
  | cons c calls ih =>
    rw [session_cons, List.forall_mem_cons, call_answer]
    refine ⟨ended, ih ?_⟩
    cases c with
    | next => rw [call_next]; exact ends_next ended
    | peek => rw [call_peek]; exact ended

theorem ends_dropWhile (l : Lexer) (calls : List Call) :
    ∀ answer ∈ (l.session calls).1.dropWhile (!ends ·), ends answer := by
  induction calls generalizing l with
  | nil => exact fun answer member => absurd member List.not_mem_nil
  | cons c calls ih =>
    by_cases ended : ends (l.call c).1
    · rw [call_answer] at ended
      intro answer member
      exact ends_session ended _ answer ((List.dropWhile_suffix _).subset member)
    · rw [session_cons, List.dropWhile_cons_of_pos (by simpa using ended)]
      exact ih _

/-- What can be relied on in any calls on a lexer for a text. -/
structure Serves (s : Text) (calls : List Call) : Prop where
  /-- A call of either kind is answered as the first `next` is that comes after the same number of
  `next`s, whatever was looked at in between. -/
  answers (before : List Call) (c : Call) (after : List Call) : calls = before ++ c :: after →
    ((start s).session calls).1[before.length]? =
      some ((start s).behind (before.count .next)).next.1
  state : ((start s).session calls).2 = (start s).behind (calls.count .next)
  peek : ((start s).session calls).2.call .peek =
    ((((start s).session calls).2.call .next).1, ((start s).session calls).2)
  previous (e : Error) : (((start s).session calls).2.call .next).1 = .error e →
    (((start s).session calls).2.call .next).2.previous = ((start s).session calls).2.previous
  taken : (calls.zip ((start s).session calls).1).countP (fun p => p.1 = .next ∧ ¬ends p.2) ≤
    2 * s.length
  ended : ∀ answer ∈ ((start s).session calls).1.dropWhile (!ends ·), ends answer

theorem serves_start (s : Text) (calls : List Call) : Serves s calls where
  answers before c after same := by rw [same, answer_at]
  state := session_state _ calls
  peek := by rw [call_peek, call_next]
  previous e failed := by
    rw [call_next] at failed ⊢
    exact previous_of_failed failed
  taken := countP_le_weight (start s) calls
  ended := ends_dropWhile _ calls

end Lexer
end Inlay.Markup
