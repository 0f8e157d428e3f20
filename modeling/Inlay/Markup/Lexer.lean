import Inlay.Markup.Error
import Inlay.Markup.Lexeme

namespace Inlay.Markup

structure Lexer where
  rest : Text
  location : Location
  previous : Option Token

namespace Lexer

def start (s : Text) : Lexer := ⟨s, .start, none⟩

def lexeme (l : Lexer) : Except Text Lexeme := Lexeme.read (l.previous.map (·.kind)) l.rest

def token (l : Lexer) (x : Lexeme) : Token := ⟨x.kind, x.value, l.location.past x.lead⟩

def next (l : Lexer) : Except Error Token × Lexer :=
  match l.lexeme with
  | .ok x =>
    (.ok (l.token x), ⟨x.rest, (l.location.past x.lead).past x.source, some (l.token x)⟩)
  | .error spaces =>
    (.error ⟨.malformedIndent, l.location⟩,
      ⟨l.rest.drop spaces.length, l.location.past spaces, l.previous⟩)

def peek (l : Lexer) : Except Error Token := l.next.1

/-- Twice the characters left, and one more inside a quote, where an empty string may follow. -/
def weight (l : Lexer) : Nat :=
  2 * l.rest.length + if l.previous.map (·.kind) = some .quote then 1 else 0

theorem next_lighter {l l' : Lexer} {t : Token} (h : l.next = (.ok t, l')) :
    t.kind = .endOfInput ∨ l'.weight < l.weight := by
  unfold next at h
  split at h
  · next x found =>
    simp only [Prod.mk.injEq, Except.ok.injEq] at h
    obtain ⟨rfl, rfl⟩ := h
    have tiles := Lexeme.read_tiles found
    have length : x.lead.length + x.source.length + x.rest.length = l.rest.length := by
      rw [← tiles]; simp [Nat.add_assoc]
    rcases Lexeme.read_progress found with ended | taken | ⟨quote, text⟩
    · exact .inl ended
    · right
      have := List.length_pos_iff.2 taken
      simp only [weight]
      split <;> split <;> omega
    · right
      simp only [weight, quote, token, Option.map_some, text]
      simp
      omega
  · simp at h

end Lexer

inductive Stream
  | ended (place : Location)
  | malformed (place : Location)
  | cons (token : Token) (rest : Stream)

namespace Stream

def ofLexer (l : Lexer) : Stream :=
  match _ : l.next with
  | (.ok t, l') => if _ : t.kind = .endOfInput then .ended t.location else .cons t (ofLexer l')
  | (.error e, _) => .malformed e.location
termination_by l.weight
decreasing_by
  next h not_ended => exact (Lexer.next_lighter h).resolve_left not_ended

def ofText (s : Text) : Stream := ofLexer (.start s)

def length : Stream → Nat
  | .cons _ rest => rest.length + 1
  | _ => 0

/-- The first token and what follows it.  The end of the input is a token that never goes away. -/
def next : Stream → Except Error (Token × Stream)
  | .ended place => .ok (⟨.endOfInput, [], place⟩, .ended place)
  | .malformed place => .error ⟨.malformedIndent, place⟩
  | .cons t rest => .ok (t, rest)

def tokens : Stream → Except Error (List Token)
  | .ended place => .ok [⟨.endOfInput, [], place⟩]
  | .malformed place => .error ⟨.malformedIndent, place⟩
  | .cons t rest => (t :: ·) <$> rest.tokens

theorem next_length {s r : Stream} {t : Token} (h : s.next = .ok (t, r)) :
    r.length ≤ s.length := by
  cases s with
  | ended => cases h; exact Nat.le_refl _
  | malformed => simp [next] at h
  | cons => cases h; exact Nat.le_succ _

end Stream

def tokenize (s : Text) : Except Error (List Token) := (Stream.ofText s).tokens

end Inlay.Markup
