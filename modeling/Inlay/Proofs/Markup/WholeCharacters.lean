import Inlay.Proofs.Markup.ByteRules

namespace Inlay.Markup
open Text

namespace ByteLexer

/-- Whether a lexer over bytes is where a lexer over the characters of a text is. -/
structure Tracks (s : Text) (l : Lexer) (b : ByteLexer) : Prop where
  stands : ∃ before, before ++ l.rest = s ∧
    b = between before l.rest l.location (l.previous.map Token.encoded)
  begun : l.rest = s → ¬(l.previous.map (·.kind)).any Token.Kind.opensLine

section Tracks

variable {s : Text} {l : Lexer} {b : ByteLexer} (tracks : Tracks s l b)
include tracks

theorem Tracks.input : b.input = utf8 s := by
  obtain ⟨before, rfl, rfl⟩ := tracks.stands
  rfl

theorem Tracks.previous : b.previous = l.previous.map Token.encoded := by
  obtain ⟨before, -, rfl⟩ := tracks.stands
  rfl

theorem Tracks.lex :
    ∃ b', b.lex = some (l.lex.1.map Token.encoded, b') ∧ Tracks s l.lex.2 b' := by
  obtain ⟨before, whole, rfl⟩ := tracks.stands
  have kinds : (l.previous.map Token.encoded).map (·.kind) = l.previous.map (·.kind) :=
    Option.map_map ..
  have begun : before = [] →
      ¬((l.previous.map Token.encoded).map (·.kind)).any Token.Kind.opensLine := by
    rintro rfl
    rw [kinds]
    exact tracks.begun whole
  have stays {left : Text} (part : left <:+ l.rest) (all : left = s) :
      ¬(l.previous.map (·.kind)).any Token.Kind.opensLine := by
    refine tracks.begun (List.IsSuffix.eq_of_length_le ⟨before, whole⟩ ?_)
    rw [← all]
    exact part.length_le
  have answer := @lex_between before l.rest l.location _ begun
  rw [kinds, ← Lexer.lexeme] at answer
  rw [Lexer.lex]
  cases found : l.lexeme with
  | ok x =>
    have tiles : x.lead ++ x.source ++ x.rest = l.rest := Lexeme.read_tiles found
    rw [found] at answer
    refine ⟨_, answer, ⟨before ++ x.lead ++ x.source, ?_, rfl⟩, stays ⟨_, tiles⟩⟩
    rw [← whole, ← tiles]
    simp only [List.append_assoc]
  | error spaces =>
    have taken : spaces <+: l.rest := by
      rw [← Lexeme.spaces_of_read found]
      exact List.takeWhile_prefix _
    rw [found] at answer
    refine ⟨_, answer, ⟨before ++ spaces, ?_, rfl⟩, stays (List.drop_suffix ..)⟩
    rw [← whole, List.append_assoc, List.prefix_iff_eq_append.1 taken]

theorem Tracks.call (c : Call) :
    ∃ b', b.call c = some ((l.call c).1.map Token.encoded, b') ∧ Tracks s (l.call c).2 b' := by
  obtain ⟨moved, answer, later⟩ := tracks.lex
  cases c with
  | next =>
    rw [ByteLexer.call, answer, Lexer.call]
    cases read : l.lex with
    | mk result l' =>
      rw [read] at later
      cases result with
      | ok t =>
        obtain ⟨before, whole, rfl⟩ := later.stands
        refine ⟨_, rfl, ⟨before, whole, rfl⟩, fun all opens => ?_⟩
        -- a token that opens a line is behind a character, so not all is left
        obtain ⟨front, whole, -⟩ := tracks.stands
        have shorter := Lexer.lex_shorter read opens
        have length := congrArg List.length whole
        rw [← all, List.length_append] at length
        dsimp only at length
        omega
      | error e => exact ⟨_, rfl, later⟩
  | peek =>
    have back : { moved with position := b.position, location := b.location } = b := by
      have previous := later.previous
      rw [Lexer.lex_previous, ← tracks.previous] at previous
      rw [later.input.trans tracks.input.symm, previous]
    refine ⟨b, ?_, ?_⟩
    · rw [ByteLexer.call, answer]
      exact congrArg (fun b => some (l.lex.1.map Token.encoded, b)) back
    · rw [Lexer.call_peek]
      exact tracks

theorem Tracks.session (calls : List Call) :
    ∃ b', b.session calls = some ((l.session calls).1.map (·.map Token.encoded), b') ∧
      Tracks s (l.session calls).2 b' := by
  induction calls generalizing l b with
  | nil => exact ⟨b, rfl, tracks⟩
  | cons c calls ih =>
    obtain ⟨moved, answer, tracks⟩ := tracks.call c
    obtain ⟨last, answers, tracks⟩ := ih tracks
    refine ⟨last, ?_, tracks⟩
    simp only [ByteLexer.session, answer, answers, Option.bind_eq_bind, Option.bind_some]
    rfl

end Tracks

theorem tracks_start (s : Text) : Tracks s (.start s) (.start (utf8 s)) where
  stands := ⟨[], rfl, rfl⟩
  begun _ := Bool.false_ne_true

/-- What can be relied on in the answers to calls on a lexer over the bytes of a text, and where it
is left. -/
structure Whole (s : Text) (calls : List Call) (answers : List (Except Error ByteToken))
    (l : ByteLexer) : Prop where
  position : isBoundary (utf8 s) l.position
  inside : l.position ≤ (utf8 s).length
  values (t : ByteToken) : .ok t ∈ answers → ∃ v, t.value = utf8 v
  answers : answers = ((Lexer.start s).session calls).1.map (·.map Token.encoded)

/-- Whatever is called, the lexer answers: each piece that it cuts out of the bytes of a text is cut
between characters. -/
theorem session_whole (s : Text) (calls : List Call) :
    ∃ answers l, (ByteLexer.start (utf8 s)).session calls = some (answers, l) ∧
      Whole s calls answers l := by
  obtain ⟨l, answered, tracks⟩ := (tracks_start s).session calls
  obtain ⟨before, whole, rfl⟩ := tracks.stands
  have boundary := isBoundary_append before ((Lexer.start s).session calls).2.rest
  rw [whole] at boundary
  refine ⟨_, _, answered, boundary, le_length_of_isBoundary boundary, fun t member => ?_, rfl⟩
  obtain ⟨answer, -, same⟩ := List.mem_map.1 member
  cases answer with
  | ok token =>
    obtain rfl : token.encoded = t := Except.ok.inj same
    exact ⟨token.value, rfl⟩
  | error e => cases same

end ByteLexer
end Inlay.Markup
