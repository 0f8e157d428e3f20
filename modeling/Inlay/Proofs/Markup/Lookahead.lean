import Inlay.Proofs.Markup.Lexical
import Inlay.Proofs.Markup.Reading

namespace Inlay

theorem Text.split_append_of_stop {p : Char → Bool} {s t : Text}
    (stops : (∃ c ∈ s, ¬p c) ∨ ∀ c ∈ t.head?, ¬p c) :
    split p (s ++ t) = ((split p s).1, (split p s).2 ++ t) := by
  induction s with
  | nil =>
    rcases stops with ⟨c, member, -⟩ | stops
    · cases member
    · cases t with
      | nil => rfl
      | cons c t => exact split_of_stop (s := []) (List.forall_mem_nil _) (stops c rfl)
  | cons d s ih =>
    by_cases passes : p d
    · have later : (∃ c ∈ s, ¬p c) ∨ ∀ c ∈ t.head?, ¬p c := by
        refine stops.imp_left fun ⟨c, member, stop⟩ => ?_
        rcases List.mem_cons.1 member with rfl | later
        · exact absurd passes stop
        · exact ⟨c, later, stop⟩
      obtain ⟨taken, left⟩ := Prod.mk.inj (ih later)
      simp only [split, List.cons_append, List.takeWhile_cons_of_pos passes,
        List.dropWhile_cons_of_pos passes, taken, left]
    · simp only [split, List.cons_append, List.takeWhile_cons_of_neg passes,
        List.dropWhile_cons_of_neg passes]

namespace Markup

def IsReturn (cr : Text) : Prop := cr = [] ∨ cr = ['\r']

theorem IsReturn.no_break {cr : Text} (ret : IsReturn cr) : '\n' ∉ cr := by
  rcases ret with rfl | rfl
  · exact List.not_mem_nil
  · decide

namespace Lexeme

def extend (t : Text) (x : Lexeme) : Lexeme := { x with rest := x.rest ++ t }

theorem skipBlanks_cons {c : Char} {s : Text} (other : c = '\r' → s.head? ≠ some '\n') :
    skipBlanks (c :: s) =
      if isSpace c then (c :: (skipBlanks s).1, (skipBlanks s).2) else ([], c :: s) := by
  rw [skipBlanks.eq_def (c :: s)]
  split
  · next same => cases same; exact absurd rfl (other rfl)
  · next same => cases same; rfl
  · next same => cases same

theorem ends_tail {c : Char} {s : Text} (ends : '\n' ∈ c :: s) (no_break : c ≠ '\n') : '\n' ∈ s :=
  (List.mem_cons.1 ends).resolve_left (Ne.symm no_break)

theorem head?_append_of_ends {s : Text} (ends : '\n' ∈ s) (t : Text) :
    (s ++ t).head? = s.head? := by
  cases s with
  | nil => cases ends
  | cons c s => rfl

theorem next_append {c mark next : Char} {s : Text} (ends : '\n' ∈ c :: s) (marks : mark ≠ '\n')
    (other : c = mark → s.head? ≠ some next) (t : Text) :
    c = mark → (s ++ t).head? ≠ some next := by
  rintro rfl
  rw [head?_append_of_ends (ends_tail ends marks)]
  exact other rfl

inductive Cut (s : Text) : Text → Prop
  | behind (t : Text) : '\n' ∈ s → Cut s t
  | before {cr : Text} (r : Text) : IsReturn cr → Cut s (cr ++ '\n' :: r)

namespace Cut

variable {s t : Text}

theorem tail {c : Char} (cut : Cut (c :: s) t) (no_break : c ≠ '\n') : Cut s t := by
  cases cut with
  | behind t ends => exact .behind t (ends_tail ends no_break)
  | before r ret => exact .before r ret

theorem nil (cut : Cut [] t) : ∃ r, t = '\n' :: r ∨ t = '\r' :: '\n' :: r := by
  cases cut with
  | behind t ends => cases ends
  | before r ret =>
    rcases ret with rfl | rfl
    · exact ⟨r, .inl rfl⟩
    · exact ⟨r, .inr rfl⟩

section

variable (cut : Cut s t) {p : Char → Bool} (no_return : p '\r' = false) (no_break : p '\n' = false)
include cut no_return no_break

theorem any_head? : (s ++ t).head?.any p = s.head?.any p := by
  cases s with
  | nil =>
    obtain ⟨r, rfl | rfl⟩ := cut.nil
    · exact no_break
    · exact no_return
  | cons c s => rfl

theorem split_append :
    Text.split p (s ++ t) = ((Text.split p s).1, (Text.split p s).2 ++ t) := by
  refine Text.split_append_of_stop ?_
  cases cut with
  | behind t ends => exact .inl ⟨'\n', ends, by simp [no_break]⟩
  | before r ret => rcases ret with rfl | rfl <;> exact .inr (by simp [no_return, no_break])

omit no_return in
theorem split : Cut (Text.split p s).2 t := by
  cases cut with
  | behind t ends =>
    rw [← Text.split_append p s] at ends
    refine .behind t ((List.mem_append.1 ends).resolve_left fun taken => ?_)
    have passes : p '\n' = true := List.mem_takeWhile_imp taken
    rw [no_break] at passes
    cases passes
  | before r ret => exact .before r ret

end

theorem closed?_append (cut : Cut s t) :
    closed? (s ++ t) = (closed? s).map fun (inside, rest) => (inside, rest ++ t) := by
  fun_induction closed? s with
  | case1 =>
    obtain ⟨r, rfl | rfl⟩ := cut.nil
    · simp [closed?]
    · show closed? ('\r' :: '\n' :: r) = none
      rw [closed?_cons (by decide) (by decide) (absurd · (by decide))]
      simp [closed?]
  | case2 s ih =>
    rw [List.cons_append, List.cons_append, closed?,
      ih ((cut.tail (by decide)).tail (by decide))]
    cases closed? s <;> rfl
  | case3 => rfl
  | case4 => rfl
  | case5 c s other no_break no_quote ih =>
    have later := cut.tail no_break
    have escapes : c = '\\' → (s ++ t).head? ≠ some '"' := by
      rintro rfl head
      cases s with
      | nil => obtain ⟨r, rfl | rfl⟩ := later.nil <;> cases head
      | cons d s => cases head; exact other s rfl rfl
    rw [List.cons_append, closed?_cons no_break no_quote escapes, ih later]
    cases closed? s <;> rfl

theorem property?_append (cut : Cut s t) :
    property? (s ++ t) = (property? s).map fun (name, rest) => (name, rest ++ t) := by
  have behind := cut.split (p := isNameChar) (by decide)
  rw [property?, property?, cut.split_append (by decide) (by decide)]
  generalize Text.split isNameChar s = parts at behind
  obtain ⟨name, rest⟩ := parts
  cases rest with
  | nil => obtain ⟨r, rfl | rfl⟩ := behind.nil <;> rfl
  | cons c rest =>
    dsimp only [List.cons_append]
    split
    · next same =>
      cases same
      rfl
    · next other =>
      split
      · next same =>
        cases same
        exact absurd rfl (other _ _)
      · rfl

theorem marked_append (cut : Cut s t) (lead : Text) (kind : Token.Kind) (mark : Char) :
    marked lead kind mark (s ++ t) = (marked lead kind mark s).extend t := by
  rw [marked, marked, cut.split_append (by decide) (by decide)]
  rfl

end Cut

section

variable {s : Text}

theorem skipBlanks_append_of_ends (ends : '\n' ∈ s) (t : Text) :
    skipBlanks (s ++ t) = ((skipBlanks s).1, (skipBlanks s).2 ++ t) ∧ '\n' ∈ (skipBlanks s).2 := by
  induction s with
  | nil => cases ends
  | cons c s ih =>
    by_cases crlf : c = '\r' ∧ s.head? = some '\n'
    · obtain ⟨rfl, next⟩ := crlf
      cases s with
      | nil => cases next
      | cons d s => cases next; exact ⟨rfl, List.mem_cons_self⟩
    · have other : c = '\r' → s.head? ≠ some '\n' := fun same next => crlf ⟨same, next⟩
      have other' := next_append ends (by decide) other t
      rw [List.cons_append, skipBlanks_cons other, skipBlanks_cons other']
      split
      · next space =>
        have no_break : c ≠ '\n' := by
          rintro rfl
          cases space
        obtain ⟨later, inside⟩ := ih (ends_tail ends no_break)
        rw [later]
        exact ⟨rfl, inside⟩
      · exact ⟨rfl, ends⟩

theorem number?_append_of_ends (ends : '\n' ∈ s) (t : Text) :
    number? (s ++ t) = (number? s).map fun (literal, rest) => (literal, rest ++ t) := by
  have line := (Prod.mk.inj (Text.split_append_of_stop (p := (· != '\n')) (t := t)
    (.inl ⟨_, ends, by decide⟩))).1
  have short := (Text.dropEnd_initial (fun c => isSpace c || c == '\r')
    (s.takeWhile (· != '\n'))).length_le.trans (List.takeWhile_prefix _).length_le
  simp only [Text.split] at line
  simp only [number?, line]
  split
  · rw [List.drop_append_of_le_length short]
    rfl
  · rfl

theorem line_append_of_ends (ends : '\n' ∈ s) (lead t : Text) :
    line lead (s ++ t) = (line lead s).extend t := by
  rw [line, line, Text.split_append_of_stop (.inl ⟨_, ends, by decide⟩)]
  rfl

theorem word_append_of_ends (ends : '\n' ∈ s) (previous : Option Token.Kind) (lead t : Text) :
    word previous lead (s ++ t) = (word previous lead s).extend t := by
  have number : (if previous = some .colon then number? (s ++ t) else none) =
      (if previous = some .colon then number? s else none).map
        fun (literal, rest) => (literal, rest ++ t) := by
    split
    · exact number?_append_of_ends ends t
    · rfl
  rw [word, word, number, (Cut.behind t ends).property?_append, line_append_of_ends ends]
  cases (if previous = some .colon then number? s else none) with
  | some found => rfl
  | none =>
    cases property? s with
    | some found => rfl
    | none => rfl

theorem plain_append_of_ends (ends : '\n' ∈ s) (previous : Option Token.Kind) (lead t : Text) :
    plain previous lead (s ++ t) = (plain previous lead s).extend t := by
  cases s with
  | nil => cases ends
  | cons c r =>
    by_cases quote : c = '"'
    · rw [quote]; rfl
    by_cases colon : c = ':'
    · rw [colon]; rfl
    by_cases line_end : c = '\n'
    · rw [line_end]; rfl
    have later := ends_tail ends line_end
    rw [List.cons_append, plain_of_letter quote colon line_end,
      plain_of_letter quote colon line_end, head?_append_of_ends later,
      (Cut.behind t later).marked_append]
    have line := line_append_of_ends ends lead t
    have word := word_append_of_ends ends previous lead t
    rw [List.cons_append] at line word
    rw [line, word]
    split
    · split <;> rfl
    · rfl

end

structure NoUnit (s : Text) : Prop where
  no_tab : ∀ r, s ≠ '\t' :: r
  no_spaces : ∀ r, s ≠ ' ' :: ' ' :: ' ' :: ' ' :: r

theorem indent_of_noUnit {s : Text} (none : NoUnit s) :
    indent s = .error (s.takeWhile (· == ' ')) := by
  unfold indent
  split
  · next r => exact absurd rfl (none.no_tab r)
  · next r => exact absurd rfl (none.no_spaces r)
  · rfl

theorem NoUnit.append_break {s : Text} (none : NoUnit s) (t : Text) : NoUnit (s ++ '\n' :: t) where
  no_tab r same := by
    cases s with
    | nil => cases same
    | cons c s => cases same; exact none.no_tab s rfl
  no_spaces r same := by
    have four : ' ' :: ' ' :: ' ' :: ' ' :: r = [' ', ' ', ' ', ' '] ++ r := rfl
    rw [four] at same
    rcases List.append_eq_append_iff.1 same with ⟨u, inside, behind⟩ | ⟨u, longer, -⟩
    · cases u with
      | nil =>
        rw [List.append_nil] at inside
        exact none.no_spaces [] inside.symm
      | cons c u =>
        obtain rfl : '\n' = c := (List.cons.inj behind).1
        have short : '\n' ∈ [' ', ' ', ' ', ' '] :=
          inside ▸ List.mem_append_right s List.mem_cons_self
        exact absurd short (by decide)
    · exact none.no_spaces u longer

theorem NoUnit.append {s : Text} (none : NoUnit s) (ends : '\n' ∈ s) (t : Text) :
    NoUnit (s ++ t) := by
  obtain ⟨line, later, rfl⟩ := List.append_of_mem ends
  have first : NoUnit line :=
    ⟨fun r same => none.no_tab (r ++ '\n' :: later) (by rw [same]; rfl),
      fun r same => none.no_spaces (r ++ '\n' :: later) (by rw [same]; rfl)⟩
  rw [List.append_assoc]
  exact first.append_break (later ++ t)

theorem indent_append {s : Text} (ends : '\n' ∈ s) (t : Text) :
    indent (s ++ t) = (indent s).map (extend t) := by
  by_cases tab : ∃ r, s = '\t' :: r
  · obtain ⟨r, rfl⟩ := tab
    rfl
  by_cases spaces : ∃ r, s = ' ' :: ' ' :: ' ' :: ' ' :: r
  · obtain ⟨r, rfl⟩ := spaces
    rfl
  have none : NoUnit s := ⟨fun r same => tab ⟨r, same⟩, fun r same => spaces ⟨r, same⟩⟩
  have lead := (Prod.mk.inj ((Cut.behind t ends).split_append (p := (· == ' '))
    (by decide) (by decide))).1
  simp only [Text.split] at lead
  rw [indent_of_noUnit (none.append ends t), indent_of_noUnit none, lead]
  rfl

theorem read_append {s : Text} (ends : '\n' ∈ s) (previous : Option Token.Kind) (t : Text) :
    read previous (s ++ t) = (read previous s).map (extend t) := by
  have closed : (if previous = some .quote then closed? (s ++ t) else none) =
      (if previous = some .quote then closed? s else none).map
        fun (inside, rest) => (inside, rest ++ t) := by
    split
    · exact (Cut.behind t ends).closed?_append
    · rfl
  obtain ⟨blanks, behind⟩ := skipBlanks_append_of_ends ends t
  have spaced : spaced previous (s ++ t) = (spaced previous s).extend t := by
    rw [Lexeme.spaced, blanks]
    exact plain_append_of_ends behind previous _ t
  rw [read, read, head?_append_of_ends ends, closed, spaced, indent_append ends]
  split
  · rfl
  · cases (if previous = some .quote then closed? s else none) with
    | some found => rfl
    | none => rfl

structure Within (x : Lexeme) : Prop where
  lead : '\n' ∉ x.lead
  line_break : x.kind = .lineBreak → x.source = ['\n']
  source : x.kind ≠ .lineBreak → '\n' ∉ x.source

theorem skipBlanks_within (s : Text) : '\n' ∉ (skipBlanks s).1 := by
  fun_induction skipBlanks s with
  | case1 => exact (by decide : '\n' ∉ ['\r'])
  | case2 c r _ space lead rest same ih =>
    rw [same] at ih
    intro member
    rcases List.mem_cons.1 member with rfl | later
    · cases space
    · exact ih later
  | case3 => exact List.not_mem_nil
  | case4 => exact List.not_mem_nil

section

variable {lead : Text} (no_break : '\n' ∉ lead)
include no_break

theorem line_within (s : Text) : (line lead s).Within where
  lead := no_break
  line_break := nofun
  source _ member := by
    have inside := List.mem_takeWhile_imp member
    simp at inside

theorem marked_within {kind : Token.Kind} {mark : Char} (other : kind ≠ .lineBreak)
    (marks : mark ≠ '\n') (s : Text) : (marked lead kind mark s).Within where
  lead := no_break
  line_break same := absurd same other
  source _ member := by
    rcases List.mem_cons.1 member with same | inside
    · exact marks same.symm
    · cases List.mem_takeWhile_imp inside

theorem word_within (previous : Option Token.Kind) (s : Text) :
    (word previous lead s).Within := by
  unfold word
  split
  · next found =>
    split at found
    · exact ⟨no_break, nofun, fun _ => number?_one_line found⟩
    · cases found
  · split
    · next name rest found =>
      refine ⟨no_break, nofun, fun _ member => ?_⟩
      cases (property?_named found).1 _ member
    · exact line_within no_break s

theorem plain_within (previous : Option Token.Kind) (s : Text) :
    (plain previous lead s).Within := by
  unfold plain
  split
  · exact ⟨no_break, nofun, fun _ => List.not_mem_nil⟩
  · exact ⟨no_break, nofun, fun _ => (by decide : '\n' ∉ ['"'])⟩
  · exact ⟨no_break, nofun, fun _ => (by decide : '\n' ∉ [':'])⟩
  · exact ⟨no_break, fun _ => rfl, fun other => absurd rfl other⟩
  · next c r _ _ line_end =>
    split
    · split
      · refine marked_within no_break ?_ line_end r
        split <;> decide
      · exact line_within no_break _
    · exact word_within no_break previous _

end

theorem read_within {previous : Option Token.Kind} {s : Text} {x : Lexeme}
    (found : read previous s = .ok x) : x.Within := by
  unfold read at found
  split at found
  · unfold indent at found
    split at found
    · cases found
      exact ⟨List.not_mem_nil, nofun, fun _ => (by decide : '\n' ∉ ['\t'])⟩
    · cases found
      exact ⟨List.not_mem_nil, nofun, fun _ => (by decide : '\n' ∉ [' ', ' ', ' ', ' '])⟩
    · cases found
  · split at found
    · next closed =>
      cases found
      split at closed
      · exact ⟨List.not_mem_nil, nofun, fun _ => (closed?_means closed).1⟩
      · cases closed
    · cases found
      exact plain_within (skipBlanks_within s) previous _

theorem read_eq_spaced {previous : Option Token.Kind} {s : Text} {x : Lexeme}
    (no_quote : previous ≠ some .quote) (none : previous.any Token.Kind.opensLine → NoUnit s)
    (found : read previous s = .ok x) : x = spaced previous s := by
  rw [read, if_neg no_quote] at found
  split at found
  · next opens =>
    rw [indent_of_noUnit (none (Bool.and_eq_true_iff.1 opens).1)] at found
    cases found
  · exact (Except.ok.inj found).symm

theorem plain_ne_indent (previous : Option Token.Kind) (lead s : Text) :
    (plain previous lead s).kind ≠ .indent := by
  unfold plain word
  split
  · exact nofun
  · exact nofun
  · exact nofun
  · exact nofun
  · split
    · split
      · dsimp only [marked]
        split
        · exact nofun
        · exact nofun
      · exact nofun
    · split
      · exact nofun
      · split
        · exact nofun
        · exact nofun

theorem read_ne_indent {previous : Option Token.Kind} {s : Text} {x : Lexeme}
    (none : previous.any Token.Kind.opensLine → NoUnit s) (found : read previous s = .ok x) :
    x.kind ≠ .indent := by
  unfold read at found
  split at found
  · next opens =>
    rw [indent_of_noUnit (none (Bool.and_eq_true_iff.1 opens).1)] at found
    cases found
  · split at found
    · cases found
      exact nofun
    · cases found
      exact plain_ne_indent previous _ _

end Lexeme
end Markup
end Inlay
