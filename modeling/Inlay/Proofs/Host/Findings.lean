import Inlay.Proofs.Host.HeadingIds
import Inlay.Proofs.Markup.Weight

namespace Inlay.Host

open Inlay.Markdown (Node Place)
open Inlay.Text (weight)

def Calm (s : Text) : Prop := ∀ c ∈ s, c ∉ ['#', '\x60', '~', '\n', '\r']

instance (s : Text) : Decidable (Calm s) := List.decidableBAll _ s

/-- What is assumed of a reader. -/
structure Trusted (reader : Markdown.Reader) : Prop where
  /-- Code with a language has fences around it. -/
  lighter : ∀ o source root, reader o source = .ok root → ∀ n ∈ preorder root, ∀ c,
    code? n = some c → c.lang ≠ none → weight c.value < weight source
  /-- Where nothing can be a fence or a heading, there is none. -/
  bare : ∀ o source root, reader o source = .ok root → Calm source → ∀ n ∈ preorder root,
    (∀ c, code? n = some c → c.lang = none) ∧ heading? n = none

theorem toNat_ofNat (n : Nat) : (Char.ofNat n).toNat = n ∨ (Char.ofNat n).toNat = 0 := by
  by_cases valid : n.isValidChar
  · rw [Char.ofNat, dif_pos valid]
    exact .inl UInt32.toNat_ofNatLT
  · rw [Char.ofNat, dif_neg valid]
    exact .inr rfl

theorem calm_of_toNat {s : Text} (each : ∀ c ∈ s, c.toNat ∉ [35, 96, 126, 10, 13]) : Calm s := by
  intro c member mark
  refine each c member ?_
  simp only [List.mem_cons, List.not_mem_nil, or_false] at mark
  rcases mark with rfl | rfl | rfl | rfl | rfl <;> decide

theorem shifted_capitals : ∀ row ∈ Text.capitals, row.last < 128 ∨
    127 ≤ row.first + row.shift ∨ 97 ≤ row.first + row.shift ∧ row.last + row.shift ≤ 122 := by
  decide +kernel

theorem calm_lowerAscii {c : Char} (calm : Calm [c]) : Calm [Text.lowerAscii c] := by
  unfold Text.lowerAscii
  split
  · next letter =>
    have least : 65 ≤ c.toNat := Char.le_def.1 letter.1
    have most : c.toNat ≤ 90 := Char.le_def.1 letter.2
    refine calm_of_toNat fun d single => ?_
    rw [List.mem_singleton.1 single]
    simp only [List.mem_cons, List.not_mem_nil, or_false]
    rcases toNat_ofNat (c.toNat + 32) with same | same <;> omega
  · exact calm

theorem calm_lowerChar {c : Char} (calm : Calm [c]) : Calm (Text.lowerChar c) := by
  unfold Text.lowerChar
  split
  · exact calm_lowerAscii calm
  · next large =>
    split
    · decide
    · split
      · next row found =>
        have shifted := shifted_capitals row (List.mem_of_find?_eq_some found)
        have has := List.find?_some found
        simp only [Text.Capitals.has, Bool.and_eq_true, decide_eq_true_eq] at has
        refine calm_of_toNat fun d single => ?_
        rw [List.mem_singleton.1 single]
        simp only [List.mem_cons, List.not_mem_nil, or_false]
        rcases toNat_ofNat (c.toNat + row.shift).toNat with same | same <;> omega
      · exact calm

theorem slugChar_mark : ∀ c ∈ ['#', '\x60', '~', '\n', '\r'], slugChar c = [] := by
  simp only [List.forall_mem_cons, List.not_mem_nil, false_imp_iff, implies_true, and_true]
  decide +kernel

theorem calm_slugChar (c : Char) : Calm (slugChar c) := by
  by_cases mark : c ∈ ['#', '\x60', '~', '\n', '\r']
  · rw [slugChar_mark c mark]
    exact List.forall_mem_nil _
  · unfold slugChar
    split
    · exact calm_lowerChar (List.forall_mem_singleton.2 mark)
    · split
      · decide
      · decide

theorem calm_slugify (s : Text) : Calm (slugify s) := by
  unfold slugify
  split
  · decide
  · intro c member
    obtain ⟨d, -, inside⟩ := List.mem_flatMap.1 member
    exact calm_slugChar d c inside

theorem calm_toDigits (n : Nat) : Calm (Nat.toDigits 10 n) := by
  intro c member mark
  have others : ∀ d ∈ ['#', '\x60', '~', '\n', '\r'], ¬d.isDigit := by
    simp only [List.forall_mem_cons, List.not_mem_nil, false_imp_iff, implies_true, and_true]
    decide
  exact others c mark (Nat.isDigit_of_mem_toDigits (by decide) (by decide) member)

theorem calm_next (g : Slugger) (heading : Text) : Calm (g.next heading).1 := by
  rw [Slugger.next_eq]
  unfold numbered
  split
  · exact calm_slugify _
  · refine List.forall_mem_append.2 ⟨calm_slugify _, ?_⟩
    exact List.forall_mem_cons.2 ⟨by decide, calm_toDigits _⟩
structure Found.From (trigger : Text) (ns : List Node) (f : Found) : Prop where
  blocks : ∀ key d, (key, d) ∈ f.blocks → ∃ n ∈ ns, ∃ c, code? n = some c ∧
    c.lang = some trigger ∧ Markup.parse c.value = .ok d
  headings : ∀ key id, (key, id) ∈ f.headings → Calm id ∧ ∃ n ∈ ns, heading? n ≠ none

theorem mem_put {key : Nat} {a : α} {pairs : List (Nat × α)} {pair : Nat × α}
    (member : pair ∈ put key a pairs) : pair = (key, a) ∨ pair ∈ pairs :=
  (List.mem_cons.1 member).imp id fun later => (List.mem_filter.1 later).1

section

variable {trigger : Text} {ns : List Node} {f f' : Found} {n : Node}

theorem Found.From.visit (found : f.From trigger ns) (member : n ∈ ns)
    (visited : f.visit trigger n = .ok f') : f'.From trigger ns := by
  unfold Found.visit at visited
  split at visited
  · next lang value place =>
    split at visited
    · cases visited
      exact found
    · next marked =>
      split at visited
      · cases visited
        exact found
      · split at visited
        · next d parsed =>
          cases visited
          refine ⟨fun key d' inside => ?_, found.headings⟩
          rcases mem_put inside with new | old
          · cases new
            exact ⟨_, member, _, rfl, Decidable.not_not.1 marked, parsed⟩
          · exact found.blocks key d' old
        · cases visited
  · cases visited
    refine ⟨found.blocks, fun key id inside => ?_⟩
    rcases mem_put inside with new | old
    · cases new
      exact ⟨calm_next _ _, _, member, fun none => nomatch none⟩
    · exact found.headings key id old
  · cases visited
    exact found

theorem Found.From.visits {ms : List Node} (found : f.From trigger ns) (members : ms ⊆ ns)
    (visited : ms.foldlM (Found.visit trigger) f = .ok f') : f'.From trigger ns := by
  induction ms generalizing f with
  | nil => cases visited; exact found
  | cons m ms ih =>
    rw [List.foldlM_cons] at visited
    obtain ⟨next, first, later⟩ := Attempt.bind_eq_ok.1 visited
    obtain ⟨here, rest⟩ := List.cons_subset.1 members
    exact ih (found.visit here first) rest later

end

theorem mem_of_lookup {key : Nat} {a : α} {pairs : List (Nat × α)}
    (found : pairs.lookup key = some a) : (key, a) ∈ pairs := by
  induction pairs with
  | nil => cases found
  | cons pair rest ih =>
    obtain ⟨k, b⟩ := pair
    rw [List.lookup_cons] at found
    split at found
    · next same =>
      cases found
      rw [eq_of_beq same]
      exact List.mem_cons_self
    · exact List.mem_cons_of_mem _ (ih found)

namespace Document

variable {reader : Markdown.Reader} {o : Markdown.Options} {trigger source : Text} {d : Document}

theorem parse_cases (parsed : parse reader o trigger source = .ok d) :
    reader o source = .ok d.root ∧ d.trigger = trigger ∧
      d.found.From trigger (preorder d.root) := by
  unfold parse at parsed
  cases read : reader o source with
  | error message => rw [read] at parsed; cases parsed
  | ok root =>
    rw [read] at parsed
    dsimp only at parsed
    unfold ofTree at parsed
    cases collected : Found.empty.collect trigger [root] with
    | error e => rw [collected] at parsed; cases parsed
    | ok f =>
      rw [collected] at parsed
      cases parsed
      rw [Found.collect_eq] at collected
      have nothing : Found.empty.From trigger (preorder root) :=
        ⟨fun _ _ member => (nomatch member), fun _ _ member => (nomatch member)⟩
      refine ⟨rfl, rfl, nothing.visits ?_ collected⟩
      rw [preorders, preorders, List.append_nil]
      exact List.Subset.refl _

section

variable (trusted : Trusted reader) (parsed : parse reader o trigger source = .ok d)
include trusted parsed

theorem weigh_markup_lt {n : Node} {nodes : List Markup.Node} (member : n ∈ preorder d.root)
    (markup : d.markup? n = some nodes) :
    Markup.weigh (Markup.nodesParts nodes) < weight source ∧ ¬Calm source := by
  obtain ⟨read, trigger_eq, found⟩ := parse_cases parsed
  have lighter (m : Node) (there : m ∈ preorder d.root) (c : Code) (code : code? m = some c)
      (named : c.lang = some trigger) : weight c.value < weight source :=
    trusted.lighter o source d.root read m there c code (by rw [named]; exact Option.some_ne_none _)
  unfold markup? at markup
  split at markup
  · next lang value place =>
    split at markup
    · next marked =>
      have language : lang = some trigger := by rw [← trigger_eq]; exact eq_of_beq marked
      refine ⟨?_, fun calm => ?_⟩
      · cases markup
        cases held : d.block? lang place with
        | none => exact Nat.zero_lt_of_lt (lighter _ member _ rfl language)
        | some inner =>
          rw [block?, if_pos marked] at held
          obtain ⟨key, -, looked⟩ := Option.bind_eq_some_iff.1 held
          obtain ⟨m, there, c, code, fenced, made⟩ := found.blocks _ _ (mem_of_lookup looked)
          exact Nat.lt_of_le_of_lt (Markup.weigh_parse made) (lighter m there c code fenced)
      · have bare := (trusted.bare o source d.root read calm _ member).1 _ rfl
        rw [language] at bare
        cases bare
    · cases markup
  · cases markup

theorem calm_headingId {place : Place} {id : Text} (given : d.headingId? place = some id) :
    Calm id ∧ ¬Calm source := by
  obtain ⟨read, -, found⟩ := parse_cases parsed
  obtain ⟨key, -, looked⟩ := Option.bind_eq_some_iff.1 given
  obtain ⟨calm, m, there, heading⟩ := found.headings _ _ (mem_of_lookup looked)
  exact ⟨calm, fun quiet => heading (trusted.bare o source d.root read quiet m there).2⟩

end

end Document
end Inlay.Host
