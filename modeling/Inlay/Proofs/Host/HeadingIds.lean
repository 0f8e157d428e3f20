import Inlay.Proofs.Host.Extraction
import Mathlib.Data.List.Nodup

namespace Inlay.Host
open Inlay.Markdown (Node Place)

def numbered (slug : Text) : Nat → Text
  | 0 => slug
  | n + 1 => slug ++ '-' :: Nat.toDigits 10 (n + 1)

/-- Whether one of the slugs is what another becomes with a number that a heading gets. -/
def Clash (slugs : List Text) : Prop :=
  ∃ slug n, 0 < n ∧ n < slugs.count slug ∧ numbered slug n ∈ slugs

theorem hyphen_not_mem_toDigits (n : Nat) : '-' ∉ Nat.toDigits 10 n := by
  intro member
  have digit := Nat.isDigit_of_mem_toDigits (by decide) (by decide) member
  exact absurd digit (by decide)

theorem toDigits_injective {m n : Nat} (same : Nat.toDigits 10 m = Nat.toDigits 10 n) : m = n := by
  have read := congrArg (Nat.ofDigitChars 10 · 0) same
  simpa using read

theorem append_mark_inj {mark : Char} {s t u v : Text} (absent : mark ∉ u) (absent' : mark ∉ v)
    (same : s ++ mark :: u = t ++ mark :: v) : s = t ∧ u = v := by
  rcases List.append_eq_append_iff.1 same with ⟨w, longer, rest⟩ | ⟨w, longer, rest⟩ <;>
    cases w with
    | nil => simp_all
    | cons c w =>
      rw [List.cons_append, List.cons.injEq] at rest
      simp_all

theorem numbered_eq_numbered {s t : Text} {m n : Nat} (same : numbered s m = numbered t n) :
    (s = t ∧ m = n) ∨ (m = 0 ∧ 0 < n ∧ numbered t n = s) ∨ (n = 0 ∧ 0 < m ∧ numbered s m = t) := by
  cases m with
  | zero =>
    cases n with
    | zero => exact .inl ⟨same, rfl⟩
    | succ n => exact .inr (.inl ⟨rfl, n.succ_pos, same.symm⟩)
  | succ m =>
    cases n with
    | zero => exact .inr (.inr ⟨rfl, m.succ_pos, same⟩)
    | succ n =>
      obtain ⟨slugs, digits⟩ :=
        append_mark_inj (hyphen_not_mem_toDigits _) (hyphen_not_mem_toDigits _) same
      exact .inl ⟨slugs, toDigits_injective digits⟩

def occurrences (seen : List Text) : List Text → List (Text × Nat)
  | [] => []
  | slug :: rest => (slug, seen.count slug) :: occurrences (slug :: seen) rest

theorem Slugger.next_eq (g : Slugger) (heading : Text) :
    g.next heading =
      (numbered (slugify heading) (g.seen.count (slugify heading)),
        ⟨slugify heading :: g.seen⟩) := by
  rw [Slugger.next]
  cases g.seen.count (slugify heading) <;> rfl

theorem Slugger.ids_eq (g : Slugger) (texts : List Text) :
    g.ids texts = (occurrences g.seen (texts.map slugify)).map fun o => numbered o.1 o.2 := by
  induction texts generalizing g with
  | nil => rfl
  | cons text texts ih =>
    simp only [Slugger.ids, Slugger.next_eq, ih]
    rfl

theorem mem_occurrences {seen slugs : List Text} {slug : Text} {n : Nat} :
    (slug, n) ∈ occurrences seen slugs ↔
      seen.count slug ≤ n ∧ n < seen.count slug + slugs.count slug := by
  induction slugs generalizing seen with
  | nil => simp [occurrences]
  | cons first rest ih =>
    rw [occurrences, List.mem_cons, ih, Prod.mk.injEq]
    by_cases same : slug = first
    · subst same
      simp only [List.count_cons_self, true_and]
      omega
    · have other : first ≠ slug := Ne.symm same
      simp [same, other]

theorem nodup_occurrences (seen slugs : List Text) : (occurrences seen slugs).Nodup := by
  induction slugs generalizing seen with
  | nil => exact List.nodup_nil
  | cons first rest ih =>
    refine List.nodup_cons.2 ⟨?_, ih _⟩
    rw [mem_occurrences, List.count_cons_self]
    omega

theorem ids_nodup_iff (texts : List Text) :
    (Slugger.empty.ids texts).Nodup ↔ ¬Clash (texts.map slugify) := by
  have occurs {slug : Text} {n : Nat} : (slug, n) ∈ occurrences [] (texts.map slugify) ↔
      n < (texts.map slugify).count slug := by
    rw [mem_occurrences]
    simp
  rw [Slugger.ids_eq, List.nodup_map_iff_inj_on (nodup_occurrences _ _)]
  constructor
  · rintro different ⟨slug, n, positive, given, member⟩
    have first : (numbered slug n, 0) ∈ occurrences [] (texts.map slugify) :=
      occurs.2 (List.count_pos_iff.2 member)
    have same := different _ first _ (occurs.2 given) rfl
    exact Nat.ne_of_lt positive (congrArg Prod.snd same)
  · rintro apart ⟨s, m⟩ first ⟨t, n⟩ second same
    replace first := occurs.1 first
    replace second := occurs.1 second
    rcases numbered_eq_numbered same with ⟨rfl, rfl⟩ | ⟨rfl, positive, rfl⟩ | ⟨rfl, positive, rfl⟩
    · rfl
    · exact absurd ⟨t, n, positive, second, List.count_pos_iff.1 first⟩ apart
    · exact absurd ⟨s, m, positive, first, List.count_pos_iff.1 second⟩ apart

example : Slugger.empty.ids [['a'], ['a'], ['a', '-', '1']] =
    [['a'], ['a', '-', '1'], ['a', '-', '1']] := by decide +kernel

/-- The ids that one slugger hands out for some texts, and those of the headings with these texts in
a document, are all different exactly if no slug is what another one has become with a number. -/
theorem headingIds_nodup_iff (texts : List Text) :
    ((Slugger.empty.ids texts).Nodup ↔ ¬Clash (texts.map slugify)) ∧
    ∀ trigger root d, Located root → Document.ofTree trigger root = .ok d →
      (headings root).map (fun h => headingText h.below) = texts →
      (((headings root).map fun h => d.headingId? h.place).Nodup ↔ ¬Clash (texts.map slugify)) := by
  refine ⟨ids_nodup_iff texts, ?_⟩
  rintro trigger root d located found rfl
  rw [headingIds_of_ofTree located found, List.nodup_map_iff fun _ _ => Option.some.inj,
    ids_nodup_iff]

/-- Two headings with one text, and a heading whose text ends like the number of the second. -/
theorem second_heading_shares_id : ∃ (root : Node) (d : Document), Located root ∧
    Document.ofTree ['u'] root = .ok d ∧
    ¬((headings root).map fun h => d.headingId? h.place).Nodup := by
  let heading (line offset : Nat) (text : Text) : Node :=
    .branch (.heading 1 (.known line offset)) [.leaf (.text text)]
  let root : Node := .branch .root [heading 1 0 ['a'], heading 3 5 ['a'],
    heading 5 10 ['a', '-', '1']]
  have located : Located root := ⟨by decide, by decide, by decide, by decide⟩
  have found : ∃ d, Document.ofTree ['u'] root = .ok d :=
    (exists_ofTree_iff located).2 fun c member => nomatch member
  obtain ⟨d, found⟩ := found
  have slugs : [['a'], ['a'], ['a', '-', '1']].map slugify = [['a'], ['a'], ['a', '-', '1']] := by
    decide +kernel
  refine ⟨root, d, located, found, fun different => ?_⟩
  refine ((headingIds_nodup_iff [['a'], ['a'], ['a', '-', '1']]).2 _ root d located found
    (by decide +kernel)).1 different ?_
  rw [slugs]
  exact ⟨['a'], 1, by decide⟩

end Inlay.Host
