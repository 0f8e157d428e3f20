import Inlay.Proofs.Attempt
import Inlay.Proofs.Render.Provenance
import Inlay.Proofs.Text.Case

namespace Inlay

namespace Render

variable {γ : Type} {markdown : Text → γ} {f : Field} {schema : Schema} {supplies : Supplies γ}
  {s : Supplied γ} {v : Value γ} {e : Error} {props : Props γ}

/-! ## The last property for a field -/

def Field.Last {α : Type} (f : Field) (properties : List (Text × α)) (a : α) : Prop :=
  ∃ before name after, properties = before ++ (name, a) :: after ∧ f.takes name ∧
    ∀ p ∈ after, ¬f.takes p.1

theorem Field.Last.mem {α : Type} {properties : List (Text × α)} {a : α}
    (last : f.Last properties a) : ∃ name, (name, a) ∈ properties := by
  obtain ⟨before, name, after, rfl, -, -⟩ := last
  exact ⟨name, List.mem_append_right _ List.mem_cons_self⟩

theorem Field.last_map {α β : Type} {properties : List (Text × α)} (g : α → β) {b : β} :
    f.Last (properties.map fun p => (p.1, g p.2)) b ↔ ∃ a, f.Last properties a ∧ g a = b := by
  constructor
  · rintro ⟨before, name, after, whole, taken, none⟩
    obtain ⟨before, rest, rfl, rfl, behind⟩ := List.map_eq_append_iff.1 whole
    obtain ⟨⟨name', a⟩, after, rfl, same, rfl⟩ := List.map_eq_cons_iff.1 behind
    cases same
    refine ⟨a, ⟨before, name', after, rfl, taken, fun p member => ?_⟩, rfl⟩
    exact none _ (List.mem_map_of_mem member)
  · rintro ⟨a, ⟨before, name, after, rfl, taken, none⟩, rfl⟩
    refine ⟨before.map fun p => (p.1, g p.2), name, after.map fun p => (p.1, g p.2), ?_, taken, ?_⟩
    · rw [List.map_append, List.map_cons]
    · intro p there
      obtain ⟨q, member, rfl⟩ := List.mem_map.1 there
      exact none q member

theorem Field.not_last_of_isBag (bag : f.isBag) : ¬f.Last supplies s := by
  rintro ⟨_, name, _, -, taken, -⟩
  simp [Field.takes, bag] at taken

namespace Supplies

theorem for?_eq_some : supplies.for? f = some s ↔ f.Last supplies s := by
  rw [for?, List.findRev?_eq_find?_reverse, Option.map_eq_some_iff]
  constructor
  · rintro ⟨⟨name, _⟩, found, rfl⟩
    obtain ⟨taken, after, before, whole, none⟩ := List.find?_eq_some_iff_append.1 found
    refine ⟨before.reverse, name, after.reverse, ?_, taken, fun p member => ?_⟩
    · rw [← List.reverse_reverse supplies, whole]
      simp
    · simpa using none p (List.mem_reverse.1 member)
  · rintro ⟨before, name, after, rfl, taken, none⟩
    refine ⟨(name, s), List.find?_eq_some_iff_append.2 ?_, rfl⟩
    refine ⟨taken, after.reverse, before.reverse, ?_⟩
    simpa using none

/-! ## What is to become of the properties -/

def Coerces (markdown : Text → γ) (supplies : Supplies γ) (schema : Schema) : Prop :=
  ∀ f ∈ schema, ∀ s, f.Last supplies s → ∃ v, s.coerce markdown f = .ok v

def FailsFirst (markdown : Text → γ) (supplies : Supplies γ) (schema : Schema) (e : Error) : Prop :=
  ∃ before f after s, schema = before ++ f :: after ∧ Coerces markdown supplies before ∧
    f.Last supplies s ∧ s.coerce markdown f = .error e

end Supplies

def Supplied.written? : Supplied γ → Option Text
  | string text => some text
  | flag => some "true".toList
  | component _ => none

namespace Supplies

/-- Whether a field is to have a value: the last of its properties, or for a bag all properties that
no field takes, in order. -/
def Gives (markdown : Text → γ) (schema : Schema) (supplies : Supplies γ) (f : Field)
    (v : Value γ) : Prop :=
  (∃ s, f.Last supplies s ∧ s.coerce markdown f = .ok v) ∨
    f.isBag ∧ ∃ pairs, v = .attributes pairs ∧
      (supplies.untaken schema).map (fun p => (p.1, p.2.written?)) =
        pairs.map fun pair => (pair.1, some pair.2)

structure Fills (markdown : Text → γ) (schema : Schema) (supplies : Supplies γ)
    (props : Props γ) : Prop where
  field : ∀ f ∈ schema, ∀ v, props.get? f.name = some v ↔ supplies.Gives markdown schema f v
  entry : ∀ key v, (key, v) ∈ props ↔
    ∃ f ∈ schema, f.name.lower = key ∧ supplies.Gives markdown schema f v
  distinct : props.keys.Nodup

/-- What `bind` does with each property, in the order in which one rule goes before another. -/
structure Accounts (markdown : Text → γ) (schema : Schema) (supplies : Supplies γ) : Prop where
  single : ∀ name, (schema.filter (·.takes name)).length ≤ 1
  fields : supplies.Coerces markdown schema ∨ ∃ e, supplies.FailsFirst markdown schema e
  coercion : ∀ e, supplies.FailsFirst markdown schema e → supplies.bind markdown schema = .error e
  unsupported : supplies.Coerces markdown schema → (∃ bag ∈ schema, bag.isBag) →
    ∀ front name made behind, supplies.untaken schema = front ++ (name, .component made) :: behind →
      (∀ p ∈ front, p.2.written?.isSome) →
      supplies.bind markdown schema = .error (.bind (.unsupported name "component"))
  unknown : supplies.Coerces markdown schema → (∀ f ∈ schema, ¬f.isBag) →
    supplies.untaken schema ≠ [] → supplies.bind markdown schema =
      .error (.bind (.unknown ((supplies.untaken schema).map (·.1))))
  bound : supplies.Coerces markdown schema → supplies.untaken schema = [] ∨
      (∃ bag ∈ schema, bag.isBag) ∧ (∀ p ∈ supplies.untaken schema, p.2.written?.isSome) →
    ∃ props, supplies.bind markdown schema = .ok props ∧ supplies.Fills markdown schema props

theorem coerces_or_failsFirst (markdown : Text → γ) (supplies : Supplies γ) (schema : Schema) :
    supplies.Coerces markdown schema ∨ ∃ e, supplies.FailsFirst markdown schema e := by
  induction schema with
  | nil => exact .inl fun f member => absurd member List.not_mem_nil
  | cons f r ih =>
    by_cases first : ∃ s e, f.Last supplies s ∧ s.coerce markdown f = .error e
    · obtain ⟨s, e, last, failed⟩ := first
      exact .inr ⟨e, [], f, r, s, rfl, fun g member => absurd member List.not_mem_nil, last, failed⟩
    · have coerced : ∀ s, f.Last supplies s → ∃ v, s.coerce markdown f = .ok v := by
        intro s last
        cases result : s.coerce markdown f with
        | error e => exact absurd ⟨s, e, last, result⟩ first
        | ok v => exact ⟨v, rfl⟩
      rcases ih with rest | ⟨e, before, g, after, s, rfl, earlier, last, failed⟩
      · exact .inl (List.forall_mem_cons.2 ⟨coerced, rest⟩)
      · exact .inr ⟨e, f :: before, g, after, s, rfl, List.forall_mem_cons.2 ⟨coerced, earlier⟩,
          last, failed⟩

/-! ## Fields -/

theorem bindFields_of_failsFirst (failed : supplies.FailsFirst markdown schema e) :
    supplies.bindFields markdown props schema = .error e := by
  obtain ⟨before, f, after, s, rfl, coerced, last, failed⟩ := failed
  induction before generalizing props with
  | nil =>
    rw [List.nil_append, bindFields, for?_eq_some.2 last]
    dsimp only
    rw [failed, Attempt.error_bind]
  | cons g before ih =>
    obtain ⟨first, rest⟩ := List.forall_mem_cons.1 coerced
    rw [List.cons_append, bindFields]
    split
    · exact ih rest
    · next s found =>
      obtain ⟨v, given⟩ := first s (for?_eq_some.1 found)
      rw [given, Attempt.ok_bind]
      exact ih rest

theorem bindFields_of_coerces (coerced : supplies.Coerces markdown schema) (props : Props γ) :
    ∃ bound, supplies.bindFields markdown props schema = .ok bound := by
  induction schema generalizing props with
  | nil => exact ⟨props, rfl⟩
  | cons f r ih =>
    obtain ⟨first, rest⟩ := List.forall_mem_cons.1 coerced
    rw [bindFields]
    split
    · exact ih rest _
    · next s found =>
      obtain ⟨v, given⟩ := first s (for?_eq_some.1 found)
      rw [given, Attempt.ok_bind]
      exact ih rest _

theorem coerces_of_bindFields {bound : Props γ}
    (filled : supplies.bindFields markdown props schema = .ok bound) :
    supplies.Coerces markdown schema := by
  refine (coerces_or_failsFirst markdown supplies schema).resolve_right ?_
  rintro ⟨e, failed⟩
  rw [bindFields_of_failsFirst failed] at filled
  cases filled

theorem mem_bindFields {bound : Props γ} (own : (schema.map (·.name.lower)).Nodup)
    (fresh : ∀ f ∈ schema, f.name.lower ∉ props.keys) (distinct : props.keys.Nodup)
    (filled : supplies.bindFields markdown props schema = .ok bound) :
    bound.keys.Nodup ∧ ∀ key v, (key, v) ∈ bound ↔ (key, v) ∈ props ∨
      ∃ f ∈ schema, f.name.lower = key ∧ ∃ s, f.Last supplies s ∧ s.coerce markdown f = .ok v := by
  induction schema generalizing props with
  | nil =>
    cases filled
    exact ⟨distinct, by simp⟩
  | cons f r ih =>
    obtain ⟨other, own⟩ := List.nodup_cons.1 own
    obtain ⟨free, fresh⟩ := List.forall_mem_cons.1 fresh
    rw [bindFields] at filled
    split at filled
    · next none =>
      have nothing : ∀ s, ¬f.Last supplies s := fun s last => by
        rw [for?_eq_some.2 last] at none
        cases none
      obtain ⟨distinct, entries⟩ := ih own fresh distinct filled
      refine ⟨distinct, fun key v => ?_⟩
      rw [entries]
      simp [nothing]
    · next s found =>
      obtain ⟨v, given, filled⟩ := Attempt.bind_eq_ok.1 filled
      have last : ∀ s', f.Last supplies s' ↔ s = s' := fun s' => by
        rw [← for?_eq_some, found, Option.some.injEq]
      -- the value goes under a key of its own, so nothing that was bound before is lost
      have added : (props.put f.name v).Perm ((f.name.lower, v) :: props) := Keyed.put_perm free
      have keys := added.map (·.1)
      have fresh : ∀ g ∈ r, g.name.lower ∉ (props.put f.name v).keys := by
        intro g member there
        rcases List.mem_cons.1 (keys.mem_iff.1 there) with same | before
        · exact other (List.mem_map.2 ⟨g, member, same⟩)
        · exact fresh g member before
      have distinct := keys.nodup_iff.2 (List.nodup_cons.2 ⟨free, distinct⟩)
      obtain ⟨distinct, entries⟩ := ih own fresh distinct filled
      refine ⟨distinct, fun key w => ?_⟩
      rw [entries, added.mem_iff]
      simp [last, given, or_assoc, or_comm, eq_comm]

/-! ## The bag -/

theorem asAttribute_eq_ok {name : Text} {pair : Text × Text} :
    s.asAttribute name = .ok pair ↔ (name, s.written?) = (pair.1, some pair.2) := by
  obtain ⟨name', text⟩ := pair
  cases s <;> simp [Supplied.asAttribute, Supplied.written?]

theorem mapM_asAttribute_eq_ok {rest : Supplies γ} {pairs : List (Text × Text)} :
    rest.mapM (fun p => p.2.asAttribute p.1) = .ok pairs ↔
      rest.map (fun p => (p.1, p.2.written?)) = pairs.map fun pair => (pair.1, some pair.2) := by
  induction rest generalizing pairs with
  | nil => cases pairs <;> simp [pure, Except.pure]
  | cons p rest ih =>
    rw [List.mapM_cons, List.map_cons]
    cases pairs with
    | nil => simp [Attempt.bind_eq_ok, pure, Except.pure]
    | cons pair pairs =>
      rw [List.map_cons, List.cons.injEq, ← asAttribute_eq_ok, ← ih]
      simp [Attempt.bind_eq_ok, pure, Except.pure]

theorem exists_pairs {rest : Supplies γ} : (∃ pairs : List (Text × Text),
    rest.map (fun p => (p.1, p.2.written?)) = pairs.map fun pair => (pair.1, some pair.2)) ↔
      ∀ p ∈ rest, p.2.written?.isSome := by
  constructor
  · rintro ⟨pairs, same⟩ p member
    have there : (p.1, p.2.written?) ∈ pairs.map fun pair => (pair.1, some pair.2) := by
      rw [← same]
      exact List.mem_map.2 ⟨p, member, rfl⟩
    obtain ⟨pair, -, found⟩ := List.mem_map.1 there
    rw [← (Prod.mk.inj found).2]
    rfl
  · intro written
    refine ⟨rest.map fun p => (p.1, p.2.written?.getD []), ?_⟩
    rw [List.map_map]
    refine List.map_congr_left fun p member => ?_
    obtain ⟨text, found⟩ := Option.isSome_iff_exists.1 (written p member)
    simp [found]

theorem mapM_asAttribute_of_component {front behind : Supplies γ} {name : Text}
    {made : Except Error γ} (written : ∀ p ∈ front, p.2.written?.isSome) :
    (front ++ (name, .component made) :: behind).mapM (fun p => p.2.asAttribute p.1) =
      .error (.bind (.unsupported name "component")) := by
  obtain ⟨pairs, same⟩ := exists_pairs.2 written
  rw [List.mapM_append, mapM_asAttribute_eq_ok.2 same, List.mapM_cons]
  rfl

theorem bind_of_bindFields {bound : Props γ}
    (filled : supplies.bindFields markdown [] schema = .ok bound) :
    supplies.bind markdown schema = match schema.bag? with
      | some bag => (supplies.untaken schema).mapM (fun p => p.2.asAttribute p.1) >>= fun pairs =>
          .ok (bound.put bag.name (.attributes pairs))
      | none => if supplies.untaken schema = [] then .ok bound
          else .error (.bind (.unknown ((supplies.untaken schema).map (·.1)))) := by
  rw [bind, filled, Attempt.ok_bind]
  simp only [List.isEmpty_iff]
  rfl

end Supplies

namespace Schema

theorem bag?_eq_none : schema.bag? = none ↔ ∀ f ∈ schema, ¬f.isBag := List.find?_eq_none

theorem mem_of_bag? (found : schema.bag? = some f) : f ∈ schema ∧ f.isBag :=
  ⟨List.mem_of_find?_eq_some found, List.find?_some found⟩

end Schema

namespace Supplies

theorem bind_isOk : (∃ props, supplies.bind markdown schema = .ok props) ↔
    supplies.Coerces markdown schema ∧
      ∀ p ∈ supplies.untaken schema, (∃ bag ∈ schema, bag.isBag) ∧ p.2.written?.isSome := by
  by_cases coerced : supplies.Coerces markdown schema
  · obtain ⟨bound, filled⟩ := bindFields_of_coerces coerced []
    rw [bind_of_bindFields filled]
    split
    · next bag found =>
      have bags : ∃ bag ∈ schema, bag.isBag := ⟨bag, Schema.mem_of_bag? found⟩
      simp only [coerced, bags, true_and, ← exists_pairs, ← mapM_asAttribute_eq_ok,
        Attempt.bind_eq_ok]
      constructor
      · rintro ⟨_, pairs, made, -⟩
        exact ⟨pairs, made⟩
      · rintro ⟨pairs, made⟩
        exact ⟨_, pairs, made, rfl⟩
    · next none =>
      have bags : ¬∃ bag ∈ schema, bag.isBag := by
        simpa using Schema.bag?_eq_none.1 none
      simp only [coerced, bags, true_and, false_and, ← List.eq_nil_iff_forall_not_mem]
      split
      · next empty => simp [empty]
      · next left => simp [left]
  · simp only [coerced, false_and, iff_false]
    rintro ⟨props, bound⟩
    obtain ⟨fields, filled, -⟩ := Attempt.bind_eq_ok.1 bound
    exact coerced (coerces_of_bindFields filled)

end Supplies

namespace Schema

/-! ## Valid schemas -/

structure Proper (schema : Schema) : Prop where
  own : (schema.map (·.name.lower)).Nodup
  bag : ∀ f ∈ schema, ∀ g ∈ schema, f.isBag → g.isBag → f = g

theorem own_of_checkNames {component : Text} {seen : List Text}
    (checked : checkNames component seen schema = .ok ()) :
    (schema.map (·.name.lower)).Nodup ∧ ∀ f ∈ schema, f.name.lower ∉ seen := by
  induction schema generalizing seen with
  | nil => simp
  | cons f r ih =>
    rw [checkNames] at checked
    split at checked
    · cases checked
    · split at checked
      · cases checked
      · next new =>
        obtain ⟨own, others⟩ := ih checked
        have other : ∀ g ∈ r, g.name.lower ≠ f.name.lower ∧ g.name.lower ∉ seen := by
          simpa using others
        refine ⟨List.nodup_cons.2 ⟨?_, own⟩, List.forall_mem_cons.2 ⟨by simpa using new, ?_⟩⟩
        · intro there
          obtain ⟨g, member, same⟩ := List.mem_map.1 there
          exact (other g member).1 same
        · exact fun g member => (other g member).2

theorem proper_of_validate {component : Text} (valid : schema.validate component = .ok ()) :
    schema.Proper := by
  obtain ⟨⟨⟩, checked, bags⟩ := Attempt.bind_eq_ok.1 valid
  refine ⟨(own_of_checkNames checked).1, fun f field g field' bag bag' => ?_⟩
  have one : (schema.filter Field.isBag).length ≤ 1 := by
    by_contra many
    rw [if_pos (by omega)] at bags
    cases bags
  have both := List.mem_filter.2 ⟨field, bag⟩
  have both' := List.mem_filter.2 ⟨field', bag'⟩
  match h : schema.filter Field.isBag with
  | [] => rw [h] at both; cases both
  | [single] =>
    rw [h, List.mem_singleton] at both both'
    rw [both, both']
  | _ :: _ :: _ => rw [h] at one; simp at one

namespace Proper

variable (proper : schema.Proper)
include proper

theorem eq_of_lower {g : Field} (field : f ∈ schema) (field' : g ∈ schema)
    (same : f.name.lower = g.name.lower) : f = g :=
  List.inj_on_of_nodup_map proper.own field field' same

theorem eq_of_takes {g : Field} {name : Text} (field : f ∈ schema) (field' : g ∈ schema)
    (taken : f.takes name) (taken' : g.takes name) : f = g := by
  rw [Field.takes, Bool.and_eq_true] at taken taken'
  refine proper.eq_of_lower field field' ?_
  rw [Text.lower, Text.lower]
  exact (Text.lower_eq_of_sameAscii taken.2).trans (Text.lower_eq_of_sameAscii taken'.2).symm

theorem single (name : Text) : (schema.filter (·.takes name)).length ≤ 1 := by
  have distinct : (schema.filter (·.takes name)).Nodup := proper.own.of_map.filter _
  by_contra one
  have many : 1 < (schema.filter (·.takes name)).length := Nat.lt_of_not_le one
  have both (i : Nat) (bound : i < (schema.filter (·.takes name)).length) :=
    List.mem_filter.1 (List.getElem_mem bound)
  obtain ⟨field, taken⟩ := both 0 (by omega)
  obtain ⟨field', taken'⟩ := both 1 many
  have same := distinct.getElem_inj_iff.1 (proper.eq_of_takes field field' taken taken')
  omega

theorem fills (distinct : props.keys.Nodup) (entries : ∀ key v, (key, v) ∈ props ↔
    ∃ f ∈ schema, f.name.lower = key ∧ supplies.Gives markdown schema f v) :
    supplies.Fills markdown schema props := by
  refine ⟨fun f field v => ?_, entries, distinct⟩
  rw [Props.get?, Keyed.get?_eq_some distinct, entries]
  constructor
  · rintro ⟨g, field', same, given⟩
    rwa [proper.eq_of_lower field field' same.symm]
  · exact fun given => ⟨f, field, rfl, given⟩

theorem fills_of_bindFields {bound : Props γ} (none : schema.bag? = none)
    (filled : supplies.bindFields markdown [] schema = .ok bound) :
    supplies.Fills markdown schema bound := by
  obtain ⟨distinct, entries⟩ := Supplies.mem_bindFields proper.own (by simp [Keyed.keys])
    (by simp [Keyed.keys]) filled
  refine proper.fills distinct fun key v => ?_
  rw [entries]
  constructor
  · rintro (nothing | ⟨f, field, same, given⟩)
    · cases nothing
    · exact ⟨f, field, same, .inl given⟩
  · rintro ⟨f, field, same, given | ⟨bag, -⟩⟩
    · exact .inr ⟨f, field, same, given⟩
    · exact absurd bag (bag?_eq_none.1 none f field)

theorem fills_put {bound : Props γ} {bag : Field} {pairs : List (Text × Text)}
    (found : schema.bag? = some bag)
    (filled : supplies.bindFields markdown [] schema = .ok bound)
    (written : (supplies.untaken schema).map (fun p => (p.1, p.2.written?)) =
      pairs.map fun pair => (pair.1, some pair.2)) :
    supplies.Fills markdown schema (bound.put bag.name (.attributes pairs)) := by
  obtain ⟨field, isBag⟩ := mem_of_bag? found
  obtain ⟨distinct, entries⟩ := Supplies.mem_bindFields proper.own (by simp [Keyed.keys])
    (by simp [Keyed.keys]) filled
  have fresh : bag.name.lower ∉ bound.keys := by
    intro there
    obtain ⟨⟨_, v⟩, member, rfl⟩ := List.mem_map.1 there
    rcases (entries _ _).1 member with nothing | ⟨f, field', same, s, last, -⟩
    · cases nothing
    · rw [proper.eq_of_lower field' field same] at last
      exact Field.not_last_of_isBag isBag last
  have added := Keyed.put_perm (a := Value.attributes pairs) fresh
  refine proper.fills ((added.map _).nodup_iff.2 (List.nodup_cons.2 ⟨fresh, distinct⟩)) ?_
  intro key v
  rw [Props.put, added.mem_iff, List.mem_cons, entries]
  constructor
  · rintro (new | nothing | ⟨f, field, same, given⟩)
    · cases new
      exact ⟨bag, field, rfl, .inr ⟨isBag, pairs, rfl, written⟩⟩
    · cases nothing
    · exact ⟨f, field, same, .inl given⟩
  · rintro ⟨f, field', same, given | ⟨isBag', pairs', rfl, written'⟩⟩
    · exact .inr (.inr ⟨f, field', same, given⟩)
    · left
      obtain rfl := proper.bag f field' bag field isBag' isBag
      have injective : Function.Injective fun pair : Text × Text => (pair.1, some pair.2) := by
        rintro ⟨name, text⟩ ⟨name', text'⟩ same
        simpa using same
      rw [← same, injective.list_map (written.symm.trans written')]

theorem fills_of_bind (bound : supplies.bind markdown schema = .ok props) :
    supplies.Fills markdown schema props := by
  obtain ⟨fields, filled, -⟩ := Attempt.bind_eq_ok.1 bound
  rw [Supplies.bind_of_bindFields filled] at bound
  split at bound
  · next bag found =>
    obtain ⟨pairs, made, bound⟩ := Attempt.bind_eq_ok.1 bound
    cases bound
    exact proper.fills_put found filled (Supplies.mapM_asAttribute_eq_ok.1 made)
  · next none =>
    split at bound
    · cases bound
      exact proper.fills_of_bindFields none filled
    · cases bound

end Proper
end Schema

/-! ## Every property -/

namespace Supplies

theorem bind_of_untaken (coerced : supplies.Coerces markdown schema)
    (none : ∀ f ∈ schema, ¬f.isBag) (left : supplies.untaken schema ≠ []) :
    supplies.bind markdown schema =
      .error (.bind (.unknown ((supplies.untaken schema).map (·.1)))) := by
  obtain ⟨bound, filled⟩ := bindFields_of_coerces coerced []
  rw [bind_of_bindFields filled, Schema.bag?_eq_none.2 none, if_neg left]

theorem bind_of_component (coerced : supplies.Coerces markdown schema)
    (bags : ∃ bag ∈ schema, bag.isBag) {front behind : Supplies γ} {name : Text}
    {made : Except Error γ}
    (whole : supplies.untaken schema = front ++ (name, .component made) :: behind)
    (written : ∀ p ∈ front, p.2.written?.isSome) :
    supplies.bind markdown schema = .error (.bind (.unsupported name "component")) := by
  obtain ⟨bound, filled⟩ := bindFields_of_coerces coerced []
  obtain ⟨bag, field, isBag⟩ := bags
  rw [bind_of_bindFields filled]
  split
  · rw [whole, mapM_asAttribute_of_component written, Attempt.error_bind]
  · next none => exact absurd isBag (Schema.bag?_eq_none.1 none bag field)

/-- Every property that is supplied is for the one field of its name, where the last of them counts,
or is left over for the bag, or makes it fail. -/
theorem bind_accounts {component : Text} (valid : schema.validate component = .ok ())
    (markdown : Text → γ) (supplies : Supplies γ) : supplies.Accounts markdown schema where
  single := (Schema.proper_of_validate valid).single
  fields := coerces_or_failsFirst markdown supplies schema
  coercion e failed := by rw [bind, bindFields_of_failsFirst failed, Attempt.error_bind]
  unsupported coerced bags front name made behind whole written :=
    bind_of_component coerced bags whole written
  unknown := bind_of_untaken
  bound coerced rest := by
    have left : ∀ p ∈ supplies.untaken schema,
        (∃ bag ∈ schema, bag.isBag) ∧ p.2.written?.isSome := by
      rcases rest with none | ⟨bags, written⟩
      · simp [none]
      · exact fun p member => ⟨bags, written p member⟩
    obtain ⟨props, bound⟩ := bind_isOk.2 ⟨coerced, left⟩
    exact ⟨props, bound, (Schema.proper_of_validate valid).fills_of_bind bound⟩

theorem bind_accounts_shadowed :
    Schema.validate [⟨"rest".toList, .attributes⟩, ⟨"title".toList, .string⟩] [] = .ok () ∧
    Supplies.Accounts (γ := Unit) (fun _ => ())
      [⟨"rest".toList, .attributes⟩, ⟨"title".toList, .string⟩]
      [("Title".toList, .flag), ("open".toList, .flag), ("TITLE".toList, .string ['a'])] ∧
    bind (γ := Unit) (fun _ => ()) [⟨"rest".toList, .attributes⟩, ⟨"title".toList, .string⟩]
      [("Title".toList, .flag), ("open".toList, .flag), ("TITLE".toList, .string ['a'])] =
      .ok [("rest".toList, .attributes [("open".toList, "true".toList)]),
        ("title".toList, .string ['a'])] :=
  ⟨rfl, bind_accounts (show Schema.validate _ [] = .ok () from rfl) _ _, rfl⟩

/-! ## Names in either case -/

structure LeavesOver (markdown : Text → γ) (schema : Schema) (supplies : Supplies γ)
    (name : Text) : Prop where
  unknown : supplies.Coerces markdown schema → (∀ g ∈ schema, ¬g.isBag) →
    ∃ names, supplies.bind markdown schema = .error (.bind (.unknown names)) ∧ name ∈ names
  bag : ∀ props, supplies.bind markdown schema = .ok props → ∃ bag ∈ schema, bag.isBag ∧
    ∃ pairs, props.get? bag.name = some (.attributes pairs) ∧ name ∈ pairs.map (·.1)

theorem leavesOver_of_mem (proper : schema.Proper) {name : Text}
    (left : (name, s) ∈ supplies.untaken schema) : supplies.LeavesOver markdown schema name := by
  constructor
  · intro coerced none
    exact ⟨_, bind_of_untaken coerced none (List.ne_nil_of_mem left), List.mem_map_of_mem left⟩
  · intro props bound
    have rest := (bind_isOk.1 ⟨props, bound⟩).2
    obtain ⟨⟨bag, field, isBag⟩, -⟩ := rest _ left
    obtain ⟨pairs, same⟩ := exists_pairs.2 fun p member => (rest p member).2
    have held : props.get? bag.name = some (.attributes pairs) :=
      ((proper.fills_of_bind bound).field bag field _).2 (.inr ⟨isBag, pairs, rfl, same⟩)
    have names := congrArg (List.map Prod.fst) same
    rw [List.map_map, List.map_map] at names
    exact ⟨bag, field, isBag, pairs, held, names ▸ List.mem_map_of_mem (f := Prod.fst) left⟩

end Supplies

namespace Schema

/-- A field has the name of each property that it takes in lower case.  For a name in ASCII, as all
names in markup are, it takes no fewer, unless its own name has a Kelvin sign.  A property of the
same name in lower case that it does not take is left over. -/
theorem takes_of_lower {component : Text} (valid : schema.validate component = .ok ())
    (field : f ∈ schema) (proper : ¬f.isBag) (name : Text) :
    (f.takes name → f.name.lower = name.lower) ∧
    (Text.isAscii name → (f.takes name ↔ f.name.lower = name.lower ∧ '\u212A' ∉ f.name)) ∧
    (f.name.lower = name.lower → ¬f.takes name →
      ∀ (markdown : Text → γ) (supplies : Supplies γ), name ∈ supplies.map (·.1) →
        supplies.LeavesOver markdown schema name) := by
  have takes : f.takes name ↔ Text.sameAscii f.name name := by simp [Field.takes, proper]
  refine ⟨fun taken => Text.lower_eq_of_sameAscii (takes.1 taken), fun ascii => ?_,
    fun same other markdown supplies there => ?_⟩
  · rw [takes]
    exact Text.sameAscii_iff_lower_eq ascii
  · obtain ⟨⟨_, s⟩, member, rfl⟩ := List.mem_map.1 there
    have proper := proper_of_validate valid
    refine Supplies.leavesOver_of_mem proper (s := s) (List.mem_filter.2 ⟨member, ?_⟩)
    simp only [Schema.takes, Bool.not_eq_true', List.any_eq_false]
    intro g field' taken
    have lower : g.name.lower = f.name.lower := by
      rw [same]
      exact Text.lower_eq_of_sameAscii (Bool.and_eq_true_iff.1 taken).2
    rw [proper.eq_of_lower field' field lower] at taken
    exact other taken

theorem takes_of_lower_accented :
    Schema.validate [⟨['É'], .string⟩] [] = .ok () ∧ Text.lower ['É'] = Text.lower ['é'] ∧
    Supplies.LeavesOver (fun _ => ()) [⟨['É'], .string⟩] [(['é'], .string ['x'])] ['é'] ∧
    Supplies.bind (fun _ => ()) [⟨['É'], .string⟩] [(['é'], .string ['x'])] =
      .error (.bind (.unknown [['é']])) := by
  have valid : Schema.validate [⟨['É'], .string⟩] [] = .ok () := rfl
  have same : Text.lower ['É'] = Text.lower ['é'] := by decide +kernel
  have other : ¬Field.takes ⟨['É'], .string⟩ ['é'] := by decide
  obtain ⟨-, -, left⟩ := takes_of_lower valid List.mem_cons_self (by decide) ['é']
  exact ⟨valid, same, left same other _ _ List.mem_cons_self, rfl⟩

end Schema
end Render
end Inlay
