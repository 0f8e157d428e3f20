import Inlay.Proofs.Attempt
import Inlay.Proofs.Text.Tables
import Inlay.Render.Layout
import Mathlib.Data.List.DropRight

namespace Inlay.Render

structure Registration where
  path : List Text
  name : Text
  template : Template

namespace Registration

def level (r : Registration) : List Text := r.path.map Text.lower

def key (r : Registration) : List Text := r.level ++ [r.name.lower]

structure Apart (r r' : Registration) : Prop where
  above : ¬r.key <+: r'.key
  below : ¬r'.key <+: r.key

variable {r r' : Registration}

theorem Apart.symm (apart : r.Apart r') : r'.Apart r := ⟨apart.below, apart.above⟩

theorem apart_of_level (level : r.level = r'.level) (names : r.name.lower ≠ r'.name.lower) :
    r.Apart r' := by
  have length : r.key.length = r'.key.length := by simp [key, level]
  have keys : r.key ≠ r'.key := by
    rw [key, key, level]
    exact fun same => names (List.singleton_inj.1 (List.append_cancel_left same))
  exact ⟨fun inside => keys (inside.eq_of_length length),
    fun inside => keys (inside.eq_of_length length.symm).symm⟩

end Registration

/-! ## What is refused -/

def IsBlank (s : Text) : Prop := ∀ c ∈ s, Text.isBlank c

structure Schema.Named (schema : Schema) : Prop where
  stated : ∀ f ∈ schema, ¬IsBlank f.name
  own : (schema.map (·.name.lower)).Nodup

inductive Schema.Violates (component : Text) (schema : Schema) : RegisterFault → Prop
  | blank {before after : Schema} {f : Field} : schema = before ++ f :: after → before.Named →
      IsBlank f.name → Violates component schema (.emptyField component)
  | duplicate {before after : Schema} {f : Field} : schema = before ++ f :: after →
      before.Named → ¬IsBlank f.name → (∃ g ∈ before, g.name.lower = f.name.lower) →
      Violates component schema (.duplicateField component f.name)
  | bags : schema.Named → 1 < schema.countP Field.isBag →
      Violates component schema (.manyBags component)

inductive Registration.Refused (r : Registration) : RegisterFault → Prop
  | blank : IsBlank r.name → Refused r .emptyName
  | schema {fault : RegisterFault} : ¬IsBlank r.name → r.template.schema.Violates r.name fault →
      Refused r fault

theorem trim_isEmpty {s : Text} : s.trim.isEmpty ↔ IsBlank s := by
  rw [List.isEmpty_iff, Text.trim, Text.dropEnds, Text.dropEnd, List.reverse_eq_nil_iff,
    List.dropWhile_eq_nil_iff]
  simp only [List.mem_reverse]
  constructor
  · -- what is left in front of the first character that is not blank is the whole text
    intro rest
    have stop := List.head?_dropWhile_not Text.isBlank s
    cases left : s.dropWhile Text.isBlank with
    | nil => exact List.dropWhile_eq_nil_iff.1 left
    | cons c r =>
      rw [left] at stop rest
      exact absurd (rest c List.mem_cons_self) (Bool.eq_false_iff.1 stop)
  · exact fun blank c member => blank c (List.dropWhile_subset _ member)

namespace Schema

variable {component : Text} {seen : List Text} {schema : Schema} {fault : RegisterFault}

theorem named_cons {f : Field} :
    Named (f :: schema) ↔
      ¬IsBlank f.name ∧ (∀ g ∈ schema, g.name.lower ≠ f.name.lower) ∧ schema.Named := by
  constructor
  · rintro ⟨stated, own⟩
    obtain ⟨here, others⟩ := List.forall_mem_cons.1 stated
    obtain ⟨new, rest⟩ := List.nodup_cons.1 own
    exact ⟨here, fun g member same => new (List.mem_map.2 ⟨g, member, same⟩), others, rest⟩
  · rintro ⟨here, new, others, rest⟩
    refine ⟨List.forall_mem_cons.2 ⟨here, others⟩, List.nodup_cons.2 ⟨fun there => ?_, rest⟩⟩
    obtain ⟨g, member, same⟩ := List.mem_map.1 there
    exact new g member same

theorem checkNames_eq_ok :
    checkNames component seen schema = .ok () ↔
      schema.Named ∧ ∀ f ∈ schema, f.name.lower ∉ seen := by
  induction schema generalizing seen with
  | nil => exact iff_of_true rfl ⟨⟨by simp, List.nodup_nil⟩, by simp⟩
  | cons f r ih =>
    rw [checkNames, named_cons, List.forall_mem_cons]
    by_cases blank : IsBlank f.name
    · simp [trim_isEmpty.2 blank, blank]
    · by_cases known : f.name.lower ∈ seen
      · simp [mt trim_isEmpty.1 blank, known]
      · rw [if_neg (mt trim_isEmpty.1 blank), if_neg (by simpa using known), ih]
        simp only [List.mem_cons, not_or]
        constructor
        · rintro ⟨named, new⟩
          exact ⟨⟨blank, fun g member => (new g member).1, named⟩, known,
            fun g member => (new g member).2⟩
        · rintro ⟨⟨-, other, named⟩, -, new⟩
          exact ⟨named, fun g member => ⟨other g member, new g member⟩⟩

theorem checkNames_eq_error :
    checkNames component seen schema = .error fault ↔
      ∃ before f after, schema = before ++ f :: after ∧ checkNames component seen before = .ok () ∧
        (IsBlank f.name ∧ fault = .emptyField component ∨
          ¬IsBlank f.name ∧ (f.name.lower ∈ seen ∨ ∃ g ∈ before, g.name.lower = f.name.lower) ∧
            fault = .duplicateField component f.name) := by
  induction schema generalizing seen with
  | nil => simp [checkNames]
  | cons f r ih =>
    have checked (before : Schema) : checkNames component seen (f :: before) = .ok () ↔
        ¬IsBlank f.name ∧ f.name.lower ∉ seen ∧
          checkNames component (f.name.lower :: seen) before = .ok () := by
      rw [checkNames, ← trim_isEmpty]
      by_cases blank : f.name.trim.isEmpty
      · simp [blank]
      · by_cases known : f.name.lower ∈ seen <;> simp [blank, known]
    -- the field in front counts as seen for those behind it
    have seen_first (before : Schema) (g : Field) :
        (g.name.lower ∈ f.name.lower :: seen ∨ ∃ h ∈ before, h.name.lower = g.name.lower) ↔
          g.name.lower ∈ seen ∨ ∃ h ∈ f :: before, h.name.lower = g.name.lower := by
      simp only [List.mem_cons, exists_eq_or_imp, eq_comm (a := f.name.lower)]
      exact or_assoc.trans or_left_comm
    constructor
    · intro failed
      rw [checkNames] at failed
      split at failed
      · next blank =>
        cases failed
        exact ⟨[], f, r, rfl, rfl, .inl ⟨trim_isEmpty.1 blank, rfl⟩⟩
      · next stated =>
        rw [trim_isEmpty] at stated
        split at failed
        · next known =>
          cases failed
          exact ⟨[], f, r, rfl, rfl, .inr ⟨stated, .inl (by simpa using known), rfl⟩⟩
        · next new =>
          obtain ⟨before, g, after, rfl, fine, wrong⟩ := ih.1 failed
          have fine := (checked before).2 ⟨stated, by simpa using new, fine⟩
          refine ⟨f :: before, g, after, rfl, fine, ?_⟩
          rwa [seen_first] at wrong
    · rintro ⟨_ | ⟨_, before⟩, g, after, whole, fine, wrong⟩
      · cases whole
        rw [checkNames]
        rcases wrong with ⟨blank, rfl⟩ | ⟨stated, known | ⟨_, none, _⟩, rfl⟩
        · rw [if_pos (trim_isEmpty.2 blank)]
        · rw [if_neg (mt trim_isEmpty.1 stated), if_pos (by simpa using known)]
        · cases none
      · cases whole
        obtain ⟨stated, new, fine⟩ := (checked before).1 fine
        rw [checkNames, if_neg (mt trim_isEmpty.1 stated), if_neg (by simpa using new), ih]
        exact ⟨before, g, after, rfl, fine, by rwa [seen_first]⟩

theorem validate_eq_error :
    schema.validate component = .error fault ↔ schema.Violates component fault := by
  have unseen (before : Schema) : checkNames component [] before = .ok () ↔ before.Named := by
    simp [checkNames_eq_ok]
  rw [validate]
  cases checked : checkNames component [] schema with
  | error first =>
    rw [Attempt.error_bind, ← checked, checkNames_eq_error]
    simp only [unseen]
    constructor
    · rintro ⟨before, f, after, whole, named, ⟨blank, rfl⟩ | ⟨stated, none | earlier, rfl⟩⟩
      · exact .blank whole named blank
      · cases none
      · exact .duplicate whole named stated earlier
    · rintro (⟨whole, named, blank⟩ | ⟨whole, named, stated, earlier⟩ | ⟨named, _⟩)
      · exact ⟨_, _, _, whole, named, .inl ⟨blank, rfl⟩⟩
      · exact ⟨_, _, _, whole, named, .inr ⟨stated, .inr earlier, rfl⟩⟩
      · rw [(unseen schema).2 named] at checked
        cases checked
  | ok =>
    have named := (unseen schema).1 checked
    rw [Attempt.ok_bind, ← List.countP_eq_length_filter]
    constructor
    · intro failed
      split at failed
      · next many =>
        cases failed
        exact .bags named many
      · cases failed
    · rintro (⟨rfl, _, blank⟩ | ⟨rfl, _, _, g, earlier, same⟩ | ⟨_, many⟩)
      · exact absurd blank (named.stated _ (by simp))
      · have own := named.own
        rw [List.map_append, List.nodup_append] at own
        exact absurd same (own.2.2 _ (List.mem_map_of_mem earlier) _ List.mem_cons_self)
      · rw [if_pos many]

end Schema

/-! ## One registration -/

namespace Registration

def verdict (name : Text) (t : Template) : Except RegisterFault Unit := do
  if name.trim.isEmpty then .error .emptyName
  t.schema.validate name

theorem verdict_eq_error {r : Registration} {fault : RegisterFault} :
    verdict r.name r.template = .error fault ↔ r.Refused fault := by
  rw [verdict]
  by_cases blank : IsBlank r.name
  · rw [if_pos (trim_isEmpty.2 blank), Attempt.error_bind]
    constructor
    · rintro ⟨⟩
      exact .blank blank
    · rintro (_ | ⟨stated, _⟩)
      · rfl
      · exact absurd blank stated
  · rw [if_neg (mt trim_isEmpty.1 blank)]
    refine Schema.validate_eq_error.trans ⟨.schema blank, ?_⟩
    rintro (there | ⟨_, violates⟩)
    · exact absurd there blank
    · exact violates

end Registration

def Entry.said (e : Entry) : Text × Template := (e.name, e.template)

namespace Layout

def enter (name : Text) (t : Template) (l : Layout) : Layout × Except RegisterFault Unit :=
  match l.register name t with
  | .ok l' => (l', .ok ())
  | .error fault => (l, .error fault)

def enrol (l : Layout) (r : Registration) : Layout × Option (Except RegisterFault Unit) :=
  match l.edit (enter r.name r.template) r.path with
  | some (l', answer) => (l', some answer)
  | none => (l, none)

def after (l : Layout) (rs : List Registration) : Layout := rs.foldl (fun l r => (l.enrol r).1) l

def done (l : Layout) : List Registration → List Registration
  | [] => []
  | r :: rest =>
    match l.enrol r with
    | (l', some (.ok ())) => r :: l'.done rest
    | (l', _) => l'.done rest

variable {l : Layout} {path : List Text} {name : Text} {t : Template}

theorem enter_eq (name : Text) (t : Template) (l : Layout) :
    l.enter name t = match Registration.verdict name t with
      | .ok () => (l.put ⟨name, t, .empty name⟩, .ok ())
      | .error fault => (l, .error fault) := by
  have registered : l.register name t =
      (fun _ => l.put ⟨name, t, .empty name⟩) <$> Registration.verdict name t := by
    rw [register, Registration.verdict]
    split
    · rfl
    · cases t.schema.validate name <;> rfl
  rw [enter, registered]
  cases Registration.verdict name t <;> rfl

theorem enrol_nil (l : Layout) (name : Text) (t : Template) :
    l.enrol ⟨[], name, t⟩ = match Registration.verdict name t with
      | .ok () => (l.put ⟨name, t, .empty name⟩, some (.ok ()))
      | .error fault => (l, some (.error fault)) := by
  have here : l.enrol ⟨[], name, t⟩ = ((l.enter name t).1, some (l.enter name t).2) := rfl
  rw [here, enter_eq]
  cases Registration.verdict name t <;> rfl

theorem enrol_cons (l : Layout) (m : Text) (path : List Text) (name : Text) (t : Template) :
    (Keyed.get? m.lower l.entries = none ∧ l.enrol ⟨m :: path, name, t⟩ = (l, none)) ∨
    ∃ e, Keyed.get? m.lower l.entries = some e ∧
      (((e.inside.enrol ⟨path, name, t⟩).2 = none ∧ l.enrol ⟨m :: path, name, t⟩ = (l, none)) ∨
        ∃ inside answer, e.inside.enrol ⟨path, name, t⟩ = (inside, some answer) ∧
          l.enrol ⟨m :: path, name, t⟩ =
            (⟨l.name, Keyed.put m.lower { e with inside := inside } l.entries⟩, some answer)) := by
  simp only [enrol, edit, lookup?]
  cases Keyed.get? m.lower l.entries with
  | none => exact .inl ⟨rfl, rfl⟩
  | some e =>
    refine .inr ⟨e, rfl, ?_⟩
    cases inner : edit (enter name t) e.inside path with
    | none => exact .inl ⟨rfl, by simp [inner]⟩
    | some changed => exact .inr ⟨changed.1, changed.2, rfl, by simp [inner]⟩

/-! ## What is found at each level -/

def found? : Layout → List Text → Option Entry
  | _, [] => none
  | l, [k] => Keyed.get? k l.entries
  | l, k :: k' :: ks => (Keyed.get? k l.entries).bind fun e => e.inside.found? (k' :: ks)

theorem found?_cons {ks : List Text} (more : ks ≠ []) (l : Layout) (k : Text) :
    l.found? (k :: ks) = (Keyed.get? k l.entries).bind fun e => e.inside.found? ks := by
  cases ks with
  | nil => exact absurd rfl more
  | cons k' ks => rw [found?]

theorem found?_empty (name : Text) (ks : List Text) : (empty name).found? ks = none := by
  match ks with
  | [] => rfl
  | [k] => rfl
  | k :: k' :: ks => rfl

/-- After a registration that succeeds, it is found under its key, nothing is found inside of it,
and everything else is as it was. -/
theorem found?_enrol (l : Layout) (r : Registration) (ks : List Text) :
    ((l.enrol r).1.found? ks).map Entry.said =
      if (l.enrol r).2 = some (.ok ()) ∧ r.key <+: ks then
        if r.key = ks then some (r.name, r.template) else none
      else (l.found? ks).map Entry.said := by
  obtain ⟨path, name, t⟩ := r
  induction path generalizing l ks with
  | nil =>
    have key : Registration.key ⟨[], name, t⟩ = [name.lower] := rfl
    rw [enrol_nil, key]
    cases Registration.verdict name t with
    | error fault => simp
    | ok =>
      match ks with
      | [] => simp [found?]
      | [k] =>
        by_cases same : name.lower = k <;> simp [found?, put, Keyed.get?_put, Entry.said, same]
      | k :: k' :: ks =>
        by_cases same : name.lower = k <;> simp [found?, put, Keyed.get?_put, same, found?_empty]
  | cons m path ih =>
    have key :
        Registration.key ⟨m :: path, name, t⟩ = m.lower :: Registration.key ⟨path, name, t⟩ := rfl
    have deep : Registration.key ⟨path, name, t⟩ ≠ [] := by simp [Registration.key]
    rcases enrol_cons l m path name t with ⟨-, none⟩ |
      ⟨e, held, ⟨-, none⟩ | ⟨inside, answer, inner, changed⟩⟩
    · simp [none]
    · simp [none]
    · have below := ih e.inside
      rw [inner] at below
      rw [changed, key]
      match ks with
      | [] => simp [found?]
      | [k] =>
        by_cases same : m.lower = k
        · subst same
          simp [found?, Keyed.get?_put, Entry.said, deep, held]
        · simp [found?, Keyed.get?_put, same]
      | k :: k' :: ks =>
        by_cases same : m.lower = k
        · subst same
          simpa [found?, Keyed.get?_put, held] using below (k' :: ks)
        · simp [found?, Keyed.get?_put, same]

def Reachable (l : Layout) (level : List Text) : Prop := level = [] ∨ (l.found? level).isSome

theorem reachable_cons {k : Text} {level : List Text} :
    l.Reachable (k :: level) ↔ ∃ e, Keyed.get? k l.entries = some e ∧ e.inside.Reachable level := by
  rw [Reachable, or_iff_right (List.cons_ne_nil k level)]
  cases level with
  | nil => simp [found?, Reachable, Option.isSome_iff_exists]
  | cons k' level =>
    rw [found?_cons (List.cons_ne_nil k' level), Option.isSome_bind]
    simp [Reachable, Option.any_eq_true]

instance (l : Layout) (level : List Text) : Decidable (l.Reachable level) :=
  inferInstanceAs (Decidable (_ ∨ _))

theorem answer_enrol (l : Layout) (r : Registration) :
    (l.enrol r).2 =
      if l.Reachable r.level then some (Registration.verdict r.name r.template) else none := by
  obtain ⟨path, name, t⟩ := r
  induction path generalizing l with
  | nil =>
    rw [enrol_nil, if_pos (.inl rfl)]
    cases Registration.verdict name t <;> rfl
  | cons m path ih =>
    have level : Registration.level ⟨m :: path, name, t⟩ = m.lower :: path.map Text.lower := rfl
    rw [level]
    rcases enrol_cons l m path name t with ⟨missing, none⟩ | ⟨e, held, inner⟩
    · rw [none, if_neg]
      simp [reachable_cons, missing]
    · have reached : l.Reachable (m.lower :: path.map Text.lower) ↔
          e.inside.Reachable (path.map Text.lower) := by
        simp [reachable_cons, held]
      have said : (l.enrol ⟨m :: path, name, t⟩).2 = (e.inside.enrol ⟨path, name, t⟩).2 := by
        rcases inner with ⟨missing, none⟩ | ⟨inside, answer, answered, changed⟩
        · rw [none, missing]
        · rw [changed, answered]
      rw [said, ih]
      exact if_congr reached.symm rfl rfl

theorem name_enrol (l : Layout) (r : Registration) : (l.enrol r).1.name = l.name := by
  obtain ⟨path, name, t⟩ := r
  cases path with
  | nil =>
    rw [enrol_nil]
    cases Registration.verdict name t <;> rfl
  | cons m path =>
    rcases enrol_cons l m path name t with ⟨-, none⟩ | ⟨e, -, ⟨-, none⟩ | ⟨_, _, -, changed⟩⟩
    · rw [none]
    · rw [none]
    · rw [changed]

/-! ## Layouts as they can be made -/

inductive Sound : Layout → Prop
  | mk {l : Layout} : Keyed.Sorted l.entries →
      (∀ k e, Keyed.get? k l.entries = some e → e.name.lower = k) →
      (∀ k e, Keyed.get? k l.entries = some e → e.inside.name = e.name) →
      (∀ k e, Keyed.get? k l.entries = some e → Sound e.inside) → Sound l

theorem sound_empty (name : Text) : (empty name).Sound := .mk .nil nofun nofun nofun

theorem Sound.put (sound : l.Sound) {e : Entry} (named : e.inside.name = e.name)
    (inside : e.inside.Sound) : (l.put e).Sound := by
  obtain ⟨sorted, keys, names, below⟩ := sound
  refine .mk (sorted.put _ _) ?_ ?_ ?_ <;> intro k e' found <;>
    rw [Layout.put, Keyed.get?_put] at found <;> split at found
  · next same => cases found; exact same
  · exact keys k e' found
  · cases found; exact named
  · exact names k e' found
  · cases found; exact inside
  · exact below k e' found

theorem Sound.enrol (sound : l.Sound) (r : Registration) : (l.enrol r).1.Sound := by
  obtain ⟨path, name, t⟩ := r
  induction path generalizing l with
  | nil =>
    rw [enrol_nil]
    cases Registration.verdict name t with
    | error fault => exact sound
    | ok => exact sound.put rfl (sound_empty name)
  | cons m path ih =>
    rcases enrol_cons l m path name t with ⟨-, none⟩ |
      ⟨e, held, ⟨-, none⟩ | ⟨inside, _, inner, changed⟩⟩
    · rwa [none]
    · rwa [none]
    · rw [changed]
      obtain ⟨sorted, keys, names, below⟩ := id sound
      have after := ih (below _ e held)
      have named := name_enrol e.inside ⟨path, name, t⟩
      rw [inner] at after named
      rw [← keys _ e held]
      exact sound.put (e := { e with inside := inside }) (named.trans (names _ e held)) after

theorem Sound.eq_of_found? {l' : Layout} (sound : l.Sound) (sound' : l'.Sound)
    (name : l.name = l'.name)
    (same : ∀ ks, (l.found? ks).map Entry.said = (l'.found? ks).map Entry.said) : l = l' := by
  induction sound generalizing l' with
  | @mk l sorted keys names below ih =>
    obtain ⟨sorted', keys', names', below'⟩ := sound'
    have entries : l.entries = l'.entries := by
      refine sorted.eq_of_get?_eq sorted' fun k => ?_
      have here := same [k]
      rw [found?, found?] at here
      cases held : Keyed.get? k l.entries with
      | none =>
        rw [held] at here
        exact (Option.map_eq_none_iff.1 here.symm).symm
      | some e =>
        rw [held] at here
        obtain ⟨e', held', said⟩ := Option.map_eq_some_iff.1 here.symm
        rw [held', Option.some.injEq]
        have inside : e.inside = e'.inside := by
          refine ih k e held (below' k e' held') ?_ fun ks => ?_
          · rw [names k e held, names' k e' held']
            exact (congrArg Prod.fst said).symm
          · cases ks with
            | nil => rfl
            | cons k' ks => simpa [found?, held, held'] using same (k :: k' :: ks)
        obtain ⟨n, t, i⟩ := e
        obtain ⟨n', t', i'⟩ := e'
        cases said
        cases inside
        rfl
    obtain ⟨n, es⟩ := l
    obtain ⟨n', es'⟩ := l'
    cases name
    cases entries
    rfl

/-! ## Levels -/

variable {inner : Layout}

theorem spaceAt_cons_eq_ok {m : Text} :
    l.spaceAt (m :: path) = .ok inner ↔
      ∃ e, Keyed.get? m.lower l.entries = some e ∧ e.inside.spaceAt path = .ok inner := by
  rw [spaceAt, space, lookup?]
  cases Keyed.get? m.lower l.entries with
  | none => simp
  | some e => simp

theorem spaceAt_concat (l : Layout) (path : List Text) (name : Text) :
    l.spaceAt (path ++ [name]) = l.spaceAt path >>= (·.space name) := by
  induction path generalizing l with
  | nil =>
    rw [List.nil_append, spaceAt, spaceAt, Attempt.ok_bind]
    cases l.space name <;> rfl
  | cons m path ih =>
    rw [List.cons_append, spaceAt, spaceAt]
    cases l.space m with
    | error fault => rfl
    | ok inside => exact ih inside

theorem found?_concat (there : l.spaceAt path = .ok inner) (k : Text) :
    l.found? (path.map Text.lower ++ [k]) = Keyed.get? k inner.entries := by
  induction path generalizing l with
  | nil => cases there; rfl
  | cons m path ih =>
    obtain ⟨e, held, there⟩ := spaceAt_cons_eq_ok.1 there
    rw [List.map_cons, List.cons_append, found?_cons (by simp), held]
    exact ih there

theorem exists_level (l : Layout) (r : Registration) :
    (∃ inner, l.spaceAt r.path = .ok inner) ↔ l.Reachable r.level := by
  rw [Registration.level]
  induction r.path generalizing l with
  | nil => exact iff_of_true ⟨l, rfl⟩ (.inl rfl)
  | cons m path ih =>
    rw [List.map_cons, reachable_cons]
    simp only [spaceAt_cons_eq_ok, ← ih]
    constructor
    · rintro ⟨inner, e, held, there⟩
      exact ⟨e, held, inner, there⟩
    · rintro ⟨e, held, inner, there⟩
      exact ⟨inner, e, held, there⟩

theorem Sound.of_spaceAt (sound : l.Sound) (there : l.spaceAt path = .ok inner) : inner.Sound := by
  induction path generalizing l with
  | nil => cases there; exact sound
  | cons m path ih =>
    obtain ⟨e, held, there⟩ := spaceAt_cons_eq_ok.1 there
    cases sound with
    | mk _ _ _ below => exact ih (below _ e held) there

/-! ## Histories -/

theorem after_concat (l : Layout) (rs : List Registration) (r : Registration) :
    l.after (rs ++ [r]) = ((l.after rs).enrol r).1 := by
  simp [after]

theorem done_concat (l : Layout) (rs : List Registration) (r : Registration) :
    l.done (rs ++ [r]) =
      l.done rs ++ if ((l.after rs).enrol r).2 = some (.ok ()) then [r] else [] := by
  induction rs generalizing l with
  | nil =>
    rw [List.nil_append, done, done, after, List.foldl_nil]
    rcases l.enrol r with ⟨l', _ | _ | ⟨⟩⟩ <;> simp [done]
  | cons first rs ih =>
    have later : l.after (first :: rs) = (l.enrol first).1.after rs := rfl
    rw [later, List.cons_append, done, done]
    rcases l.enrol first with ⟨l', _ | _ | ⟨⟩⟩
    · exact ih l'
    · exact ih l'
    · exact congrArg (first :: ·) (ih l')

theorem sound_after (name : Text) (rs : List Registration) : ((empty name).after rs).Sound := by
  induction rs using List.reverseRecOn with
  | nil => exact sound_empty name
  | append_singleton rs r ih =>
    rw [after_concat]
    exact ih.enrol r

theorem findRev?_concat {α : Type} (p : α → Bool) (as : List α) (a : α) :
    (as ++ [a]).findRev? p = if p a then some a else as.findRev? p := by
  rw [List.findRev?_eq_find?_reverse, List.findRev?_eq_find?_reverse, List.reverse_append]
  cases holds : p a <;> simp [holds]

/-- The registrations since the level was last made, those of the level itself among them. -/
def since (level : List Text) (done : List Registration) : List Registration :=
  done.rtakeWhile fun r => ¬r.key <+: level

def last? (done : List Registration) (path : List Text) (name : Text) : Option Registration :=
  (since (path.map Text.lower) done).findRev? fun r =>
    r.level = path.map Text.lower ∧ r.name.lower = name.lower

theorem last?_eq (done : List Registration) (path : List Text) (name : Text) :
    last? done path name =
      (done.findRev? fun r => r.key <+: path.map Text.lower ++ [name.lower]).filter fun r =>
        r.key = path.map Text.lower ++ [name.lower] := by
  rw [last?, since]
  induction done using List.reverseRecOn with
  | nil => rfl
  | append_singleton done r ih =>
    have keyed : (r.level = path.map Text.lower ∧ r.name.lower = name.lower) ↔
        r.key = path.map Text.lower ++ [name.lower] := by
      rw [Registration.key, ← List.concat_eq_append, ← List.concat_eq_append, List.concat_inj]
    rw [findRev?_concat]
    by_cases same : r.key = path.map Text.lower ++ [name.lower]
    · have new : ¬r.key <+: path.map Text.lower := by
        intro before
        have shorter := before.length_le
        rw [same, List.length_append, List.length_singleton] at shorter
        omega
      rw [List.rtakeWhile_concat_pos _ _ _ (by simpa using new), findRev?_concat]
      simp [keyed, same, Option.filter]
    · by_cases before : r.key <+: path.map Text.lower
      · rw [List.rtakeWhile_concat_neg _ _ _ (by simpa using before)]
        simp [before.trans (List.prefix_append _ _), same, Option.filter]
      · rw [List.rtakeWhile_concat_pos _ _ _ (by simpa using before), findRev?_concat]
        have elsewhere : ¬r.key <+: path.map Text.lower ++ [name.lower] := by
          rw [List.prefix_concat_iff]
          simp [same, before]
        simpa [keyed, same, elsewhere] using ih

theorem found?_after (name : Text) (rs : List Registration) (ks : List Text) :
    (((empty name).after rs).found? ks).map Entry.said =
      (((((empty name).done rs).findRev? fun r => r.key <+: ks).filter (·.key = ks)).map
        fun r => (r.name, r.template)) := by
  induction rs using List.reverseRecOn with
  | nil => rw [after, List.foldl_nil, found?_empty]; rfl
  | append_singleton rs r ih =>
    rw [after_concat, done_concat, found?_enrol, ih]
    by_cases succeeds : (((empty name).after rs).enrol r).2 = some (.ok ())
    · rw [if_pos succeeds, findRev?_concat]
      by_cases above : r.key <+: ks
      · by_cases same : r.key = ks <;> simp [succeeds, above, same, Option.filter]
      · simp [above]
    · simp [succeeds]

variable {rs : List Registration}

theorem lookup?_after (there : ((empty name).after rs).spaceAt path = .ok inner) (n : Text) :
    (inner.lookup? n).map Entry.said =
      (last? ((empty name).done rs) path n).map fun r => (r.name, r.template) := by
  rw [lookup?, ← found?_concat there, found?_after, last?_eq]

/-! ## What a layout remembers -/

/-- Whether a layout is what was registered in it, by the registrations that succeeded. -/
structure Remembers (l : Layout) (done : List Registration) : Prop where
  found {path : List Text} {inner : Layout} {n : Text} {r : Registration} :
    l.spaceAt path = .ok inner → last? done path n = some r →
      ∃ inside, inner.lookup? n = some ⟨r.name, r.template, inside⟩ ∧
        inner.get? n = some r.template ∧ inner.contains n = true ∧ inner.space n = .ok inside ∧
        l.spaceAt (path ++ [n]) = .ok inside ∧ inside.name = r.name
  missing {path : List Text} {inner : Layout} {n : Text} :
    l.spaceAt path = .ok inner → last? done path n = none →
      inner.lookup? n = none ∧ inner.get? n = none ∧ inner.contains n = false ∧
        inner.space n = .error (.noNamespace n inner.name) ∧
        l.spaceAt (path ++ [n]) = .error (.noNamespace n inner.name)
  listed {path : List Text} {inner : Layout} : l.spaceAt path = .ok inner →
    (inner.list.map Text.lower).Pairwise (· < ·) ∧
      ∀ n, n ∈ inner.list ↔ ∃ r, last? done path n = some r ∧ r.name = n
  answered (r : Registration) : (l.enrol r).2 = none ↔ ¬∃ inner, l.spaceAt r.path = .ok inner
  faulty (r : Registration) (fault : RegisterFault) : (l.enrol r).2 = some (.error fault) ↔
    (∃ inner, l.spaceAt r.path = .ok inner) ∧ r.Refused fault
  /-- A registration that does not succeed changes nothing. -/
  kept (r : Registration) : (l.enrol r).2 ≠ some (.ok ()) → (l.enrol r).1 = l
  /-- Two registrations can be made in either order if they are apart, as those of different names
  at one level are (`Registration.apart_of_level`). -/
  commute {r r' : Registration} : r.Apart r' →
    ((l.enrol r).1.enrol r').1 = ((l.enrol r').1.enrol r).1 ∧
      ((l.enrol r).1.enrol r').2 = (l.enrol r').2 ∧ ((l.enrol r').1.enrol r).2 = (l.enrol r).2

theorem Sound.enrol_of_ne_ok (sound : l.Sound) {r : Registration}
    (failed : (l.enrol r).2 ≠ some (.ok ())) : (l.enrol r).1 = l := by
  refine (sound.enrol r).eq_of_found? sound (name_enrol l r) fun ks => ?_
  rw [found?_enrol, if_neg fun succeeds => failed succeeds.1]

theorem answer_enrol_apart (l : Layout) {r r' : Registration} (apart : r.Apart r') :
    ((l.enrol r).1.enrol r').2 = (l.enrol r').2 := by
  have level : ((l.enrol r).1.found? r'.level).isSome = (l.found? r'.level).isSome := by
    have above : ¬r.key <+: r'.level := fun inside =>
      apart.above (inside.trans (List.prefix_append _ _))
    have said := congrArg Option.isSome (found?_enrol l r r'.level)
    simpa [above] using said
  rw [answer_enrol, answer_enrol]
  exact if_congr (by rw [Reachable, Reachable, level]) rfl rfl

theorem Sound.enrol_comm (sound : l.Sound) {r r' : Registration} (apart : r.Apart r') :
    ((l.enrol r).1.enrol r').1 = ((l.enrol r').1.enrol r).1 := by
  refine ((sound.enrol r).enrol r').eq_of_found? ((sound.enrol r').enrol r) ?_ fun ks => ?_
  · simp only [name_enrol]
  · rw [found?_enrol, found?_enrol, found?_enrol, found?_enrol, answer_enrol_apart l apart,
      answer_enrol_apart l apart.symm]
    -- no keys have both of the registrations above them
    have once : ¬(r.key <+: ks ∧ r'.key <+: ks) := by
      rintro ⟨first, second⟩
      exact (List.prefix_or_prefix_of_prefix first second).elim apart.above apart.below
    by_cases first : r.key <+: ks
    · have second : ¬r'.key <+: ks := fun second => once ⟨first, second⟩
      simp [second]
    · simp [first]

theorem Sound.mem_list (sound : l.Sound) {n : Text} :
    n ∈ l.list ↔ ∃ e, l.lookup? n = some e ∧ e.name = n := by
  obtain ⟨sorted, keys, -, -⟩ := sound
  rw [list, List.mem_map]
  constructor
  · rintro ⟨⟨k, e⟩, member, rfl⟩
    have held := (Keyed.get?_eq_some sorted.distinct).2 member
    exact ⟨e, by rwa [lookup?, keys k e held], rfl⟩
  · rintro ⟨e, held, named⟩
    exact ⟨(n.lower, e), (Keyed.get?_eq_some sorted.distinct).1 held, named⟩

theorem Sound.list_sorted (sound : l.Sound) : (l.list.map Text.lower).Pairwise (· < ·) := by
  obtain ⟨sorted, keys, -, -⟩ := sound
  rw [list, List.map_map]
  have own : l.entries.map (Text.lower ∘ (·.2.name)) = l.entries.map (·.1) :=
    List.map_congr_left fun e member => keys e.1 e.2 ((Keyed.get?_eq_some sorted.distinct).2 member)
  rw [own]
  exact List.pairwise_map.2 sorted

/-- After any registrations, a layout is what was registered in it. -/
theorem remembers_after (name : Text) (rs : List Registration) :
    ((empty name).after rs).Remembers ((empty name).done rs) := by
  have sound := sound_after name rs
  constructor
  case found =>
    intro path inner n r there last
    have said := lookup?_after there n
    rw [last, Option.map_some, Option.map_eq_some_iff] at said
    obtain ⟨⟨name', template', inside⟩, held, same⟩ := said
    cases same
    have named : inside.name = r.name := by
      cases sound.of_spaceAt there with
      | mk _ _ names _ => exact names _ _ held
    have space : inner.space n = .ok inside := by rw [space, held]
    refine ⟨inside, held, ?_, ?_, space, ?_, named⟩
    · rw [get?, held]; rfl
    · rw [contains, held]; rfl
    · rw [spaceAt_concat, there, Attempt.ok_bind, space]
  case missing =>
    intro path inner n there last
    have said := lookup?_after there n
    rw [last, Option.map_none, Option.map_eq_none_iff] at said
    have space : inner.space n = .error (.noNamespace n inner.name) := by rw [space, said]
    refine ⟨said, ?_, ?_, space, ?_⟩
    · rw [get?, said]; rfl
    · rw [contains, said]; rfl
    · rw [spaceAt_concat, there, Attempt.ok_bind, space]
  case listed =>
    intro path inner there
    have sound := sound.of_spaceAt there
    refine ⟨sound.list_sorted, fun n => sound.mem_list.trans ?_⟩
    have said := lookup?_after there n
    constructor
    · rintro ⟨e, held, named⟩
      rw [held, Option.map_some, eq_comm, Option.map_eq_some_iff] at said
      obtain ⟨r, last, same⟩ := said
      exact ⟨r, last, (congrArg Prod.fst same).trans named⟩
    · rintro ⟨r, last, named⟩
      rw [last, Option.map_some, Option.map_eq_some_iff] at said
      obtain ⟨e, held, same⟩ := said
      exact ⟨e, held, (congrArg Prod.fst same).trans named⟩
  case answered =>
    intro r
    rw [answer_enrol, exists_level]
    split
    · next there => exact iff_of_false nofun (not_not_intro there)
    · next missing => exact iff_of_true rfl missing
  case faulty =>
    intro r fault
    rw [answer_enrol, exists_level, ← Registration.verdict_eq_error]
    split
    · next there => rw [Option.some.injEq, and_iff_right there]
    · next missing => exact iff_of_false nofun fun reached => missing reached.1
  case kept => exact fun r => sound.enrol_of_ne_ok
  case commute =>
    exact fun apart => ⟨sound.enrol_comm apart, answer_enrol_apart _ apart,
      answer_enrol_apart _ apart.symm⟩

end Layout
end Inlay.Render
