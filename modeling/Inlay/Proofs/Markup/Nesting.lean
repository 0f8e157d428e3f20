import Inlay.Proofs.Markup.Descent
import Inlay.Proofs.Markup.Entry

namespace Inlay.Markup
open Attempt

namespace Entry

def inside (e : Entry) (es : List Entry) : List Entry := es.takeWhile (e.level < ·.level)

def beyond (e : Entry) (es : List Entry) : List Entry := es.dropWhile (e.level < ·.level)

theorem inside_append_beyond (e : Entry) (es : List Entry) : e.inside es ++ e.beyond es = es :=
  List.takeWhile_append_dropWhile

theorem level_lt_of_inside {e x : Entry} {es : List Entry} (h : x ∈ e.inside es) :
    e.level < x.level :=
  of_decide_eq_true (List.all_eq_true.1 List.all_takeWhile x h)

theorem level_le_of_beyond {e x : Entry} {es : List Entry} (h : x ∈ (e.beyond es).head?) :
    x.level ≤ e.level := by
  have stop := List.head?_dropWhile_not (fun x : Entry => decide (e.level < x.level)) es
  rw [show (es.dropWhile fun x => decide (e.level < x.level)).head? = some x from h] at stop
  exact Nat.not_lt.1 (of_decide_eq_false stop)

theorem beyond_subset (e : Entry) (es : List Entry) : e.beyond es ⊆ es :=
  List.dropWhile_subset _

theorem length_inside_le (e : Entry) (es : List Entry) : (e.inside es).length ≤ es.length :=
  (List.takeWhile_prefix _).length_le

theorem length_beyond_le (e : Entry) (es : List Entry) : (e.beyond es).length ≤ es.length :=
  (List.dropWhile_suffix _).length_le

end Entry

/-- Entries with the entries below each of them, and those beside them after that. -/
inductive Forest
  | nil
  | node (entry : Entry) (below rest : Forest)

namespace Forest

def flatten : Forest → List Entry
  | nil => []
  | node e below rest => e :: (below.flatten ++ rest.flatten)

def parents (parent : Option Nat) (position : Nat) : Forest → List (Option Nat)
  | nil => []
  | node _ below rest =>
    parent :: (below.parents (some position) (position + 1) ++
      rest.parents parent (position + 1 + below.flatten.length))

def ofEntries : List Entry → Forest
  | [] => nil
  | e :: es =>
    if e.item.opens then node e (ofEntries (e.inside es)) (ofEntries (e.beyond es))
    else node e nil (ofEntries es)
termination_by es => es.length
decreasing_by
  · exact Nat.lt_succ_of_le (e.length_inside_le es)
  · exact Nat.lt_succ_of_le (e.length_beyond_le es)
  · exact Nat.lt_succ_self _

mutual

def nodes? : Forest → Option (List Node)
  | nil => some []
  | node ⟨_, .component name location⟩ below rest => do
    let (properties, children) ← below.contents?
    let nodes ← rest.nodes?
    some (.component ⟨name, properties, children, location⟩ :: nodes)
  | node ⟨_, .text value⟩ nil rest => do
    let nodes ← rest.nodes?
    some (.text value :: nodes)
  | _ => none

def contents? : Forest → Option (List Property × List Node)
  | nil => some ([], [])
  | node ⟨_, .component name location⟩ below rest => do
    let (inner, under) ← below.contents?
    let (properties, children) ← rest.contents?
    some (properties, .component ⟨name, inner, under, location⟩ :: children)
  | node ⟨_, .text value⟩ nil rest => do
    let (properties, children) ← rest.contents?
    some (properties, .text value :: children)
  | node ⟨_, .flag name⟩ nil rest => do
    let (properties, children) ← rest.contents?
    some (⟨name, .flag⟩ :: properties, children)
  | node ⟨_, .string name value⟩ nil rest => do
    let (properties, children) ← rest.contents?
    some (⟨name, .string value⟩ :: properties, children)
  | node ⟨_, .number name value⟩ nil rest => do
    let (properties, children) ← rest.contents?
    some (⟨name, .string value⟩ :: properties, children)
  | node ⟨_, .block name opening⟩ below rest => do
    let nodes ← below.nodes?
    let value ← (Parser.blockValue nodes opening).toOption
    let (properties, children) ← rest.contents?
    some (⟨name, value⟩ :: properties, children)
  | _ => none

end

theorem forall_flatten_node {p : Entry → Prop} {e : Entry} {below rest : Forest} :
    (∀ x ∈ (node e below rest).flatten, p x) ↔
      p e ∧ (∀ x ∈ below.flatten, p x) ∧ ∀ x ∈ rest.flatten, p x := by
  rw [flatten, List.forall_mem_cons, List.forall_mem_append]

-- The cases are the ways in which a forest makes nodes, or the contents of a component.
theorem made_induction {p : Forest → List Node → Prop}
    {q : Forest → List Property → List Node → Prop}
    (nodes : p nil [])
    (component : ∀ {level name location below rest ps under ns}, q below ps under → p rest ns →
      p (node ⟨level, .component name location⟩ below rest)
        (.component ⟨name, ps, under, location⟩ :: ns))
    (text : ∀ {level s rest ns}, p rest ns → p (node ⟨level, .text s⟩ nil rest) (.text s :: ns))
    (contents : q nil [] [])
    (child : ∀ {level name location below rest inner under ps ns}, q below inner under →
      q rest ps ns → q (node ⟨level, .component name location⟩ below rest) ps
        (.component ⟨name, inner, under, location⟩ :: ns))
    (line : ∀ {level s rest ps ns}, q rest ps ns →
      q (node ⟨level, .text s⟩ nil rest) ps (.text s :: ns))
    (flag : ∀ {level name rest ps ns}, q rest ps ns →
      q (node ⟨level, .flag name⟩ nil rest) (⟨name, .flag⟩ :: ps) ns)
    (string : ∀ {level name s rest ps ns}, q rest ps ns →
      q (node ⟨level, .string name s⟩ nil rest) (⟨name, .string s⟩ :: ps) ns)
    (number : ∀ {level name s rest ps ns}, q rest ps ns →
      q (node ⟨level, .number name s⟩ nil rest) (⟨name, .string s⟩ :: ps) ns)
    (block : ∀ {level name opening below rest inner v ps ns}, p below inner →
      Parser.blockValue inner opening = .ok v → q rest ps ns →
      q (node ⟨level, .block name opening⟩ below rest) (⟨name, v⟩ :: ps) ns) (f : Forest) :
    (∀ ns, f.nodes? = some ns → p f ns) ∧ ∀ ps ns, f.contents? = some (ps, ns) → q f ps ns := by
  induction f with
  | nil =>
    refine ⟨fun ns made => ?_, fun ps ns made => ?_⟩
    · cases made
      exact nodes
    · cases made
      exact contents
  | node e below rest ihBelow ihRest =>
    obtain ⟨level, item⟩ := e
    refine ⟨fun ns made => ?_, fun ps ns made => ?_⟩
    · cases item with
      | component name location =>
        simp only [nodes?, Option.bind_eq_bind, Option.bind_eq_some_iff, Prod.exists] at made
        obtain ⟨ps, under, inner, more, after, same⟩ := made
        cases same
        exact component (ihBelow.2 _ _ inner) (ihRest.1 _ after)
      | text s =>
        cases below with
        | nil =>
          simp only [nodes?, Option.bind_eq_bind, Option.bind_eq_some_iff] at made
          obtain ⟨more, after, same⟩ := made
          cases same
          exact text (ihRest.1 _ after)
        | node => cases made
      | _ => cases below <;> cases made
    · cases item with
      | component name location =>
        simp only [contents?, Option.bind_eq_bind, Option.bind_eq_some_iff, Prod.exists] at made
        obtain ⟨inners, under, inner, ps, more, after, same⟩ := made
        cases same
        exact child (ihBelow.2 _ _ inner) (ihRest.2 _ _ after)
      | block name opening =>
        simp only [contents?, Option.bind_eq_bind, Option.bind_eq_some_iff, Prod.exists] at made
        obtain ⟨inner, nodes, v, value, ps, more, after, same⟩ := made
        cases same
        have value : Parser.blockValue inner opening = .ok v := by
          cases found : Parser.blockValue inner opening with
          | error e => rw [found] at value; cases value
          | ok v' => rw [found] at value; cases value; rfl
        exact block (ihBelow.1 _ nodes) value (ihRest.2 _ _ after)
      | _ =>
        cases below with
        | nil =>
          simp only [contents?, Option.bind_eq_bind, Option.bind_eq_some_iff, Prod.exists] at made
          obtain ⟨ps, more, after, same⟩ := made
          cases same
          first
            | exact line (ihRest.2 _ _ after)
            | exact flag (ihRest.2 _ _ after)
            | exact string (ihRest.2 _ _ after)
            | exact number (ihRest.2 _ _ after)
        | node => cases made

end Forest

def holder? (level : Nat) : List Entry → Option Nat
  | [] => none
  | e :: earlier =>
    if e.item.opens ∧ e.level < level then some earlier.length
    else holder? (min level e.level) earlier

def holders (earlier : List Entry) : List Entry → List (Option Nat)
  | [] => []
  | e :: es => holder? e.level earlier :: holders (e :: earlier) es

namespace Forest

theorem ofEntries_open {e : Entry} (opens : e.item.opens) (es : List Entry) :
    ofEntries (e :: es) = node e (ofEntries (e.inside es)) (ofEntries (e.beyond es)) := by
  rw [ofEntries, if_pos opens]

theorem ofEntries_leaf {e : Entry} (leaf : ¬e.item.opens) (es : List Entry) :
    ofEntries (e :: es) = node e nil (ofEntries es) := by
  rw [ofEntries, if_neg leaf]

theorem flatten_ofEntries (es : List Entry) : (ofEntries es).flatten = es := by
  fun_induction ofEntries es with
  | case1 => rfl
  | case2 e es opens below rest => simp [flatten, below, rest, e.inside_append_beyond]
  | case3 e es leaf rest => simp [flatten, rest]

theorem holder?_skip {level : Nat} {es earlier : List Entry} (deep : ∀ e ∈ es, level ≤ e.level) :
    holder? level (es ++ earlier) = holder? level earlier := by
  induction es with
  | nil => rfl
  | cons e es ih =>
    have here : level ≤ e.level := deep e List.mem_cons_self
    rw [List.cons_append, holder?, if_neg (by omega), Nat.min_eq_left here]
    exact ih fun x member => deep x (List.mem_cons_of_mem e member)

theorem holders_append (earlier a b : List Entry) :
    holders earlier (a ++ b) = holders earlier a ++ holders (a.reverse ++ earlier) b := by
  induction a generalizing earlier with
  | nil => rfl
  | cons e a ih => simp [holders, ih]

theorem parents_ofEntries {parent : Option Nat} {es earlier : List Entry}
    (beside : ∀ first ∈ es.head?, ∀ x ∈ es, x.level ≤ first.level →
      holder? x.level earlier = parent) :
    (ofEntries es).parents parent earlier.length = holders earlier es := by
  match es with
  | [] => simp [ofEntries, parents, holders]
  | e :: es =>
    have here : holder? e.level earlier = parent :=
      beside e rfl e List.mem_cons_self (Nat.le_refl _)
    have later : ∀ x ∈ es, x.level ≤ e.level → holder? x.level earlier = parent :=
      fun x member => beside e rfl x (List.mem_cons_of_mem e member)
    by_cases opens : e.item.opens
    · have inner : (ofEntries (e.inside es)).parents (some earlier.length) (e :: earlier).length =
          holders (e :: earlier) (e.inside es) := by
        have := e.length_inside_le es
        refine parents_ofEntries fun _ _ x member _ => ?_
        rw [holder?, if_pos ⟨opens, Entry.level_lt_of_inside member⟩]
      have after : (ofEntries (e.beyond es)).parents parent
            ((e.inside es).reverse ++ e :: earlier).length =
          holders ((e.inside es).reverse ++ e :: earlier) (e.beyond es) := by
        have := e.length_beyond_le es
        refine parents_ofEntries fun first isFirst x member shallow => ?_
        have stop := Nat.le_trans shallow (Entry.level_le_of_beyond isFirst)
        have between : ∀ y ∈ (e.inside es).reverse, x.level ≤ y.level := by
          intro y member
          have := Entry.level_lt_of_inside (List.mem_reverse.1 member)
          omega
        rw [holder?_skip between, holder?, if_neg (by omega), Nat.min_eq_left stop]
        exact later x (e.beyond_subset es member) stop
      rw [ofEntries_open opens, parents, holders, here, flatten_ofEntries]
      have length : earlier.length + 1 + (e.inside es).length =
          ((e.inside es).reverse ++ e :: earlier).length := by
        simp only [List.length_append, List.length_reverse, List.length_cons]
        omega
      rw [length, after, ← List.length_cons, inner, ← holders_append, e.inside_append_beyond]
    · have after : (ofEntries es).parents parent (e :: earlier).length =
          holders (e :: earlier) es := by
        refine parents_ofEntries fun _ _ x member _ => ?_
        rw [holder?, if_neg fun h => opens h.1]
        rcases Nat.le_total x.level e.level with le | le
        · rw [Nat.min_eq_left le]
          exact later x member le
        · rw [Nat.min_eq_right le]
          exact here
      rw [ofEntries_leaf opens, parents, holders, here, ← after]
      rfl
termination_by es.length

end Forest

namespace Stack

def absorb (f : Forest) : Stack → Option Stack
  | root nodes => f.nodes?.map fun more => root (nodes ++ more)
  | component c below => f.contents?.map fun contents => component (c.extend contents) below
  | block b owner below =>
    f.nodes?.map fun more => block { b with nodes := b.nodes ++ more } owner below

def hold (e : Entry) (f : Forest) (s : Stack) : Option Stack :=
  match e.item, f, s with
  | .component name location, f, s =>
    f.contents?.map fun (properties, children) =>
      s.addNode (.component ⟨name, properties, children, location⟩)
  | .block name opening, f, component c below => do
    let nodes ← f.nodes?
    let value ← (Parser.blockValue nodes opening).toOption
    some (component (c.addProperty ⟨name, value⟩) below)
  | .block .., _, _ => none
  | _, .nil, s => s.put e
  | _, _, _ => none

theorem absorb_nil (s : Stack) : s.absorb .nil = some s := by
  cases s <;> simp [absorb, Forest.nodes?, Forest.contents?, OpenComponent.extend]

theorem absorb_node (s : Stack) (e : Entry) (below rest : Forest) :
    s.absorb (.node e below rest) = (s.hold e below).bind fun s => s.absorb rest := by
  obtain ⟨level, item⟩ := e
  cases item with
  | component name location =>
    cases s with
    | component c under =>
      simp only [absorb, hold, Forest.contents?]
      cases below.contents? <;> cases rest.contents? <;>
        simp [addNode, OpenComponent.extend, *]
    | _ =>
      simp only [absorb, hold, Forest.nodes?]
      cases below.contents? <;> cases rest.nodes? <;> simp [addNode, *]
  | block name opening =>
    cases s with
    | component c under =>
      simp only [absorb, hold, Forest.contents?]
      cases below.nodes? with
      | none => rfl
      | some nodes =>
        cases value : (Parser.blockValue nodes opening).toOption <;> cases rest.contents? <;>
          simp [OpenComponent.extend, OpenComponent.addProperty, *]
    | _ => simp [absorb, hold, Forest.nodes?]
  | text value =>
    cases below with
    | nil =>
      cases s with
      | component c under =>
        simp only [absorb, hold, put, addNode, Forest.contents?]
        cases rest.contents? <;> simp [OpenComponent.extend, *]
      | _ =>
        simp only [absorb, hold, put, addNode, Forest.nodes?]
        cases rest.nodes? <;> simp [*]
    | node => cases s <;> simp [absorb, hold, Forest.nodes?, Forest.contents?]
  | _ =>
    cases below with
    | nil =>
      cases s with
      | component c under =>
        simp only [absorb, hold, put, Forest.contents?]
        cases rest.contents? <;>
          simp [OpenComponent.extend, OpenComponent.addProperty, *]
      | _ => simp [absorb, hold, put, Forest.nodes?]
    | node => cases s <;> simp [absorb, hold, Forest.nodes?, Forest.contents?]

theorem fill_component {c : OpenComponent} {es : List Entry}
    (shallow : ∀ e ∈ es.head?, e.level ≤ c.level) (below : Stack) :
    (component c below).fill es = (below.addNode c.node).fill es := by
  cases es with
  | nil => simp only [fill, close_component (Nat.zero_le _)]
  | cons e es => simp only [fill, close_component (shallow e rfl)]

theorem fill_block {b : OpenBlock} {es : List Entry} (shallow : ∀ e ∈ es.head?, e.level ≤ b.level)
    (owner : OpenComponent) (below : Stack) :
    (block b owner below).fill es =
      (Parser.blockValue b.nodes b.opening).toOption.bind fun value =>
        (component (owner.addProperty ⟨b.name, value⟩) below).fill es := by
  cases es with
  | nil =>
    simp only [fill, close_block (Nat.zero_le _)]
    cases Parser.blockValue b.nodes b.opening <;> rfl
  | cons e es =>
    simp only [fill, close_block (shallow e rfl)]
    cases Parser.blockValue b.nodes b.opening <;> rfl

theorem Under.mono {s : Stack} {a b : Nat} (h : s.Under a) (le : a ≤ b) : s.Under b := by
  cases s with
  | root nodes => trivial
  | component c below => exact Nat.lt_of_lt_of_le h le
  | block b owner below => exact Nat.lt_of_lt_of_le h le

theorem under_hold {s s' : Stack} {e : Entry} {f : Forest} {level : Nat}
    (h : s.hold e f = some s') : s'.Under level ↔ s.Under level := by
  obtain ⟨l, item⟩ := e
  cases item with
  | component name location =>
    obtain ⟨contents, -, rfl⟩ := Option.map_eq_some_iff.1 h
    exact under_addNode
  | block name opening =>
    cases s with
    | component c below =>
      simp only [hold, Option.bind_eq_bind, Option.bind_eq_some_iff] at h
      obtain ⟨nodes, -, value, -, same⟩ := h
      cases same
      rfl
    | _ => cases h
  | text value =>
    cases f with
    | nil => cases h; exact under_addNode
    | node => cases h
  | _ =>
    cases f with
    | nil =>
      cases s with
      | component c below => cases h; rfl
      | _ => cases h
    | node => cases h

theorem under_put {s s' : Stack} {e : Entry} {level : Nat} (opens : e.item.opens)
    (h : s.put e = some s') : s'.Under level ↔ e.level < level := by
  obtain ⟨l, item⟩ := e
  cases item with
  | component name location => cases h; rfl
  | block name opening =>
    cases s with
    | component c below => cases h; rfl
    | _ => cases h
  | _ => cases opens

theorem fill_owner {s : Stack} {e : Entry} (opens : e.item.opens) {es after : List Entry}
    (inner : ∀ s' : Stack, s.put e = some s' → s'.fill (e.inside es ++ (e.beyond es ++ after)) =
      (s'.absorb (Forest.ofEntries (e.inside es))).bind (·.fill (e.beyond es ++ after)))
    (shallow : ∀ x ∈ (e.beyond es ++ after).head?, x.level ≤ e.level) :
    ((s.put e).bind fun s => s.fill (es ++ after)) =
      (s.hold e (Forest.ofEntries (e.inside es))).bind fun s => s.fill (e.beyond es ++ after) := by
  have whole : es ++ after = e.inside es ++ (e.beyond es ++ after) := by
    rw [← List.append_assoc, e.inside_append_beyond]
  obtain ⟨level, item⟩ := e
  cases item with
  | component name location =>
    simp only [put, hold, Option.bind_some]
    rw [whole, inner _ rfl, absorb]
    cases (Forest.ofEntries _).contents? with
    | none => rfl
    | some contents =>
      simp only [Option.map_some, Option.bind_some]
      rw [fill_component shallow]
      rfl
  | block name opening =>
    cases s with
    | component c below =>
      simp only [put, hold, Option.bind_some]
      rw [whole, inner _ rfl, absorb]
      cases (Forest.ofEntries _).nodes? with
      | none => rfl
      | some nodes =>
        simp only [Option.map_some, Option.bind_some, Option.bind_eq_bind, Option.bind_assoc]
        rw [fill_block shallow]
        rfl
    | _ => rfl
  | _ => cases opens

theorem hold_leaf {s : Stack} {e : Entry} (leaf : ¬e.item.opens) : s.hold e .nil = s.put e := by
  obtain ⟨level, item⟩ := e
  cases item with
  | component name location => exact absurd rfl leaf
  | block name opening => exact absurd rfl leaf
  | _ => rfl

theorem fill_ofEntries {s : Stack} {es after : List Entry} (inside : ∀ x ∈ es, s.Under x.level)
    (outside : ∀ x ∈ after.head?, ¬s.Under x.level) :
    s.fill (es ++ after) = (s.absorb (.ofEntries es)).bind (·.fill after) := by
  match es with
  | [] => rw [List.nil_append, Forest.ofEntries, absorb_nil, Option.bind_some]
  | e :: es =>
    have here := inside e List.mem_cons_self
    -- What holds the entries after `e` is the same owner with `e` in it.
    have next {f : Forest} {rest : List Entry} (part : rest ⊆ es)
      (shorter : rest.length ≤ es.length) :
        ((s.hold e f).bind fun s => s.fill (rest ++ after)) =
          (s.hold e f).bind fun s => (s.absorb (.ofEntries rest)).bind (·.fill after) := by
      refine Option.bind_congr fun s' held => ?_
      have same : ∀ level, s'.Under level ↔ s.Under level := fun _ => under_hold held
      refine fill_ofEntries (fun x member => ?_) (fun x head => ?_)
      · exact (same _).2 (inside x (List.mem_cons_of_mem e (part member)))
      · exact fun under => outside x head ((same _).1 under)
    rw [List.cons_append, fill, close_of_under here]
    simp only [Except.toOption, Option.bind_some]
    by_cases opens : e.item.opens
    · have shallow : ∀ x ∈ (e.beyond es ++ after).head?, x.level ≤ e.level := by
        intro x head
        cases beyond : e.beyond es with
        | nil =>
          rw [beyond, List.nil_append] at head
          exact Nat.not_lt.1 fun deep => outside x head (here.mono (Nat.le_of_lt deep))
        | cons y ys =>
          rw [beyond] at head
          exact Entry.level_le_of_beyond (by rw [beyond]; exact head)
      have inner : ∀ s' : Stack, s.put e = some s' →
          s'.fill (e.inside es ++ (e.beyond es ++ after)) =
            (s'.absorb (.ofEntries (e.inside es))).bind (·.fill (e.beyond es ++ after)) := by
        intro s' put
        have := e.length_inside_le es
        refine fill_ofEntries (fun x member => ?_) (fun x head => ?_)
        · exact (under_put opens put).2 (Entry.level_lt_of_inside member)
        · exact fun under => Nat.not_lt.2 (shallow x head) ((under_put opens put).1 under)
      rw [fill_owner opens inner shallow, next (e.beyond_subset es) (e.length_beyond_le es),
        Forest.ofEntries_open opens, absorb_node, Option.bind_assoc]
    · rw [Forest.ofEntries_leaf opens, absorb_node, hold_leaf opens, Option.bind_assoc,
        ← hold_leaf opens, next (fun _ member => member) (Nat.le_refl _)]
termination_by es.length

theorem fill_root (es : List Entry) : (root []).fill es = (Forest.ofEntries es).nodes? := by
  have whole : (root []).fill (es ++ []) = ((root []).absorb (.ofEntries es)).bind (·.fill []) :=
    fill_ofEntries (fun _ _ => trivial) (fun _ head => nomatch head)
  rw [List.append_nil] at whole
  rw [whole, absorb, Option.bind_map]
  cases (Forest.ofEntries es).nodes? with
  | none => rfl
  | some nodes => simp [fill, close, Except.toOption, Stack.nodes]

end Stack

theorem Document.toOption_ofStream (s : Stream) :
    (Document.ofStream s).toOption.map (·.nodes) =
      (s.entries? (.item 0)).bind fun es => (Forest.ofEntries es).nodes? := by
  rw [← Machine.run_eq_ofStream, Machine.run_eq_fill]
  refine Option.bind_congr fun es _ => ?_
  exact Stack.fill_root es

theorem parse_eq_ok {s : Text} {d : Document} :
    parse s = .ok d ↔ ∃ es, (Stream.ofText s).entries? (.item 0) = some es ∧
      (Forest.ofEntries es).nodes? = some d.nodes := by
  have document := Document.toOption_ofStream (.ofText s)
  rw [← Option.bind_eq_some_iff, ← document]
  show parse s = .ok d ↔ (parse s).toOption.map (·.nodes) = some d.nodes
  cases parse s with
  | error e => simp [Except.toOption]
  | ok d' =>
    obtain ⟨ns⟩ := d
    obtain ⟨ns'⟩ := d'
    simp [Except.toOption]

end Inlay.Markup
