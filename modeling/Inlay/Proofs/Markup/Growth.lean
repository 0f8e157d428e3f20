import Inlay.Proofs.Attempt
import Inlay.Proofs.Markup.Descent
import Inlay.Proofs.Markup.Lexical

namespace Inlay.Markup

mutual

def Component.components : Component → List Component
  | ⟨name, properties, children, location⟩ =>
    ⟨name, properties, children, location⟩ ::
      (propertiesComponents properties ++ nodesComponents children)

def propertiesComponents : List Property → List Component
  | [] => []
  | ⟨_, value⟩ :: rest => value.components ++ propertiesComponents rest

def Value.components : Value → List Component
  | .component inner => inner.components
  | _ => []

def nodesComponents : List Node → List Component
  | [] => []
  | .text _ :: rest => nodesComponents rest
  | .component inner :: rest => inner.components ++ nodesComponents rest

end

def Document.components (d : Document) : List Component := nodesComponents d.nodes

theorem propertiesComponents_append (ps qs : List Property) :
    propertiesComponents (ps ++ qs) = propertiesComponents ps ++ propertiesComponents qs := by
  induction ps with
  | nil => rfl
  | cons p ps ih =>
    obtain ⟨name, value⟩ := p
    rw [List.cons_append, propertiesComponents, propertiesComponents, ih, List.append_assoc]

theorem nodesComponents_append (ns ms : List Node) :
    nodesComponents (ns ++ ms) = nodesComponents ns ++ nodesComponents ms := by
  induction ns with
  | nil => rfl
  | cons n ns ih =>
    cases n with
    | text s => exact ih
    | component inner =>
      rw [List.cons_append, nodesComponents, nodesComponents, ih, List.append_assoc]

theorem nodesComponents_of_text {ns : List Node} (texts : ns.filterMap Node.component? = []) :
    nodesComponents ns = [] := by
  induction ns with
  | nil => rfl
  | cons n ns ih =>
    cases n with
    | text s => exact ih texts
    | component inner => cases texts

structure Component.Grows (c c' : Component) : Prop where
  name : c'.name = c.name
  location : c'.location = c.location
  properties : c.properties <+: c'.properties
  children : c.children <+: c'.children

def Kept (cs cs' : List Component) : Prop := ∀ c ∈ cs, ∃ c' ∈ cs', c.Grows c'

theorem Component.Grows.refl (c : Component) : c.Grows c :=
  ⟨rfl, rfl, List.prefix_rfl, List.prefix_rfl⟩

theorem Component.Grows.trans {c c' c'' : Component} (first : c.Grows c') (later : c'.Grows c'') :
    c.Grows c'' :=
  ⟨later.name.trans first.name, later.location.trans first.location,
    first.properties.trans later.properties, first.children.trans later.children⟩

namespace Kept

variable {cs cs' cs'' ds ds' : List Component}

theorem of_subset (subset : cs ⊆ cs') : Kept cs cs' := fun c member =>
  ⟨c, subset member, .refl c⟩

theorem trans (first : Kept cs cs') (later : Kept cs' cs'') : Kept cs cs'' := by
  intro c member
  obtain ⟨c', member', grows⟩ := first c member
  obtain ⟨c'', member'', grows'⟩ := later c' member'
  exact ⟨c'', member'', grows.trans grows'⟩

theorem union (first : Kept cs cs'') (later : Kept cs' cs'') : Kept (cs ++ cs') cs'' :=
  List.forall_mem_append.2 ⟨first, later⟩

theorem append (first : Kept cs cs') (later : Kept ds ds') : Kept (cs ++ ds) (cs' ++ ds') :=
  (first.trans (of_subset (List.subset_append_left _ _))).union
    (later.trans (of_subset (List.subset_append_right _ _)))

end Kept

namespace OpenComponent

def made (c : OpenComponent) : Component := ⟨c.name, c.properties, c.children, c.location⟩

theorem components_made (c : OpenComponent) :
    c.made.components =
      c.made :: (propertiesComponents c.properties ++ nodesComponents c.children) := by
  rw [made, Component.components]

theorem components_node (c : OpenComponent) : nodesComponents [c.node] = c.made.components :=
  List.append_nil _

theorem kept_made {c c' : OpenComponent} (grows : c.made.Grows c'.made) :
    Kept c.made.components c'.made.components := by
  obtain ⟨_, properties⟩ := grows.properties
  obtain ⟨_, children⟩ := grows.children
  have properties : c.properties ++ _ = c'.properties := properties
  have children : c.children ++ _ = c'.children := children
  rw [components_made, components_made, ← properties, ← children, propertiesComponents_append,
    nodesComponents_append]
  refine List.forall_mem_cons.2 ⟨⟨_, List.mem_cons_self, grows⟩, ?_⟩
  refine Kept.of_subset fun d member => ?_
  rcases List.mem_append.1 member with inner | inner <;> simp [inner]

theorem kept_addProperty (c : OpenComponent) (p : Property) :
    Kept (p.value.components ++ c.made.components) (c.addProperty p).made.components := by
  obtain ⟨name, value⟩ := p
  refine .union (.of_subset fun d member => ?_)
    (kept_made ⟨rfl, rfl, List.prefix_append _ _, List.prefix_rfl⟩)
  rw [components_made]
  simp [addProperty, propertiesComponents_append, propertiesComponents, member]

theorem kept_addChild (c : OpenComponent) (n : Node) :
    Kept (nodesComponents [n] ++ c.made.components)
      { c with children := c.children ++ [n] }.made.components := by
  refine .union (.of_subset fun d member => ?_)
    (kept_made ⟨rfl, rfl, List.prefix_rfl, List.prefix_append _ _⟩)
  rw [components_made]
  simp [nodesComponents_append, member]

end OpenComponent

def Stack.components : Stack → List Component
  | root nodes => nodesComponents nodes
  | component c below => c.made.components ++ below.components
  | block b owner below => nodesComponents b.nodes ++ (owner.made.components ++ below.components)

def Machine.components : Machine → List Component
  | ready stack _ => stack.components
  | property owner below .. => owner.made.components ++ below.components

namespace Stack

theorem kept_addNode (s : Stack) (n : Node) :
    Kept (nodesComponents [n] ++ s.components) (s.addNode n).components := by
  cases s with
  | root nodes =>
    rw [addNode, components, components, nodesComponents_append]
    exact .of_subset (by simp)
  | component c below =>
    rw [addNode, components, components, ← List.append_assoc]
    exact (c.kept_addChild n).append (.of_subset (List.Subset.refl _))
  | block b owner below =>
    rw [addNode, components, components, nodesComponents_append]
    exact .of_subset (by simp)

theorem components_blockValue {nodes : List Node} {place : Location} {value : Value}
    (made : Parser.blockValue nodes place = .ok value) :
    nodesComponents nodes = value.components := by
  rcases Parser.blockValue_eq_ok made with ⟨inner, rfl, rfl⟩ | ⟨none, rfl⟩
  · exact List.append_nil _
  · exact nodesComponents_of_text none

theorem kept_close {level : Nat} {s s' : Stack} (closed : s.close level = .ok s') :
    Kept s.components s'.components := by
  fun_induction Stack.close level s with
  | case1 nodes => cases closed; exact .of_subset (List.Subset.refl _)
  | case2 c below inside ih =>
    rw [components, ← c.components_node]
    exact (kept_addNode below c.node).trans (ih closed)
  | case3 c below outside => cases closed; exact .of_subset (List.Subset.refl _)
  | case4 b owner below inside ih =>
    obtain ⟨value, made, closed⟩ := Attempt.bind_eq_ok.1 closed
    refine Kept.trans ?_ (ih value closed)
    rw [components, components, components_blockValue made, ← List.append_assoc]
    exact (owner.kept_addProperty ⟨b.name, value⟩).append (.of_subset (List.Subset.refl _))
  | case5 b owner below outside => cases closed; exact .of_subset (List.Subset.refl _)

theorem close_zero {s s' : Stack} (closed : s.close 0 = .ok s') : ∃ nodes, s' = root nodes := by
  fun_induction Stack.close 0 s with
  | case1 nodes => cases closed; exact ⟨nodes, rfl⟩
  | case2 c below inside ih => exact ih closed
  | case3 c below outside => exact absurd (Nat.zero_le _) outside
  | case4 b owner below inside ih =>
    obtain ⟨value, -, closed⟩ := Attempt.bind_eq_ok.1 closed
    exact ih value closed
  | case5 b owner below outside => exact absurd (Nat.zero_le _) outside

end Stack

namespace Machine

theorem kept_place {level : Nat} {t : Token} {s : Stack} {m : Machine}
    (placed : place level t s = .ok m) : Kept s.components m.components := by
  unfold place at placed
  split at placed
  · cases placed
    exact .of_subset (List.subset_append_right _ _)
  · cases placed
    exact (Kept.of_subset (List.subset_append_right _ _)).trans (Stack.kept_addNode _ _)
  · cases placed
    refine Kept.append ?_ (.of_subset (List.Subset.refl _))
    exact (Kept.of_subset (List.subset_append_right _ _)).trans (OpenComponent.kept_addProperty _ _)
  · cases placed
    exact .of_subset (List.Subset.refl _)
  · cases placed

theorem kept_step {t : Token} {m m' : Machine} (stepped : m.step t = .ok m') :
    Kept m.components m'.components := by
  unfold step at stepped
  split at stepped
  · split at stepped
    · cases stepped
      exact .of_subset (List.Subset.refl _)
    · cases stepped
      exact .of_subset (List.Subset.refl _)
    · obtain ⟨closed, found, placed⟩ := Attempt.bind_eq_ok.1 stepped
      exact (Stack.kept_close found).trans (kept_place placed)
  · next owner below level name await =>
    have added (p : Property) : Kept (owner.made.components ++ below.components)
        ((owner.addProperty p).made.components ++ below.components) := by
      have grown := (Kept.of_subset (List.subset_append_right _ _)).trans (owner.kept_addProperty p)
      exact grown.append (.of_subset (List.Subset.refl _))
    split at stepped <;> cases stepped
    · exact .of_subset (List.Subset.refl _)
    · exact .of_subset (List.Subset.refl _)
    · exact added _
    · exact .of_subset (List.Subset.refl _)
    · exact .of_subset (List.Subset.refl _)
    · exact added _

theorem run_kept {s : Stream} {m : Machine} {d : Document} (ran : m.run s = .ok d) :
    Kept m.components d.components := by
  induction s generalizing m with
  | ended place =>
    cases m with
    | ready stack level =>
      obtain ⟨closed, found, made⟩ := Attempt.bind_eq_ok.1 ran
      cases made
      obtain ⟨nodes, rfl⟩ := Stack.close_zero found
      exact Stack.kept_close found
    | property owner below level name await => cases ran
  | malformed place => cases ran
  | cons t rest ih =>
    obtain ⟨next, stepped, ran⟩ := Attempt.bind_eq_ok.1 ran
    exact (kept_step stepped).trans (ih ran)

end Machine

/-- Whether the parser comes to a place of a text, and what the machine has made by then. -/
inductive Reaches (s : Text) : Lexer → Machine → Prop
  | start : Reaches s (.start s) .start
  | next {l : Lexer} {x : Lexeme} {m m' : Machine} : Reaches s l m → l.lexeme = .ok x →
      x.kind ≠ .endOfInput → m.step (l.token x) = .ok m' → Reaches s (l.after x) m'

theorem Reaches.parse {s : Text} {l : Lexer} {m : Machine} (reached : Reaches s l m) :
    parse s = m.run (.ofLexer l) := by
  induction reached with
  | start => exact (Machine.run_eq_ofStream _).symm
  | next _ found more stepped ih =>
    rw [ih, Stream.ofLexer_cons found more, Machine.run, stepped]
    rfl

end Inlay.Markup
