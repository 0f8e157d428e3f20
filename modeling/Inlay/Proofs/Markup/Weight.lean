import Inlay.Proofs.Markup.Descent
import Inlay.Proofs.Markup.Lexical
import Inlay.Proofs.Text.Weight

namespace Inlay.Markup

open Text (weight)

def Part.text : Part → Text
  | name s => s
  | line s => s
  | string s => s

def weigh (parts : List Part) : Nat := (parts.map fun p => weight p.text).sum

@[simp] theorem weigh_nil : weigh [] = 0 := rfl

@[simp] theorem weigh_cons (p : Part) (parts : List Part) :
    weigh (p :: parts) = weight p.text + weigh parts := rfl

@[simp] theorem weigh_append (ps qs : List Part) : weigh (ps ++ qs) = weigh ps + weigh qs := by
  simp [weigh]

theorem weight_le_weigh {p : Part} {parts : List Part} (member : p ∈ parts) :
    weight p.text ≤ weigh parts := by
  induction parts with
  | nil => cases member
  | cons q parts ih =>
    rw [weigh_cons]
    rcases List.mem_cons.1 member with rfl | later
    · exact Nat.le_add_right _ _
    · exact Nat.le_trans (ih later) (Nat.le_add_left _ _)

@[simp] theorem propertiesParts_append (ps qs : List Property) :
    propertiesParts (ps ++ qs) = propertiesParts ps ++ propertiesParts qs := by
  induction ps with
  | nil => rfl
  | cons p ps ih =>
    obtain ⟨name, value⟩ := p
    simp [propertiesParts, ih]

@[simp] theorem nodesParts_append (ns ms : List Node) :
    nodesParts (ns ++ ms) = nodesParts ns ++ nodesParts ms := by
  induction ns with
  | nil => rfl
  | cons n ns ih =>
    cases n with
    | text s => simp [nodesParts, ih]
    | component inner => simp [nodesParts, ih]

namespace Lexeme

theorem weight_unescape (s : Text) : weight (unescape s) ≤ weight s := by
  fun_induction unescape s with
  | case1 r ih =>
    rw [Text.weight_cons, Text.weight_cons '\\', Text.weight_cons '"' r]
    omega
  | case2 c r _ ih =>
    rw [Text.weight_cons, Text.weight_cons c r]
    omega
  | case3 => exact Nat.le_refl _

theorem weight_line (lead s : Text) : weight (line lead s).value ≤ weight (line lead s).source :=
  Text.weight_dropEnd _ _

theorem weight_plain (previous : Option Token.Kind) (lead s : Text) :
    weight (plain previous lead s).value ≤ weight (plain previous lead s).source := by
  unfold plain
  split
  · exact Nat.le_refl _
  · exact Nat.le_refl _
  · exact Nat.le_refl _
  · exact Nat.le_refl _
  · split
    · split
      · exact Text.weight_le_of_sublist (List.sublist_cons_self _ _)
      · exact weight_line _ _
    · unfold word
      split
      · exact Nat.le_refl _
      · split
        · exact Nat.le_refl _
        · exact weight_line _ _

theorem weight_read {previous : Option Token.Kind} {s : Text} {x : Lexeme}
    (found : read previous s = .ok x) : weight x.value ≤ weight x.source := by
  unfold read at found
  split at found
  · unfold indent at found
    split at found
    · cases found
      exact Nat.le_refl _
    · cases found
      have tab : weight ['\t'] = 0 := by decide
      exact tab ▸ Nat.zero_le _
    · cases found
  · split at found
    · cases found
      exact weight_unescape _
    · cases found
      exact weight_plain _ _ _

end Lexeme

def Stream.weigh : Stream → Nat
  | .cons t rest => weight t.value + rest.weigh
  | _ => 0

theorem weigh_ofLexer (l : Lexer) : (Stream.ofLexer l).weigh ≤ weight l.rest := by
  induction size : l.weight using Nat.strong_induction_on generalizing l with
  | h n ih =>
    rw [Stream.ofLexer_eq]
    cases found : l.lexeme with
    | error spaces => exact Nat.zero_le _
    | ok x =>
      by_cases ended : x.kind = .endOfInput
      · simp only [if_pos ended]
        exact Nat.zero_le _
      · have later : (Stream.ofLexer (l.after x)).weigh ≤ weight x.rest :=
          ih _ (size ▸ Lexer.after_lighter found ended) (l.after x) rfl
        have value : weight x.value ≤ weight x.source := Lexeme.weight_read found
        have tiles : x.lead ++ x.source ++ x.rest = l.rest := Lexeme.read_tiles found
        simp only [if_neg ended, Stream.weigh, Lexer.token]
        rw [← tiles, Text.weight_append, Text.weight_append]
        omega

def OpenComponent.weigh (c : OpenComponent) : Nat :=
  weight c.name +
    (Markup.weigh (propertiesParts c.properties) + Markup.weigh (nodesParts c.children))

def OpenBlock.weigh (b : OpenBlock) : Nat := weight b.name + Markup.weigh (nodesParts b.nodes)

def Stack.weigh : Stack → Nat
  | root nodes => Markup.weigh (nodesParts nodes)
  | component c below => c.weigh + below.weigh
  | block b owner below => b.weigh + owner.weigh + below.weigh

def Await.weigh : Await → Nat
  | .closing inside => weight inside
  | _ => 0

def Machine.weigh : Machine → Nat
  | ready stack _ => stack.weigh
  | property owner below _ name await => owner.weigh + below.weigh + weight name + await.weigh

@[simp] theorem weigh_addProperty (c : OpenComponent) (p : Property) :
    (c.addProperty p).weigh = c.weigh + (weight p.name + weigh p.value.parts) := by
  obtain ⟨name, value⟩ := p
  simp only [OpenComponent.weigh, OpenComponent.addProperty, propertiesParts_append, weigh_append,
    propertiesParts, weigh_cons, Part.text, weigh_nil]
  omega

@[simp] theorem weigh_node (c : OpenComponent) : weigh (nodesParts [c.node]) = c.weigh := by
  simp [OpenComponent.node, nodesParts, Component.parts, Part.text, OpenComponent.weigh]

@[simp] theorem weigh_addNode (s : Stack) (n : Node) :
    (s.addNode n).weigh = s.weigh + weigh (nodesParts [n]) := by
  cases s with
  | root nodes => simp [Stack.addNode, Stack.weigh]
  | component c below =>
    simp only [Stack.addNode, Stack.weigh, OpenComponent.weigh, nodesParts_append, weigh_append]
    omega
  | block b owner below =>
    simp only [Stack.addNode, Stack.weigh, OpenBlock.weigh, nodesParts_append, weigh_append]
    omega

theorem sum_texts (nodes : List Node) :
    ((nodes.filterMap Node.text?).map weight).sum ≤ weigh (nodesParts nodes) := by
  induction nodes with
  | nil => exact Nat.le_refl _
  | cons n nodes ih =>
    cases n with
    | text s => simpa [Node.text?, nodesParts, Part.text] using ih
    | component inner =>
      simp only [Node.text?, List.filterMap_cons, nodesParts, weigh_append]
      omega

theorem weigh_blockValue {nodes : List Node} {place : Location} {value : Value}
    (made : Parser.blockValue nodes place = .ok value) :
    weigh value.parts ≤ weigh (nodesParts nodes) := by
  rcases Parser.blockValue_eq_ok made with ⟨inner, rfl, rfl⟩ | ⟨-, rfl⟩
  · simp [Value.parts, nodesParts]
  · simp only [Value.parts, weigh_cons, Part.text, weigh_nil, Text.weight_intercalate]
    exact sum_texts nodes

theorem weigh_close {level : Nat} {s s' : Stack} (closed : s.close level = .ok s') :
    s'.weigh ≤ s.weigh := by
  fun_induction Stack.close level s with
  | case1 nodes => cases closed; exact Nat.le_refl _
  | case2 c below inside ih =>
    have lighter := ih closed
    simp only [weigh_addNode, weigh_node] at lighter
    simp only [Stack.weigh]
    omega
  | case3 c below outside => cases closed; exact Nat.le_refl _
  | case4 b owner below inside ih =>
    obtain ⟨value, made, closed⟩ := Attempt.bind_eq_ok.1 closed
    have lighter := ih value closed
    have lines := weigh_blockValue made
    simp only [Stack.weigh, weigh_addProperty] at lighter
    simp only [Stack.weigh, OpenBlock.weigh]
    omega
  | case5 b owner below outside => cases closed; exact Nat.le_refl _

theorem weigh_place {level : Nat} {t : Token} {s : Stack} {m : Machine}
    (placed : Machine.place level t s = .ok m) : m.weigh ≤ s.weigh + weight t.value := by
  unfold Machine.place at placed
  split at placed
  · cases placed
    simp [Machine.weigh, Stack.weigh, OpenComponent.weigh, propertiesParts, nodesParts]
    omega
  · cases placed
    simp [Machine.weigh, nodesParts, Part.text]
  · cases placed
    simp [Machine.weigh, Stack.weigh, Value.parts]
    omega
  · cases placed
    simp [Machine.weigh, Stack.weigh, Await.weigh]
  · cases placed

theorem weigh_step {t : Token} {m m' : Machine} (stepped : m.step t = .ok m') :
    m'.weigh ≤ m.weigh + weight t.value := by
  unfold Machine.step at stepped
  split at stepped
  · split at stepped
    · cases stepped
      exact Nat.le_add_right _ _
    · cases stepped
      exact Nat.le_add_right _ _
    · obtain ⟨closed, found, placed⟩ := Attempt.bind_eq_ok.1 stepped
      exact Nat.le_trans (weigh_place placed) (Nat.add_le_add_right (weigh_close found) _)
  · split at stepped
    all_goals cases stepped
    all_goals simp [Machine.weigh, Stack.weigh, Await.weigh, Value.parts, Part.text,
      OpenBlock.weigh, nodesParts]
    all_goals omega

theorem weigh_nodes (s : Stack) : weigh (nodesParts s.nodes) ≤ s.weigh := by
  induction s with
  | root nodes => exact Nat.le_refl _
  | component c below ih => exact Nat.le_trans ih (Nat.le_add_left _ _)
  | block b owner below ih => exact Nat.le_trans ih (Nat.le_add_left _ _)

theorem weigh_run {s : Stream} {m : Machine} {d : Document} (ran : m.run s = .ok d) :
    weigh d.parts ≤ m.weigh + s.weigh := by
  induction s generalizing m with
  | ended place =>
    cases m with
    | ready stack level =>
      obtain ⟨closed, found, made⟩ := Attempt.bind_eq_ok.1 ran
      cases made
      exact Nat.le_trans (weigh_nodes closed) (weigh_close found)
    | property owner below level name await => cases ran
  | malformed place => cases ran
  | cons t rest ih =>
    obtain ⟨next, stepped, ran⟩ := Attempt.bind_eq_ok.1 ran
    have step := weigh_step stepped
    have later := ih ran
    rw [Stream.weigh]
    omega

/-- All texts of a document together weigh no more than its source. -/
theorem weigh_parse {s : Text} {d : Document} (parsed : parse s = .ok d) :
    weigh d.parts ≤ weight s := by
  rw [parse, ← Machine.run_eq_ofStream] at parsed
  have ran := weigh_run parsed
  have tokens := weigh_ofLexer (.start s)
  have nothing : Machine.start.weigh = 0 := rfl
  have source : (Lexer.start s).rest = s := rfl
  rw [source] at tokens
  rw [nothing, Stream.ofText] at ran
  omega

end Inlay.Markup
