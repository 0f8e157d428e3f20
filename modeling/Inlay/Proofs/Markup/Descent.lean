import Inlay.Proofs.Attempt
import Inlay.Proofs.Markup.Machine

namespace Inlay.Markup
open Attempt

/-! ## The parser without its bounds -/

namespace Parser

def nodesAt (base : Nat) (c : Cursor) : Except Error (List Node × Cursor) :=
  (fun p => (p.value, p.rest)) <$> block base c

def contentsAt (base : Nat) (c : Cursor) : Except Error ((List Property × List Node) × Cursor) :=
  (fun p => (p.value, p.rest)) <$> body base c

def valueAt (c : Cursor) : Except Error (Value × Cursor) :=
  (fun p => (p.value, p.rest)) <$> property c

theorem contentsAt_size {base : Nat} {c c' : Cursor} {contents : List Property × List Node}
    (h : contentsAt base c = .ok (contents, c')) : c'.size < c.size + 1 := by
  obtain ⟨p, -, same⟩ := map_eq_ok.1 h
  cases same
  exact p.fewer

theorem valueAt_size {c c' : Cursor} {value : Value} (h : valueAt c = .ok (value, c')) :
    c'.size < c.size + 1 := by
  obtain ⟨p, -, same⟩ := map_eq_ok.1 h
  cases same
  exact p.fewer

theorem nodesAt_eq (base : Nat) (c : Cursor) :
    nodesAt base c = match c.skipLayout with
      | ⟨.ended place, level⟩ => .ok ([], ⟨.ended place, level⟩)
      | ⟨.malformed place, _⟩ => .error ⟨.malformedIndent, place⟩
      | ⟨.cons t rest, level⟩ =>
        if base ≠ 0 ∧ level ≤ base then .ok ([], ⟨.cons t rest, level⟩)
        else match t.kind with
          | .component => do
            let ((properties, children), c₁) ← contentsAt level ⟨rest, level⟩
            let (nodes, c₂) ← nodesAt base c₁
            .ok (.component ⟨t.value, properties, children, t.location⟩ :: nodes, c₂)
          | .text => do
            let (nodes, c₁) ← nodesAt base ⟨rest, level⟩
            .ok (.text t.value :: nodes, c₁)
          | kind => .error ⟨.unexpectedToken kind t.value, t.location⟩ := by
  simp only [nodesAt, contentsAt]
  rw [block]
  split <;> rename_i here
  · simp only [here, map_ok]
  · simp only [here, map_error]
  · rename_i t rest level
    simp only [here]
    split
    · rfl
    · cases t.kind with
      | component =>
        cases body level ⟨rest, level⟩ with
        | error e => simp only [map_error, error_bind]
        | ok p =>
          simp only [map_ok, ok_bind]
          cases block base p.rest <;> simp
      | text => cases block base ⟨rest, level⟩ <;> simp
      | _ => simp

theorem contentsAt_eq (base : Nat) (c : Cursor) :
    contentsAt base c = match c.skipLayout with
      | ⟨.ended place, level⟩ => .ok (([], []), ⟨.ended place, level⟩)
      | ⟨.malformed place, _⟩ => .error ⟨.malformedIndent, place⟩
      | ⟨.cons t rest, level⟩ =>
        if level ≤ base then .ok (([], []), ⟨.cons t rest, level⟩)
        else match t.kind with
          | .text => do
            let ((properties, children), c₁) ← contentsAt base ⟨rest, level⟩
            .ok ((properties, .text t.value :: children), c₁)
          | .component => do
            let ((inner, below), c₁) ← contentsAt level ⟨rest, level⟩
            let ((properties, children), c₂) ← contentsAt base c₁
            .ok ((properties, .component ⟨t.value, inner, below, t.location⟩ :: children), c₂)
          | .flag => do
            let ((properties, children), c₁) ← contentsAt base ⟨rest, level⟩
            .ok ((⟨t.value, .flag⟩ :: properties, children), c₁)
          | .property => do
            let (value, c₁) ← valueAt ⟨rest, level⟩
            let ((properties, children), c₂) ← contentsAt base c₁
            .ok ((⟨t.value, value⟩ :: properties, children), c₂)
          | kind => .error ⟨.unexpectedToken kind t.value, t.location⟩ := by
  simp only [contentsAt, valueAt]
  rw [body]
  split <;> rename_i here
  · simp only [here, map_ok]
  · simp only [here, map_error]
  · rename_i t rest level
    simp only [here]
    split
    · rfl
    · cases t.kind with
      | text => cases body base ⟨rest, level⟩ <;> simp
      | component =>
        cases body level ⟨rest, level⟩ with
        | error e => simp only [map_error, error_bind]
        | ok p =>
          simp only [map_ok, ok_bind]
          cases body base p.rest <;> simp
      | flag => cases body base ⟨rest, level⟩ <;> simp
      | property =>
        cases property ⟨rest, level⟩ with
        | error e => simp only [map_error, error_bind]
        | ok p =>
          simp only [map_ok, ok_bind]
          cases body base p.rest <;> simp
      | _ => simp

theorem valueAt_eq (c : Cursor) :
    valueAt c = (do
      let (colon, s₁) ← c.stream.next
      if colon.kind ≠ .colon then .error ⟨.expectedColon colon.value, colon.location⟩
      else do
        let (head, s₂) ← s₁.next
        match head.kind with
        | .quote => do
          let p ← string s₁
          .ok (.string p.1, ⟨p.2.val, c.level⟩)
        | .number => .ok (.string head.value, ⟨s₂, c.level⟩)
        | .lineBreak => do
          let (nodes, c₁) ← nodesAt c.level ⟨s₂, 0⟩
          let value ← blockValue nodes head.location
          .ok (value, c₁)
        | _ => .error ⟨.expectedValue head.value, head.location⟩) := by
  simp only [valueAt, nodesAt]
  rw [property]
  split <;> rename_i first <;> simp only [first, map_error, error_bind, ok_bind]
  split
  · rfl
  · split <;> rename_i second <;> simp only [second, map_error, error_bind, ok_bind]
    rename_i head s₂
    cases head.kind with
    | quote => cases string _ <;> simp
    | number => simp
    | lineBreak =>
      cases block c.level ⟨s₂, 0⟩ with
      | error e => simp
      | ok p => simp only [ok_bind, map_ok]; cases blockValue p.value head.location <;> rfl
    | _ => simp

end Parser

/-! ## Where an owner ends -/

def Cursor.Stops (base : Nat) (c : Cursor) : Prop :=
  match c.stream with
  | .ended _ => True
  | .malformed _ => False
  | .cons t _ => t.kind ≠ .indent ∧ t.kind ≠ .lineBreak ∧ c.level ≤ base

theorem Cursor.skipLayout_head {c : Cursor} {t : Token} {rest : Stream} {level : Nat}
    (h : c.skipLayout = ⟨.cons t rest, level⟩) : t.kind ≠ .indent ∧ t.kind ≠ .lineBreak := by
  suffices go : ∀ l s, Cursor.skipLayout.go l s = ⟨.cons t rest, level⟩ →
      t.kind ≠ .indent ∧ t.kind ≠ .lineBreak from go c.level c.stream h
  intro l s
  induction s generalizing l with
  | cons t' rest' ih =>
    intro same
    unfold Cursor.skipLayout.go at same
    split at same
    · exact ih _ same
    · exact ih _ same
    · next indent lineBreak =>
      cases same
      exact ⟨indent, lineBreak⟩
  | _ => intro same; cases same

theorem Cursor.skipLayout_rest {c : Cursor} {t : Token} {rest : Stream} {level : Nat}
    (h : c.skipLayout = ⟨.cons t rest, level⟩) : (⟨rest, level⟩ : Cursor).size < c.size := by
  have skipped := c.skipLayout_size
  rw [h] at skipped
  exact skipped

namespace Parser

theorem contentsAt_stops {base : Nat} {c c' : Cursor} {contents : List Property × List Node}
    (h : contentsAt base c = .ok (contents, c')) : c'.Stops base := by
  rw [contentsAt_eq] at h
  split at h <;> rename_i here
  · cases h
    trivial
  · cases h
  · have shorter := Cursor.skipLayout_rest here
    split at h
    · rename_i shallow
      cases h
      exact ⟨(Cursor.skipLayout_head here).1, (Cursor.skipLayout_head here).2, shallow⟩
    · split at h
      · obtain ⟨⟨_, c₁⟩, more, same⟩ := bind_eq_ok.1 h
        cases same
        exact contentsAt_stops more
      · obtain ⟨⟨_, c₁⟩, inner, h⟩ := bind_eq_ok.1 h
        obtain ⟨⟨_, c₂⟩, more, same⟩ := bind_eq_ok.1 h
        cases same
        have := contentsAt_size inner
        exact contentsAt_stops more
      · obtain ⟨⟨_, c₁⟩, more, same⟩ := bind_eq_ok.1 h
        cases same
        exact contentsAt_stops more
      · obtain ⟨⟨_, c₁⟩, inner, h⟩ := bind_eq_ok.1 h
        obtain ⟨⟨_, c₂⟩, more, same⟩ := bind_eq_ok.1 h
        cases same
        have := valueAt_size inner
        exact contentsAt_stops more
      · cases h
termination_by c.size

theorem nodesAt_stops {base : Nat} {c c' : Cursor} {nodes : List Node}
    (h : nodesAt base c = .ok (nodes, c')) :
    c'.Stops base ∧ (base = 0 → ∃ place, c'.stream = .ended place) := by
  rw [nodesAt_eq] at h
  split at h <;> rename_i here
  · cases h
    exact ⟨trivial, fun _ => ⟨_, rfl⟩⟩
  · cases h
  · have shorter := Cursor.skipLayout_rest here
    split at h
    · rename_i shallow
      cases h
      have head := Cursor.skipLayout_head here
      exact ⟨⟨head.1, head.2, shallow.2⟩, fun root => absurd root shallow.1⟩
    · split at h
      · obtain ⟨⟨_, c₁⟩, inner, h⟩ := bind_eq_ok.1 h
        obtain ⟨⟨_, c₂⟩, more, same⟩ := bind_eq_ok.1 h
        cases same
        have := contentsAt_size inner
        exact nodesAt_stops more
      · obtain ⟨⟨_, c₁⟩, more, same⟩ := bind_eq_ok.1 h
        cases same
        exact nodesAt_stops more
      · cases h
termination_by c.size

end Parser

/-! ## Runs of the machine -/

namespace Machine

theorem run_skipLayout (stack : Stack) (c : Cursor) :
    (ready stack c.level).run c.stream =
      (ready stack c.skipLayout.level).run c.skipLayout.stream := by
  suffices go : ∀ level s, (ready stack level).run s =
      (ready stack (Cursor.skipLayout.go level s).level).run
        (Cursor.skipLayout.go level s).stream from
    go c.level c.stream
  intro level s
  induction s generalizing level with
  | cons t rest ih =>
    unfold Cursor.skipLayout.go
    split
    · next kind => rw [run_cons, step_indent kind, ok_bind, ih]
    · next kind => rw [run_cons, step_lineBreak kind, ok_bind, ih]
    · rfl
  | _ => rfl

theorem run_item {stack : Stack} {c : Cursor} {t : Token} {rest : Stream} {level : Nat}
    (here : c.skipLayout = ⟨.cons t rest, level⟩) (under : stack.Under level) :
    (ready stack c.level).run c.stream = (do (← place level t stack).run rest) := by
  obtain ⟨indent, lineBreak⟩ := Cursor.skipLayout_head here
  rw [run_skipLayout, here, run_cons, step_ready indent lineBreak, Stack.close_of_under under]
  rfl

theorem run_property (owner : OpenComponent) (below : Stack) (level : Nat) (name : Text)
    (await : Await) (s : Stream) :
    (property owner below level name await).run s = (do
      let (t, rest) ← s.next
      let m ← (property owner below level name await).step t
      m.run rest) := by
  cases s with
  | ended place => cases await <;> rfl
  | malformed place => rfl
  | cons t rest => rfl

theorem run_stops_component {c : Cursor} {top : OpenComponent} (stops : c.Stops top.level)
    (below : Stack) :
    (ready (.component top below) c.level).run c.stream =
      (ready (below.addNode top.node) c.level).run c.stream := by
  obtain ⟨s, level⟩ := c
  cases s with
  | ended place => simp only [run_ended, finish, Stack.close_component (Nat.zero_le _)]
  | malformed place => rfl
  | cons t rest =>
    obtain ⟨indent, lineBreak, shallow⟩ := stops
    simp only [run_cons, step_ready indent lineBreak, Stack.close_component shallow]

theorem run_stops_block {c : Cursor} {top : OpenBlock} (stops : c.Stops top.level)
    (owner : OpenComponent) (below : Stack) :
    (ready (.block top owner below) c.level).run c.stream = (do
      let value ← Parser.blockValue top.nodes top.opening
      (ready (.component (owner.addProperty ⟨top.name, value⟩) below) c.level).run c.stream) := by
  obtain ⟨s, level⟩ := c
  cases s with
  | ended place => simp only [run_ended, finish, Stack.close_block (Nat.zero_le _), bind_assoc]
  | malformed place => exact absurd stops id
  | cons t rest =>
    obtain ⟨indent, lineBreak, shallow⟩ := stops
    simp only [run_cons, step_ready indent lineBreak, Stack.close_block shallow, bind_assoc]

theorem run_contents (owner : OpenComponent) (below : Stack) (level : Nat) (name : Text)
    {s rest : Stream} {head : Token} (first : s.next = .ok (head, rest))
    (kind : head.kind = .quote) :
    (property owner below level name .contents).run rest = (do
      let p ← Parser.string s
      (ready (.component (owner.addProperty ⟨name, .string p.1⟩) below) level).run p.2.val) := by
  unfold Parser.string
  split <;> rename_i h₁ <;> rw [first] at h₁ <;> cases h₁
  rw [if_neg (by simp [kind]), run_property]
  split <;> rename_i h₂ <;> simp only [h₂, error_bind, ok_bind]
  rename_i inside s₂
  by_cases text : inside.kind = .text
  · rw [if_neg (by simp [text])]
    simp only [step, text, ok_bind]
    rw [run_property]
    split <;> rename_i h₃ <;> simp only [h₃, error_bind, ok_bind]
    rename_i closing s₃
    by_cases quote : closing.kind = .quote
    · simp [step, quote]
    · simp [step, quote, Await.fault]
  · simp [step, text, Await.fault]

end Machine

/-! ## The simulation -/

def Stack.Blocks (base : Nat) : Stack → Prop
  | .root _ => base = 0
  | .component .. => False
  | .block b _ _ => b.level = base ∧ base ≠ 0

def Stack.addNodes (s : Stack) (nodes : List Node) : Stack := nodes.foldl .addNode s

@[simp] theorem Stack.addNodes_block (b : OpenBlock) (owner : OpenComponent) (below : Stack)
    (nodes : List Node) :
    (Stack.block b owner below).addNodes nodes =
      .block { b with nodes := b.nodes ++ nodes } owner below := by
  induction nodes generalizing b with
  | nil => simp [addNodes]
  | cons n nodes ih =>
    show (Stack.block { b with nodes := b.nodes ++ [n] } owner below).addNodes nodes = _
    rw [ih]
    simp

@[simp] theorem Stack.addNodes_root (before nodes : List Node) :
    (Stack.root before).addNodes nodes = .root (before ++ nodes) := by
  induction nodes generalizing before with
  | nil => simp [addNodes]
  | cons n nodes ih =>
    show (Stack.root (before ++ [n])).addNodes nodes = _
    rw [ih]
    simp

theorem Stack.blocks_addNode {base : Nat} {s : Stack} {n : Node} (h : s.Blocks base) :
    (s.addNode n).Blocks base := by
  cases s with
  | root nodes => exact h
  | component c below => exact h
  | block b owner below => exact h

theorem Stack.Blocks.under {base level : Nat} {s : Stack} (h : s.Blocks base)
    (deep : ¬(base ≠ 0 ∧ level ≤ base)) : s.Under level := by
  cases s with
  | root nodes => trivial
  | component c below => exact absurd h id
  | block b owner below =>
    obtain ⟨rfl, positive⟩ := h
    exact Nat.not_le.1 fun shallow => deep ⟨positive, shallow⟩

namespace Machine

def NodesSimulated (base : Nat) (c : Cursor) : Prop :=
  ∀ stack : Stack, stack.Blocks base →
    (ready stack c.level).run c.stream = (do
      let (nodes, c') ← Parser.nodesAt base c
      (ready (stack.addNodes nodes) c'.level).run c'.stream)

def ContentsSimulated (base : Nat) (c : Cursor) : Prop :=
  ∀ (top : OpenComponent) (below : Stack), top.level = base →
    (ready (.component top below) c.level).run c.stream = (do
      let (contents, c') ← Parser.contentsAt base c
      (ready (.component (top.extend contents) below) c'.level).run c'.stream)

def ValueSimulated (c : Cursor) : Prop :=
  ∀ (owner : OpenComponent) (below : Stack) (name : Text), 0 < c.level →
    (property owner below c.level name .colon).run c.stream = (do
      let (value, c') ← Parser.valueAt c
      (ready (.component (owner.addProperty ⟨name, value⟩) below) c'.level).run c'.stream)

theorem nodesSimulated_stop {base : Nat} {c : Cursor}
    (stop : Parser.nodesAt base c = .ok ([], c.skipLayout)) : NodesSimulated base c := by
  intro stack _
  rw [run_skipLayout, stop]
  rfl

theorem contentsSimulated_stop {base : Nat} {c : Cursor}
    (stop : Parser.contentsAt base c = .ok (([], []), c.skipLayout)) :
    ContentsSimulated base c := by
  intro top below _
  rw [run_skipLayout, stop]
  simp [OpenComponent.extend]

theorem nodesSimulated_component {base level : Nat} {c : Cursor} {t : Token} {rest : Stream}
    (here : c.skipLayout = ⟨.cons t rest, level⟩) (deep : ¬(base ≠ 0 ∧ level ≤ base))
    (kind : t.kind = .component) (inner : ContentsSimulated level ⟨rest, level⟩)
    (after : ∀ c₁ : Cursor, c₁.size < (⟨rest, level⟩ : Cursor).size + 1 → NodesSimulated base c₁) :
    NodesSimulated base c := by
  intro stack blocks
  rw [run_item here (blocks.under deep), place_component kind, Parser.nodesAt_eq]
  simp only [here, if_neg deep, kind, ok_bind]
  rw [inner _ stack rfl]
  cases found : Parser.contentsAt level ⟨rest, level⟩ with
  | error e => rfl
  | ok p =>
    obtain ⟨contents, c₁⟩ := p
    simp only [ok_bind, bind_assoc]
    rw [run_stops_component (Parser.contentsAt_stops found),
      after c₁ (Parser.contentsAt_size found) _ (Stack.blocks_addNode blocks)]
    rfl

theorem nodesSimulated_text {base level : Nat} {c : Cursor} {t : Token} {rest : Stream}
    (here : c.skipLayout = ⟨.cons t rest, level⟩) (deep : ¬(base ≠ 0 ∧ level ≤ base))
    (kind : t.kind = .text) (after : NodesSimulated base ⟨rest, level⟩) :
    NodesSimulated base c := by
  intro stack blocks
  rw [run_item here (blocks.under deep), place_text kind, Parser.nodesAt_eq]
  simp only [here, if_neg deep, kind, ok_bind]
  rw [after _ (Stack.blocks_addNode blocks)]
  simp only [bind_assoc, ok_bind]
  rfl

theorem nodesSimulated_unexpected {base level : Nat} {c : Cursor} {t : Token} {rest : Stream}
    (here : c.skipLayout = ⟨.cons t rest, level⟩) (deep : ¬(base ≠ 0 ∧ level ≤ base))
    (component : t.kind ≠ .component) (text : t.kind ≠ .text) : NodesSimulated base c := by
  intro stack blocks
  obtain ⟨indent, lineBreak⟩ := Cursor.skipLayout_head here
  rw [run_item here (blocks.under deep), Parser.nodesAt_eq]
  simp only [here, if_neg deep]
  cases kind : t.kind with
  | component => exact absurd kind component
  | text => exact absurd kind text
  | indent => exact absurd kind indent
  | lineBreak => exact absurd kind lineBreak
  | _ => cases stack <;> first | exact absurd blocks id | simp [place, kind]

theorem contentsSimulated_text {base level : Nat} {c : Cursor} {t : Token} {rest : Stream}
    (here : c.skipLayout = ⟨.cons t rest, level⟩) (deep : ¬level ≤ base)
    (kind : t.kind = .text) (after : ContentsSimulated base ⟨rest, level⟩) :
    ContentsSimulated base c := by
  rintro top below rfl
  have under : (Stack.component top below).Under level := Nat.not_le.1 deep
  rw [run_item here under, place_text kind, Parser.contentsAt_eq]
  simp only [here, if_neg deep, kind, ok_bind, Stack.addNode]
  rw [after]
  · simp only [OpenComponent.extend, bind_assoc, ok_bind, List.append_assoc, List.singleton_append]
  · rfl

theorem contentsSimulated_component {base level : Nat} {c : Cursor} {t : Token} {rest : Stream}
    (here : c.skipLayout = ⟨.cons t rest, level⟩) (deep : ¬level ≤ base)
    (kind : t.kind = .component) (inner : ContentsSimulated level ⟨rest, level⟩)
    (after : ∀ c₁ : Cursor, c₁.size < (⟨rest, level⟩ : Cursor).size + 1 →
      ContentsSimulated base c₁) : ContentsSimulated base c := by
  rintro top below rfl
  have under : (Stack.component top below).Under level := Nat.not_le.1 deep
  rw [run_item here under, place_component kind, Parser.contentsAt_eq]
  simp only [here, if_neg deep, kind, ok_bind]
  rw [inner _ _ rfl]
  cases found : Parser.contentsAt level ⟨rest, level⟩ with
  | error e => rfl
  | ok p =>
    obtain ⟨contents, c₁⟩ := p
    simp only [ok_bind, bind_assoc]
    rw [run_stops_component (Parser.contentsAt_stops found), Stack.addNode,
      after c₁ (Parser.contentsAt_size found)]
    · simp only [OpenComponent.extend, OpenComponent.node, List.nil_append, List.append_assoc,
        List.singleton_append]
    · rfl

theorem contentsSimulated_flag {base level : Nat} {c : Cursor} {t : Token} {rest : Stream}
    (here : c.skipLayout = ⟨.cons t rest, level⟩) (deep : ¬level ≤ base)
    (kind : t.kind = .flag) (after : ContentsSimulated base ⟨rest, level⟩) :
    ContentsSimulated base c := by
  rintro top below rfl
  have under : (Stack.component top below).Under level := Nat.not_le.1 deep
  rw [run_item here under, place_flag kind, Parser.contentsAt_eq]
  simp only [here, if_neg deep, kind, ok_bind]
  rw [after]
  · simp only [OpenComponent.extend, OpenComponent.addProperty, bind_assoc, ok_bind,
      List.append_assoc, List.singleton_append]
  · rfl

theorem contentsSimulated_property {base level : Nat} {c : Cursor} {t : Token} {rest : Stream}
    (here : c.skipLayout = ⟨.cons t rest, level⟩) (deep : ¬level ≤ base)
    (kind : t.kind = .property) (value : ValueSimulated ⟨rest, level⟩)
    (after : ∀ c₁ : Cursor, c₁.size < (⟨rest, level⟩ : Cursor).size + 1 →
      ContentsSimulated base c₁) : ContentsSimulated base c := by
  rintro top below rfl
  have under : (Stack.component top below).Under level := Nat.not_le.1 deep
  rw [run_item here under, place_property kind, Parser.contentsAt_eq]
  simp only [here, if_neg deep, kind, ok_bind]
  rw [value _ _ _ (Nat.zero_lt_of_lt (Nat.not_le.1 deep))]
  cases found : Parser.valueAt ⟨rest, level⟩ with
  | error e => rfl
  | ok p =>
    obtain ⟨v, c₁⟩ := p
    simp only [ok_bind, bind_assoc]
    rw [after c₁ (Parser.valueAt_size found)]
    · simp only [OpenComponent.extend, OpenComponent.addProperty, List.append_assoc,
        List.singleton_append]
    · rfl

theorem contentsSimulated_unexpected {base level : Nat} {c : Cursor} {t : Token} {rest : Stream}
    (here : c.skipLayout = ⟨.cons t rest, level⟩) (deep : ¬level ≤ base) (text : t.kind ≠ .text)
    (component : t.kind ≠ .component) (flag : t.kind ≠ .flag) (property : t.kind ≠ .property) :
    ContentsSimulated base c := by
  rintro top below rfl
  have under : (Stack.component top below).Under level := Nat.not_le.1 deep
  obtain ⟨indent, lineBreak⟩ := Cursor.skipLayout_head here
  rw [run_item here under, Parser.contentsAt_eq]
  simp only [here, if_neg deep]
  cases kind : t.kind with
  | component => exact absurd kind component
  | text => exact absurd kind text
  | flag => exact absurd kind flag
  | property => exact absurd kind property
  | indent => exact absurd kind indent
  | lineBreak => exact absurd kind lineBreak
  | _ => simp [place, kind]

theorem valueSimulated_block {c : Cursor} {colon head : Token} {s₁ s₂ : Stream}
    (first : c.stream.next = .ok (colon, s₁)) (isColon : colon.kind = .colon)
    (second : s₁.next = .ok (head, s₂)) (kind : head.kind = .lineBreak)
    (inner : NodesSimulated c.level ⟨s₂, 0⟩) : ValueSimulated c := by
  intro owner below name positive
  rw [run_property, Parser.valueAt_eq]
  simp only [first, ok_bind, step, isColon, ne_eq, not_true, if_false]
  rw [run_property]
  simp only [second, ok_bind, step, kind]
  have blocks : (Stack.block ⟨c.level, name, head.location, []⟩ owner below).Blocks c.level :=
    ⟨rfl, Nat.pos_iff_ne_zero.1 positive⟩
  rw [inner _ blocks]
  cases found : Parser.nodesAt c.level ⟨s₂, 0⟩ with
  | error e => rfl
  | ok p =>
    obtain ⟨nodes, c₁⟩ := p
    simp only [ok_bind, bind_assoc, Stack.addNodes_block, List.nil_append]
    rw [run_stops_block (Parser.nodesAt_stops found).1]

theorem valueSimulated_line {c : Cursor}
    (noBlock : ∀ colon s₁ head s₂, c.stream.next = .ok (colon, s₁) → colon.kind = .colon →
      s₁.next = .ok (head, s₂) → head.kind ≠ .lineBreak) : ValueSimulated c := by
  intro owner below name positive
  rw [run_property, Parser.valueAt_eq]
  cases first : c.stream.next with
  | error e => rfl
  | ok p =>
    obtain ⟨colon, s₁⟩ := p
    by_cases isColon : colon.kind = .colon
    · simp only [ok_bind, step, isColon, ne_eq, not_true, if_false]
      rw [run_property]
      cases second : s₁.next with
      | error e => rfl
      | ok p =>
        obtain ⟨head, s₂⟩ := p
        have noBreak := noBlock colon s₁ head s₂ first isColon second
        simp only [ok_bind, step]
        cases kind : head.kind with
        | lineBreak => exact absurd kind noBreak
        | quote =>
          simp only [ok_bind, bind_assoc]
          exact run_contents owner below c.level name second kind
        | number => rfl
        | _ => rfl
    · simp [step, isColon, Await.fault]

theorem simulated :
    (∀ base c, NodesSimulated base c) ∧ (∀ base c, ContentsSimulated base c) ∧
      ∀ c, ValueSimulated c := by
  apply Parser.block.mutual_induct NodesSimulated ContentsSimulated ValueSimulated
  case case1 =>
    intro base c _ place level here
    exact nodesSimulated_stop (by rw [Parser.nodesAt_eq]; simp only [here])
  case case2 =>
    intro base c _ place level here stack _
    rw [run_skipLayout, Parser.nodesAt_eq]
    simp only [here, run, error_bind]
  case case3 =>
    intro base c _ t rest level here _ shallow
    exact nodesSimulated_stop (by rw [Parser.nodesAt_eq]; simp only [here, if_pos shallow])
  case case4 =>
    intro base c _ t rest level here _ deep kind inner after
    exact nodesSimulated_component here deep kind inner after
  case case5 =>
    intro base c _ t rest level here _ deep kind after
    exact nodesSimulated_text here deep kind after
  case case6 =>
    intro base c _ t rest level here _ deep component text
    exact nodesSimulated_unexpected here deep component text
  case case7 =>
    intro base c _ place level here
    exact contentsSimulated_stop (by rw [Parser.contentsAt_eq]; simp only [here])
  case case8 =>
    intro base c _ place level here top below _
    rw [run_skipLayout, Parser.contentsAt_eq]
    simp only [here, run, error_bind]
  case case9 =>
    intro base c _ t rest level here _ shallow
    exact contentsSimulated_stop (by rw [Parser.contentsAt_eq]; simp only [here, if_pos shallow])
  case case10 =>
    intro base c _ t rest level here _ deep kind after
    exact contentsSimulated_text here deep kind after
  case case11 =>
    intro base c _ t rest level here _ deep kind inner after
    exact contentsSimulated_component here deep kind inner after
  case case12 =>
    intro base c _ t rest level here _ deep kind after
    exact contentsSimulated_flag here deep kind after
  case case13 =>
    intro base c _ t rest level here _ deep kind value after
    exact contentsSimulated_property here deep kind value after
  case case14 =>
    intro base c _ t rest level here _ deep text component flag property
    exact contentsSimulated_unexpected here deep text component flag property
  case case20 =>
    intro c colon s₁ first isColon head s₂ second _ _ kind inner
    exact valueSimulated_block first (Decidable.not_not.1 isColon) second kind inner
  all_goals
    intros
    apply valueSimulated_line
    grind

theorem run_eq_ofStream (s : Stream) : Machine.start.run s = Document.ofStream s := by
  have root := simulated.1 0 ⟨s, 0⟩ (.root []) rfl
  rw [Machine.start, root, Document.ofStream]
  cases found : Parser.nodesAt 0 ⟨s, 0⟩ with
  | error e =>
    cases h : Parser.block 0 ⟨s, 0⟩ with
    | error e' => simp_all [Parser.nodesAt]
    | ok p => simp_all [Parser.nodesAt]
  | ok p =>
    obtain ⟨nodes, c⟩ := p
    obtain ⟨place, ended⟩ := (Parser.nodesAt_stops found).2 rfl
    obtain ⟨q, h, same⟩ := map_eq_ok.1 found
    cases same
    simp [h, ended, run, finish, Stack.close, Stack.nodes]

end Machine
end Inlay.Markup
