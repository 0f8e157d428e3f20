import Inlay.Proofs.Markup.Descent
import Inlay.Proofs.Markup.Outline
import Mathlib.Order.Monotone.Basic

namespace Inlay.Markup

inductive Agree (R : α → α → Prop) : Except Error α → Except Error α → Prop
  | ok {a a' : α} : R a a' → Agree R (.ok a) (.ok a')
  | error {e e' : Error} : e.cause = e'.cause → e.location.line = e'.location.line →
      Agree R (.error e) (.error e')

theorem Agree.bind {R : α → α → Prop} {S : β → β → Prop} {r r' : Except Error α}
    {next next' : α → Except Error β} (first : Agree R r r')
    (rest : ∀ a a', R a a' → Agree S (next a) (next' a')) :
    Agree S (r >>= next) (r' >>= next') := by
  cases first with
  | ok alike => exact rest _ _ alike
  | error cause line => exact .error cause line

def Document.Alike (d d' : Document) : Prop := d.unplaced = d'.unplaced

theorem unplacedNodes_append (ns ms : List Node) :
    unplacedNodes (ns ++ ms) = unplacedNodes ns ++ unplacedNodes ms := by
  induction ns with
  | nil => rfl
  | cons n ns ih => cases n <;> simp [unplacedNodes, ih]

theorem unplacedProperties_append (ps qs : List Property) :
    unplacedProperties (ps ++ qs) = unplacedProperties ps ++ unplacedProperties qs := by
  induction ps with
  | nil => rfl
  | cons p ps ih =>
    obtain ⟨name, value⟩ := p
    simp [unplacedProperties, ih]

theorem blockValue_error {ns : List Node} {place : Location} {e : Error}
    (failed : Parser.blockValue ns place = .error e) : e.location = place := by
  unfold Parser.blockValue at failed
  dsimp only at failed
  split at failed
  · cases failed; rfl
  · split at failed
    · cases failed
    · split at failed
      · cases failed
      · cases failed; rfl

theorem agree_blockValue {ns ns' : List Node} {place place' : Location}
    (nodes : unplacedNodes ns = unplacedNodes ns') (line : place.line = place'.line) :
    Agree (fun v v' => v.unplaced = v'.unplaced) (Parser.blockValue ns place)
      (Parser.blockValue ns' place') := by
  have one := blockValue_unplaced ns place place
  have other := blockValue_unplaced ns' place' place
  rw [nodes, other] at one
  cases found : Parser.blockValue ns place with
  | ok v =>
    cases found' : Parser.blockValue ns' place' with
    | ok v' => rw [found, found'] at one; exact .ok (Except.ok.inj one).symm
    | error e' => rw [found, found'] at one; cases one
  | error e =>
    cases found' : Parser.blockValue ns' place' with
    | ok v' => rw [found, found'] at one; cases one
    | error e' =>
      rw [found, found'] at one
      refine .error (congrArg Error.cause (Except.error.inj one)).symm ?_
      rw [blockValue_error found, blockValue_error found', line]

section

variable {f : Nat → Nat}

structure OpenComponent.Alike (f : Nat → Nat) (c c' : OpenComponent) : Prop where
  level : c'.level = f c.level
  name : c.name = c'.name
  properties : unplacedProperties c.properties = unplacedProperties c'.properties
  children : unplacedNodes c.children = unplacedNodes c'.children

structure OpenBlock.Alike (f : Nat → Nat) (b b' : OpenBlock) : Prop where
  level : b'.level = f b.level
  name : b.name = b'.name
  opening : b.opening.line = b'.opening.line
  nodes : unplacedNodes b.nodes = unplacedNodes b'.nodes

inductive Stack.Alike (f : Nat → Nat) : Stack → Stack → Prop
  | root {ns ns' : List Node} : unplacedNodes ns = unplacedNodes ns' →
      Alike f (.root ns) (.root ns')
  | component {c c' : OpenComponent} {below below' : Stack} : c.Alike f c' → Alike f below below' →
      Alike f (.component c below) (.component c' below')
  | block {b b' : OpenBlock} {owner owner' : OpenComponent} {below below' : Stack} : b.Alike f b' →
      owner.Alike f owner' → Alike f below below' →
      Alike f (.block b owner below) (.block b' owner' below')

theorem OpenComponent.Alike.node {c c' : OpenComponent} (alike : c.Alike f c') :
    unplacedNodes [c.node] = unplacedNodes [c'.node] := by
  simp only [OpenComponent.node, unplacedNodes, Component.unplaced, alike.name, alike.properties,
    alike.children]

theorem OpenComponent.Alike.addProperty {c c' : OpenComponent} (alike : c.Alike f c') {name : Text}
    {v v' : Value} (value : v.unplaced = v'.unplaced) :
    (c.addProperty ⟨name, v⟩).Alike f (c'.addProperty ⟨name, v'⟩) where
  level := alike.level
  name := alike.name
  properties := by
    simp only [OpenComponent.addProperty, unplacedProperties_append, alike.properties,
      unplacedProperties, value]
  children := alike.children

theorem OpenComponent.Alike.addChild {c c' : OpenComponent} (alike : c.Alike f c') {n n' : Node}
    (node : unplacedNodes [n] = unplacedNodes [n']) :
    OpenComponent.Alike f { c with children := c.children ++ [n] }
      { c' with children := c'.children ++ [n'] } where
  level := alike.level
  name := alike.name
  properties := alike.properties
  children := by simp only [unplacedNodes_append, alike.children, node]

namespace Stack.Alike

variable {s s' : Stack}

theorem addNode (alike : s.Alike f s') {n n' : Node}
    (node : unplacedNodes [n] = unplacedNodes [n']) : (s.addNode n).Alike f (s'.addNode n') := by
  cases alike with
  | root nodes => exact .root (by rw [unplacedNodes_append, unplacedNodes_append, nodes, node])
  | component c below => exact .component (c.addChild node) below
  | block b owner below =>
    refine .block ⟨b.level, b.name, b.opening, ?_⟩ owner below
    rw [unplacedNodes_append, unplacedNodes_append, b.nodes, node]

theorem close (alike : s.Alike f s') {level level' : Nat} (order : ∀ n, level ≤ n ↔ level' ≤ f n) :
    Agree (Stack.Alike f) (s.close level) (s'.close level') := by
  -- each test on the way asks for the order of two levels, which is that of their images
  fun_induction Stack.close level s generalizing s' with
  | case1 nodes =>
    cases alike with
    | root same => rw [Stack.close]; exact .ok (.root same)
  | case2 c below least ih =>
    cases alike with
    | component top inner =>
      rw [Stack.close_component (by rw [top.level]; exact (order _).1 least)]
      exact ih (inner.addNode top.node)
  | case3 c below most =>
    cases alike with
    | component top inner =>
      rw [Stack.close, if_neg (by rw [top.level]; exact fun le => most ((order _).2 le))]
      exact .ok (.component top inner)
  | case4 b owner below least ih =>
    cases alike with
    | block top outer inner =>
      rw [Stack.close_block (by rw [top.level]; exact (order _).1 least), ← top.name]
      refine (agree_blockValue top.nodes top.opening).bind fun v v' value => ?_
      exact ih v (.component (outer.addProperty value) inner)
  | case5 b owner below most =>
    cases alike with
    | block top outer inner =>
      rw [Stack.close, if_neg (by rw [top.level]; exact fun le => most ((order _).2 le))]
      exact .ok (.block top outer inner)

theorem nodes (alike : s.Alike f s') : unplacedNodes s.nodes = unplacedNodes s'.nodes := by
  induction alike with
  | root nodes => exact nodes
  | component _ _ ih => exact ih
  | block _ _ _ ih => exact ih

end Stack.Alike

structure Token.Alike (t t' : Token) : Prop where
  kind : t.kind = t'.kind
  value : t.value = t'.value
  line : t.location.line = t'.location.line

inductive Machine.Alike (f : Nat → Nat) : Machine → Machine → Prop
  | ready {s s' : Stack} {level : Nat} : s.Alike f s' →
      Alike f (.ready s level) (.ready s' (f level))
  | property {owner owner' : OpenComponent} {below below' : Stack} {level : Nat} {name : Text}
      {await : Await} : owner.Alike f owner' → below.Alike f below' →
      Alike f (.property owner below level name await)
        (.property owner' below' (f level) name await)

theorem Await.fault_alike (await : Await) {t t' : Token} (token : t.Alike t') {R : α → α → Prop} :
    Agree R (.error (await.fault t)) (.error (await.fault t')) := by
  obtain ⟨kind, value, line⟩ := token
  cases await with
  | colon => exact .error (by rw [fault, fault, value]) line
  | value => exact .error (by rw [fault, fault, value]) line
  | contents => exact .error (by rw [fault, fault, kind]) line
  | closing => exact .error (by rw [fault, fault, kind]) line

namespace Machine

namespace Alike

variable {m m' : Machine} {t t' : Token}

theorem place {s s' : Stack} (alike : s.Alike f s') (token : t.Alike t') (level : Nat) :
    Agree (Machine.Alike f) (Machine.place level t s) (Machine.place (f level) t' s') := by
  obtain ⟨kind, value, location⟩ := t
  obtain ⟨_, _, location'⟩ := t'
  obtain ⟨rfl, rfl, line⟩ := token
  have refused : Agree (Machine.Alike f) (.error ⟨.unexpectedToken kind value, location⟩)
      (.error ⟨.unexpectedToken kind value, location'⟩) := .error rfl line
  cases kind with
  | component => exact .ok (.ready (.component ⟨rfl, rfl, rfl, rfl⟩ alike))
  | text => exact .ok (.ready (alike.addNode rfl))
  | flag =>
    cases alike with
    | component top below => exact .ok (.ready (.component (top.addProperty rfl) below))
    | _ => exact refused
  | property =>
    cases alike with
    | component top below => exact .ok (.property top below)
    | _ => exact refused
  | _ => exact refused

theorem step (increasing : StrictMono f) (alike : m.Alike f m') (token : t.Alike t')
    (no_indent : t.kind ≠ .indent) (no_break : t.kind ≠ .lineBreak) :
    Agree (Machine.Alike f) (m.step t) (m'.step t') := by
  cases alike with
  | @ready s s' level stack =>
    rw [step_ready no_indent no_break, step_ready (token.kind ▸ no_indent) (token.kind ▸ no_break)]
    exact (stack.close fun n => increasing.le_iff_le.symm).bind fun s s' stack =>
      place stack token level
  | @property owner owner' below below' level name await top inner =>
    have refused := await.fault_alike token (R := Machine.Alike f)
    obtain ⟨kind, value, location⟩ := t
    obtain ⟨_, _, location'⟩ := t'
    obtain ⟨rfl, rfl, line⟩ := token
    cases await with
    | colon =>
      cases kind with
      | colon => exact .ok (.property top inner)
      | _ => exact refused
    | value =>
      cases kind with
      | quote => exact .ok (.property top inner)
      | number => exact .ok (.ready (.component (top.addProperty rfl) inner))
      | lineBreak => exact absurd rfl no_break
      | _ => exact refused
    | contents =>
      cases kind with
      | text => exact .ok (.property top inner)
      | _ => exact refused
    | closing =>
      cases kind with
      | quote => exact .ok (.ready (.component (top.addProperty rfl) inner))
      | _ => exact refused

theorem finish_ready {s s' : Stack} (alike : s.Alike f s') (place place' : Location)
    (level level' : Nat) :
    Agree Document.Alike ((Machine.ready s level).finish place)
      ((Machine.ready s' level').finish place') := by
  -- nothing is less than zero, so everything is closed whatever its level
  have order (n : Nat) : 0 ≤ n ↔ 0 ≤ f n := iff_of_true (Nat.zero_le _) (Nat.zero_le _)
  exact (alike.close order).bind fun s s' stack => .ok (congrArg Document.mk stack.nodes)

theorem finish (alike : m.Alike f m') {place place' : Location} (line : place.line = place'.line) :
    Agree Document.Alike (m.finish place) (m'.finish place') := by
  cases alike with
  | ready stack => exact finish_ready stack ..
  | @property _ _ _ _ _ _ await =>
    have token : Token.Alike ⟨.endOfInput, [], place⟩ ⟨.endOfInput, [], place'⟩ := ⟨rfl, rfl, line⟩
    exact await.fault_alike token

end Alike
end Machine

inductive Stream.Indented : Nat → Stream → Stream → Prop
  | none (s : Stream) : Indented 0 s s
  | one {n : Nat} {t : Token} {s rest : Stream} : t.kind = .indent → Indented n s rest →
      Indented (n + 1) (.cons t s) rest

def Stream.Idle : Stream → Prop
  | .cons t _ => t.kind = .lineBreak
  | _ => True

inductive Stream.Alike (f : Nat → Nat) : Stream → Stream → Prop
  | ended {place place' : Location} : place.line = place'.line →
      Alike f (.ended place) (.ended place')
  | malformed {place place' : Location} : place.line = place'.line →
      Alike f (.malformed place) (.malformed place')
  | token {t t' : Token} {s s' : Stream} : t.Alike t' → t.kind ≠ .indent → t.kind ≠ .lineBreak →
      Alike f s s' → Alike f (.cons t s) (.cons t' s')
  | line {t t' : Token} {n n' : Nat} {s s' rest rest' : Stream} : t.Alike t' →
      t.kind = .lineBreak → s.Indented n rest → s'.Indented n' rest' →
      n' = f n ∨ rest.Idle → Alike f rest rest' → Alike f (.cons t s) (.cons t' s')

theorem Machine.run_indented {n : Nat} {s rest : Stream} (indented : s.Indented n rest)
    (stack : Stack) (level : Nat) :
    (ready stack level).run s = (ready stack (level + n)).run rest := by
  induction indented generalizing level with
  | none s => rfl
  | @one n t s rest kind _ ih =>
    rw [run_cons, step_indent kind, Attempt.ok_bind, ih, Nat.add_assoc, Nat.add_comm 1]

/-- Whether two machines are alike, or no item comes before their levels are forgotten. -/
inductive Machine.Follow (f : Nat → Nat) (s : Stream) : Machine → Machine → Prop
  | alike {m m' : Machine} : m.Alike f m' → Follow f s m m'
  | idle {stack stack' : Stack} {level level' : Nat} : s.Idle → stack.Alike f stack' →
      Follow f s (.ready stack level) (.ready stack' level')

inductive Machine.AtLine (f : Nat → Nat) : Machine → Machine → Prop
  | ready {stack stack' : Stack} : stack.Alike f stack' →
      AtLine f (.ready stack 0) (.ready stack' 0)

theorem Machine.Follow.lineBreak {s : Stream} {m m' : Machine} {t t' : Token}
    (follow : Follow f s m m') (token : t.Alike t') (line_break : t.kind = .lineBreak) :
    Agree (Machine.AtLine f) (m.step t) (m'.step t') := by
  obtain ⟨kind, value, place⟩ := t
  obtain ⟨_, _, place'⟩ := t'
  cases line_break
  cases follow with
  | idle _ stack =>
    obtain ⟨rfl, rfl, -⟩ := token
    exact .ok (.ready stack)
  | alike same =>
    cases same with
    | ready stack =>
      obtain ⟨rfl, rfl, -⟩ := token
      exact .ok (.ready stack)
    | @property owner owner' below below' level name await top inner =>
      have refused := await.fault_alike token (R := Machine.AtLine f)
      obtain ⟨rfl, rfl, line⟩ := token
      cases await with
      | value => exact .ok (.ready (.block ⟨rfl, rfl, line, rfl⟩ top inner))
      | _ => exact refused

theorem Stream.Alike.run (increasing : StrictMono f) {s s' : Stream} (alike : s.Alike f s')
    {m m' : Machine} (follow : Machine.Follow f s m m') :
    Agree Document.Alike (m.run s) (m'.run s') := by
  -- machines stay alike; on a line without items only their stacks do, up to the next line end
  induction alike generalizing m m' with
  | ended line =>
    cases follow with
    | alike same => exact same.finish line
    | idle _ stack => exact Machine.Alike.finish_ready stack ..
  | malformed line => exact .error rfl line
  | @token t t' s s' token no_indent no_break _ ih =>
    cases follow with
    | alike same =>
      exact (same.step increasing token no_indent no_break).bind fun m m' next => ih (.alike next)
    | idle idle => exact absurd idle no_break
  | @line t t' n n' s s' rest rest' token line_break units units' mapped _ ih =>
    refine (follow.lineBreak token line_break).bind ?_
    rintro _ _ ⟨same⟩
    rw [Machine.run_indented units, Machine.run_indented units', Nat.zero_add, Nat.zero_add]
    rcases mapped with rfl | idle
    · exact ih (.alike (.ready same))
    · exact ih (.idle idle same)

end

end Inlay.Markup
