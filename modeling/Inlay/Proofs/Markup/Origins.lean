import Inlay.Proofs.Markup.Descent
import Inlay.Proofs.Markup.Levels

namespace Inlay.Markup

def Error.About (e : Error) (t : Token) : Prop :=
  e.location = t.location ∧
    match e.cause with
    | .unexpectedToken found value => found = t.kind ∧ value = t.value
    | .expectedColon value | .expectedValue value => value = t.value
    | .malformedString (.noContents found) | .malformedString (.notClosed found) => found = t.kind
    | .tooManyComponents _ | .mixedValue => t.kind = .lineBreak
    | _ => False

variable (P : Token → Token → Prop)

structure Token.Related (t t' : Token) : Prop where
  kind : t.kind = t'.kind
  value : t.value = t'.value
  places : P t t'

inductive Traced (M : Location → Location → Prop) (R : α → α → Prop) :
    Except Error α → Except Error α → Prop
  | ok {a a' : α} : R a a' → Traced M R (.ok a) (.ok a')
  | about {e e' : Error} {t t' : Token} : t.Related P t' → e.About t → e'.About t' →
      e.cause = e'.cause → Traced M R (.error e) (.error e')
  | malformed {place place' : Location} : M place place' →
      Traced M R (.error ⟨.malformedIndent, place⟩) (.error ⟨.malformedIndent, place'⟩)

variable {P} {M : Location → Location → Prop}

theorem Traced.bind {R : α → α → Prop} {S : β → β → Prop} {r r' : Except Error α}
    {next next' : α → Except Error β} (first : Traced P M R r r')
    (rest : ∀ a a', R a a' → Traced P M S (next a) (next' a')) :
    Traced P M S (r >>= next) (r' >>= next') := by
  cases first with
  | ok related => exact rest _ _ related
  | about token about about' cause => exact .about token about about' cause
  | malformed places => exact .malformed places

variable (P) in
mutual

inductive Component.Related : Component → Component → Prop
  | mk {name name' : Text} {properties properties' : List Property} {children children' : List Node}
      {location location' : Location} :
      Token.Related P ⟨.component, name, location⟩ ⟨.component, name', location'⟩ →
      RelatedProperties properties properties' → RelatedNodes children children' →
      Component.Related ⟨name, properties, children, location⟩
        ⟨name', properties', children', location'⟩

inductive RelatedProperties : List Property → List Property → Prop
  | nil : RelatedProperties [] []
  | cons {name : Text} {v v' : Value} {rest rest' : List Property} : Value.Related v v' →
      RelatedProperties rest rest' → RelatedProperties (⟨name, v⟩ :: rest) (⟨name, v'⟩ :: rest')

inductive Value.Related : Value → Value → Prop
  | string (s : Text) : Value.Related (.string s) (.string s)
  | flag : Value.Related .flag .flag
  | component {inner inner' : Component} : Component.Related inner inner' →
      Value.Related (.component inner) (.component inner')

inductive RelatedNodes : List Node → List Node → Prop
  | nil : RelatedNodes [] []
  | text {rest rest' : List Node} (s : Text) : RelatedNodes rest rest' →
      RelatedNodes (.text s :: rest) (.text s :: rest')
  | component {inner inner' : Component} {rest rest' : List Node} :
      Component.Related inner inner' → RelatedNodes rest rest' →
      RelatedNodes (.component inner :: rest) (.component inner' :: rest')

end

variable (P) in
def Document.Related (d d' : Document) : Prop := RelatedNodes P d.nodes d'.nodes

theorem RelatedProperties.append {ps ps' qs qs' : List Property}
    (first : RelatedProperties P ps ps') (later : RelatedProperties P qs qs') :
    RelatedProperties P (ps ++ qs) (ps' ++ qs') := by
  induction ps generalizing ps' with
  | nil => cases first; exact later
  | cons p ps ih => cases first with | cons value rest => exact .cons value (ih rest)

theorem RelatedNodes.append {ns ns' ms ms' : List Node} (first : RelatedNodes P ns ns')
    (later : RelatedNodes P ms ms') : RelatedNodes P (ns ++ ms) (ns' ++ ms') := by
  induction ns generalizing ns' with
  | nil => cases first; exact later
  | cons n ns ih =>
    cases first with
    | text s rest => exact .text s (ih rest)
    | component inner rest => exact .component inner (ih rest)

theorem RelatedNodes.counts {ns ns' : List Node} (related : RelatedNodes P ns ns') :
    (ns.filterMap Node.component?).length = (ns'.filterMap Node.component?).length ∧
      ns.filterMap Node.text? = ns'.filterMap Node.text? := by
  induction ns generalizing ns' with
  | nil => cases related; exact ⟨rfl, rfl⟩
  | cons n ns ih =>
    cases related with
    | text s rest =>
      obtain ⟨components, texts⟩ := ih rest
      exact ⟨components, congrArg (s :: ·) texts⟩
    | component inner rest =>
      obtain ⟨components, texts⟩ := ih rest
      exact ⟨congrArg (· + 1) components, texts⟩

theorem RelatedNodes.blockValue {ns ns' : List Node} (related : RelatedNodes P ns ns')
    {t t' : Token} (token : t.Related P t') (line_break : t.kind = .lineBreak) :
    Traced P M (Value.Related P) (Parser.blockValue ns t.location)
      (Parser.blockValue ns' t'.location) := by
  have line_break' : t'.kind = .lineBreak := token.kind.symm.trans line_break
  by_cases single : ∃ inner, ns = [.component inner]
  · obtain ⟨inner, rfl⟩ := single
    cases related with
    | component inner rest =>
      cases rest
      rw [Parser.blockValue_component, Parser.blockValue_component]
      exact .ok (.component inner)
  · have other : ∀ inner, ns ≠ [.component inner] := fun inner same => single ⟨inner, same⟩
    have other' : ∀ inner, ns' ≠ [.component inner] := by
      rintro inner rfl
      cases related with
      | component _ rest =>
        cases rest
        exact other _ rfl
    obtain ⟨components, texts⟩ := related.counts
    rw [Parser.blockValue_of_ne other, Parser.blockValue_of_ne other', components, texts]
    split
    · exact .about token ⟨rfl, line_break⟩ ⟨rfl, line_break'⟩ rfl
    · split
      · exact .ok (.string _)
      · exact .about token ⟨rfl, line_break⟩ ⟨rfl, line_break'⟩ rfl

variable (P) in
structure OpenComponent.Related (c c' : OpenComponent) : Prop where
  level : c.level = c'.level
  mark : Token.Related P ⟨.component, c.name, c.location⟩ ⟨.component, c'.name, c'.location⟩
  properties : RelatedProperties P c.properties c'.properties
  children : RelatedNodes P c.children c'.children

variable (P) in
structure OpenBlock.Related (b b' : OpenBlock) : Prop where
  level : b.level = b'.level
  name : b.name = b'.name
  opening : ∃ t t' : Token, t.Related P t' ∧ t.kind = .lineBreak ∧ t.location = b.opening ∧
    t'.location = b'.opening
  nodes : RelatedNodes P b.nodes b'.nodes

variable (P) in
inductive Stack.Related : Stack → Stack → Prop
  | root {ns ns' : List Node} : RelatedNodes P ns ns' → Related (.root ns) (.root ns')
  | component {c c' : OpenComponent} {below below' : Stack} : c.Related P c' →
      Related below below' → Related (.component c below) (.component c' below')
  | block {b b' : OpenBlock} {owner owner' : OpenComponent} {below below' : Stack} :
      b.Related P b' → owner.Related P owner' → Related below below' →
      Related (.block b owner below) (.block b' owner' below')

theorem OpenComponent.Related.node {c c' : OpenComponent} (related : c.Related P c') :
    RelatedNodes P [c.node] [c'.node] :=
  .component (.mk related.mark related.properties related.children) .nil

theorem OpenComponent.Related.addProperty {c c' : OpenComponent} (related : c.Related P c')
    {name : Text} {v v' : Value} (value : v.Related P v') :
    (c.addProperty ⟨name, v⟩).Related P (c'.addProperty ⟨name, v'⟩) :=
  ⟨related.level, related.mark, related.properties.append (.cons value .nil), related.children⟩

namespace Stack.Related

variable {s s' : Stack}

theorem addNode (related : s.Related P s') {n n' : Node} (node : RelatedNodes P [n] [n']) :
    (s.addNode n).Related P (s'.addNode n') := by
  cases related with
  | root nodes => exact .root (nodes.append node)
  | component c below =>
    exact .component ⟨c.level, c.mark, c.properties, c.children.append node⟩ below
  | block b owner below =>
    exact .block ⟨b.level, b.name, b.opening, b.nodes.append node⟩ owner below

theorem close (related : s.Related P s') (level : Nat) :
    Traced P M (Stack.Related P) (s.close level) (s'.close level) := by
  fun_induction Stack.close level s generalizing s' with
  | case1 nodes =>
    cases related with
    | root same => rw [Stack.close]; exact .ok (.root same)
  | case2 c below least ih =>
    cases related with
    | component top inner =>
      rw [Stack.close_component (top.level ▸ least)]
      exact ih (inner.addNode top.node)
  | case3 c below most =>
    cases related with
    | component top inner =>
      rw [Stack.close, if_neg (top.level ▸ most)]
      exact .ok (.component top inner)
  | case4 b owner below least ih =>
    cases related with
    | block top outer inner =>
      obtain ⟨t, t', token, line_break, place, place'⟩ := top.opening
      rw [Stack.close_block (top.level ▸ least), ← top.name, ← place, ← place']
      refine (top.nodes.blockValue token line_break).bind fun v v' value => ?_
      exact ih v (.component (outer.addProperty value) inner)
  | case5 b owner below most =>
    cases related with
    | block top outer inner =>
      rw [Stack.close, if_neg (top.level ▸ most)]
      exact .ok (.block top outer inner)

theorem nodes (related : s.Related P s') : RelatedNodes P s.nodes s'.nodes := by
  induction related with
  | root nodes => exact nodes
  | component _ _ ih => exact ih
  | block _ _ _ ih => exact ih

end Stack.Related

variable (P) in
inductive Machine.Related : Machine → Machine → Prop
  | ready {s s' : Stack} (level : Nat) : s.Related P s' → Related (.ready s level) (.ready s' level)
  | property {owner owner' : OpenComponent} {below below' : Stack} (level : Nat) (name : Text)
      (await : Await) : owner.Related P owner' → below.Related P below' →
      Related (.property owner below level name await) (.property owner' below' level name await)

theorem Await.about_fault (await : Await) (t : Token) : (await.fault t).About t := by
  cases await <;> exact ⟨rfl, rfl⟩

theorem Await.fault_related (await : Await) {t t' : Token} (token : t.Related P t')
    {R : α → α → Prop} : Traced P M R (.error (await.fault t)) (.error (await.fault t')) := by
  refine .about token (await.about_fault t) (await.about_fault t') ?_
  have string (fault : Token.Kind → StringFault) :
      Error.Cause.malformedString (fault t.kind) = .malformedString (fault t'.kind) := by
    rw [token.kind]
  cases await with
  | colon => exact congrArg Error.Cause.expectedColon token.value
  | value => exact congrArg Error.Cause.expectedValue token.value
  | contents => exact string .noContents
  | closing => exact string .notClosed

namespace Machine.Related

variable {m m' : Machine} {t t' : Token}

theorem place {s s' : Stack} (related : s.Related P s') (token : t.Related P t') (level : Nat) :
    Traced P M (Machine.Related P) (Machine.place level t s) (Machine.place level t' s') := by
  obtain ⟨kind, value, location⟩ := t
  obtain ⟨_, _, location'⟩ := t'
  have same := token
  obtain ⟨rfl, rfl, -⟩ := same
  have refused : Traced P M (Machine.Related P) (.error ⟨.unexpectedToken kind value, location⟩)
      (.error ⟨.unexpectedToken kind value, location'⟩) :=
    .about token ⟨rfl, rfl, rfl⟩ ⟨rfl, rfl, rfl⟩ rfl
  cases kind with
  | component => exact .ok (.ready level (.component ⟨rfl, token, .nil, .nil⟩ related))
  | text => exact .ok (.ready level (related.addNode (.text value .nil)))
  | flag =>
    cases related with
    | component top below => exact .ok (.ready level (.component (top.addProperty .flag) below))
    | _ => exact refused
  | property =>
    cases related with
    | component top below => exact .ok (.property level value .colon top below)
    | _ => exact refused
  | _ => exact refused

theorem step (related : m.Related P m') (token : t.Related P t') :
    Traced P M (Machine.Related P) (m.step t) (m'.step t') := by
  cases related with
  | @ready s s' level stack =>
    by_cases indent : t.kind = .indent
    · simp only [Machine.step, indent, token.kind.symm.trans indent]
      exact .ok (.ready _ stack)
    by_cases line_break : t.kind = .lineBreak
    · simp only [Machine.step, line_break, token.kind.symm.trans line_break]
      exact .ok (.ready 0 stack)
    rw [step_ready indent line_break,
      step_ready (token.kind ▸ indent) (token.kind ▸ line_break)]
    exact (stack.close level).bind fun s s' stack => place stack token level
  | @property owner owner' below below' level name await top inner =>
    have refused := await.fault_related token (M := M) (R := Machine.Related P)
    obtain ⟨kind, value, location⟩ := t
    obtain ⟨_, _, location'⟩ := t'
    have same := token
    obtain ⟨rfl, rfl, -⟩ := same
    cases await with
    | colon =>
      cases kind with
      | colon => exact .ok (.property level name .value top inner)
      | _ => exact refused
    | value =>
      cases kind with
      | quote => exact .ok (.property level name .contents top inner)
      | number => exact .ok (.ready level (.component (top.addProperty (.string value)) inner))
      | lineBreak =>
        have block : OpenBlock.Related P ⟨level, name, location, []⟩ ⟨level, name, location', []⟩ :=
          ⟨rfl, rfl, ⟨_, _, token, rfl, rfl, rfl⟩, .nil⟩
        exact .ok (.ready 0 (.block block top inner))
      | _ => exact refused
    | contents =>
      cases kind with
      | text => exact .ok (.property level name (.closing value) top inner)
      | _ => exact refused
    | closing contents =>
      cases kind with
      | quote => exact .ok (.ready level (.component (top.addProperty (.string contents)) inner))
      | _ => exact refused

theorem finish (related : m.Related P m') {place place' : Location}
    (token : Token.Related P ⟨.endOfInput, [], place⟩ ⟨.endOfInput, [], place'⟩) :
    Traced P M (Document.Related P) (m.finish place) (m'.finish place') := by
  cases related with
  | ready level stack => exact (stack.close 0).bind fun s s' stack => .ok stack.nodes
  | property level name await => exact await.fault_related token

end Machine.Related

inductive Stream.Blank : Stream → Stream → Prop
  | none (s : Stream) : Blank s s
  | line {n : Nat} {t : Token} {s between rest : Stream} : s.Indented n (.cons t between) →
      t.kind = .lineBreak → Blank between rest → Blank s rest

variable (P) in
/-- Whether two streams have related tokens, but for lines without items that one of them has more
than the other behind its line ends. -/
inductive Stream.Related (M : Location → Location → Prop) : Stream → Stream → Prop
  | ended {place place' : Location} :
      Token.Related P ⟨.endOfInput, [], place⟩ ⟨.endOfInput, [], place'⟩ →
      Related M (.ended place) (.ended place')
  | malformed {place place' : Location} : M place place' →
      Related M (.malformed place) (.malformed place')
  | token {t t' : Token} {s s' : Stream} : t.Related P t' → Related M s s' →
      Related M (.cons t s) (.cons t' s')
  | line {t t' : Token} {s s' rest : Stream} : t.Related P t' → t.kind = .lineBreak →
      s'.Blank rest → Related M s rest → Related M (.cons t s) (.cons t' s')

theorem Machine.run_blank {s rest : Stream} (blank : s.Blank rest) (stack : Stack) :
    (ready stack 0).run s = (ready stack 0).run rest := by
  induction blank with
  | none s => rfl
  | line indents line_break _ ih =>
    rw [run_indented indents, run, step, line_break]
    exact ih

theorem Machine.ready_of_lineBreak {m next : Machine} {t : Token} (line_break : t.kind = .lineBreak)
    (stepped : m.step t = .ok next) : ∃ stack, next = ready stack 0 := by
  cases m with
  | ready stack level =>
    rw [step, line_break] at stepped
    cases stepped
    exact ⟨stack, rfl⟩
  | property owner below level name await =>
    rw [step.eq_def] at stepped
    cases await <;> rw [line_break] at stepped <;> cases stepped
    exact ⟨_, rfl⟩

theorem Stream.Related.run {s s' : Stream} (related : s.Related P M s') {m m' : Machine}
    (machine : m.Related P m') :
    Traced P M (Document.Related P) (m.run s) (m'.run s') := by
  induction related generalizing m m' with
  | ended token => exact machine.finish token
  | malformed places => exact .malformed places
  | token token _ ih => exact (machine.step token).bind fun m m' next => ih next
  | @line t t' s s' rest token line_break blank _ ih =>
    -- behind a line end the machine is at level 0, and there it passes over blank lines
    have run_rest (next : Machine) (stepped : m'.step t' = .ok next) :
        next.run s' = next.run rest := by
      obtain ⟨stack, rfl⟩ := Machine.ready_of_lineBreak (token.kind ▸ line_break) stepped
      exact Machine.run_blank blank stack
    have same : (m'.step t' >>= (·.run s')) = (m'.step t' >>= (·.run rest)) := by
      cases stepped : m'.step t' with
      | error e => rfl
      | ok next => exact run_rest next stepped
    refine Eq.subst (motive := Traced P M _ _) same.symm ?_
    exact (machine.step token).bind fun m m' next => ih next

theorem Stream.Related.parse {s s' : Text} (related : (ofText s).Related P M (ofText s')) :
    Traced P M (Document.Related P) (Markup.parse s) (Markup.parse s') := by
  rw [Markup.parse, Markup.parse, ← Machine.run_eq_ofStream, ← Machine.run_eq_ofStream]
  exact related.run (.ready 0 (.root .nil))

end Inlay.Markup
