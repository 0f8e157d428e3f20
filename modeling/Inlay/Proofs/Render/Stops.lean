import Inlay.Proofs.Render.Journal

namespace Inlay.Render

open Inlay.Markdown (Node)

def nodeAt? (root : Node) (path : Path) : Option Node :=
  path.foldlM (fun n i => n.children[i]?) root

theorem nodeAt?_child (root : Node) (path : Path) (i : Nat) :
    nodeAt? root (path ++ [i]) = (nodeAt? root path).bind (·.children[i]?) := by
  simp only [nodeAt?, List.foldlM_append, List.foldlM_cons, List.foldlM_nil, bind_pure]
  rfl

def Event.Stops (e : Event) (left : Sink) : Prop :=
  ∃ entering, e.deed = .fallback entering (.ok .stop) left

namespace Site

def Takes (site : Site) (d : Host.Document) (path : Path) : Prop :=
  ∃ n, nodeAt? d.root path = some n ∧ site.element? n ≠ none

/-- Whether the walk that visits a node has come by another one on its way: this is the node or lies
above it, and from there down to it no component takes over. -/
def ComesBy (site : Site) (d : Host.Document) (above path : Path) : Prop :=
  above <+: path ∧ ∀ r, above <+: r → r <+: path → r ≠ path → ¬ site.Takes d r

section

variable {site : Site} {d : Host.Document} {p q x : Path}

theorem comesBy_self (p : Path) : site.ComesBy d p p :=
  ⟨List.prefix_refl p, fun _ down up other =>
    absurd (up.eq_of_length (Nat.le_antisymm up.length_le down.length_le)) other⟩

theorem ComesBy.later (comes : site.ComesBy d q x) (down : q <+: p) (on : p <+: x) :
    site.ComesBy d p x :=
  ⟨on, fun r from_p to_x other => comes.2 r (down.trans from_p) to_x other⟩

theorem not_comesBy_of_takes (taken : site.Takes d p) (inside : p <+: x) (other : p ≠ x) :
    ¬ site.ComesBy d p x :=
  fun comes => comes.2 p (List.prefix_refl p) inside other taken

theorem ne_of_child {i : Nat} (inside : p ++ [i] <+: x) : p ≠ x := by
  rintro rfl
  have longer := inside.length_le
  rw [List.length_append, List.length_singleton] at longer
  omega

theorem above_parent {i j : Nat} {y : Path} (differ : i ≠ j) (left : p ++ [i] <+: x)
    (right : p ++ [j] <+: y) (above_x : q <+: x) (above_y : q <+: y) : q <+: p := by
  have apart : ¬ p ++ [i] <+: q := by
    intro child
    have same := List.prefix_of_prefix_length_le (child.trans above_y) right (by simp)
    simp [differ] at same
  rcases List.prefix_or_prefix_of_prefix above_x left with up | down
  · rcases List.prefix_concat_iff.1 up with same | up
    · exact absurd (same ▸ List.prefix_refl _) apart
    · exact up
  · exact absurd down apart

end

/-- No event after a stop is at or below a node that the walk has come by. -/
def Ordered (site : Site) (d : Host.Document) (events : List Event) : Prop :=
  events.Pairwise fun e later => ∀ left, e.Stops left →
    ∀ q, site.ComesBy d q e.path → ¬ q <+: later.path

def Quiet (site : Site) (d : Host.Document) (p : Path) (events : List Event) : Prop :=
  ∀ e ∈ events, ∀ left, e.Stops left → ¬ site.ComesBy d p e.path

def Ends (site : Site) (d : Host.Document) (p : Path) (r : Report Status) : Prop :=
  ∀ e ∈ r.2, ∀ left, e.Stops left → site.ComesBy d p e.path → r.1 = some (.ok .stop, left)

section

variable {site : Site} {d : Host.Document} {p : Path} {before after : List Event}

theorem Ordered.append (first : site.Ordered d before) (second : site.Ordered d after)
    (inside : ∀ e ∈ before, p <+: e.path) (quiet : site.Quiet d p before)
    (apart : ∀ e ∈ before, ∀ later ∈ after, ∀ q, q <+: e.path → q <+: later.path → q <+: p) :
    site.Ordered d (before ++ after) := by
  refine List.pairwise_append.2 ⟨first, second, ?_⟩
  intro e member later other left stops q comes above
  have up := apart e member later other q comes.1 above
  exact quiet e member left stops (comes.later up (inside e member))

theorem Ends.quiet {r : Report Status} (ends : site.Ends d p r)
    (goes_on : ∀ left, r.1 ≠ some (.ok .stop, left)) : site.Quiet d p r.2 :=
  fun e member left stops comes => goes_on left (ends e member left stops comes)

end

/-- What is known of a walk that has come by a node. -/
structure Orderly (site : Site) (d : Host.Document) (p : Path) (r : Report Status) : Prop where
  inside : ∀ e ∈ r.2, p <+: e.path
  ordered : site.Ordered d r.2
  ends : site.Ends d p r

namespace Orderly

variable {site : Site} {d : Host.Document} {p : Path} {action : Journaled Status}
  {next : Status → Journaled Status} {s : Sink}

theorem pure (answer : Status) : site.Orderly d p ((Pure.pure answer : Journaled Status) s) :=
  ⟨nofun, .nil, nofun⟩

theorem up {i : Nat} {r : Report Status} (below : site.Orderly d (p ++ [i]) r) :
    site.Orderly d p r where
  inside := fun e member => (List.prefix_append p [i]).trans (below.inside e member)
  ordered := below.ordered
  ends := fun e member left stops comes =>
    below.ends e member left stops (comes.later (List.prefix_append p [i]) (below.inside e member))

theorem bind (first : site.Orderly d p (action s)) (stopped : next .stop = Pure.pure .stop)
    (rest : ∀ answer s', (action s).1 = some (.ok answer, s') → answer ≠ .stop →
      site.Orderly d p (next answer s') ∧ ∀ e ∈ (action s).2, ∀ later ∈ (next answer s').2,
        ∀ q, q <+: e.path → q <+: later.path → q <+: p) :
    site.Orderly d p ((action >>= next) s) := by
  rcases Journaled.bind_cases action next s with ⟨answer, s', done, whole⟩ | ⟨failed, same, -⟩
  · by_cases stop : answer = .stop
    · have same : (action >>= next) s = action s := by
        rw [whole, stop, stopped]
        refine Prod.ext ?_ (List.append_nil _)
        rw [done, stop]
        rfl
      rw [same]
      exact first
    · obtain ⟨second, apart⟩ := rest answer s' done stop
      -- a stop in this walk would have been the answer
      have quiet : site.Quiet d p (action s).2 := by
        refine first.ends.quiet fun left ended => stop ?_
        rw [done] at ended
        cases ended
        rfl
      rw [whole]
      refine ⟨?inside, first.ordered.append second.ordered first.inside quiet apart, ?ends⟩
      case inside =>
        intro e member
        rcases List.mem_append.1 member with early | late
        · exact first.inside e early
        · exact second.inside e late
      case ends =>
        intro e member left stops comes
        rcases List.mem_append.1 member with early | late
        · exact absurd comes (quiet e early left stops)
        · exact second.ends e late left stops comes
  · refine ⟨same ▸ first.inside, same ▸ first.ordered, ?_⟩
    intro e member left stops comes
    rw [same] at member
    exact absurd (first.ends e member left stops comes) (failed .stop left)

end Orderly

end Site

namespace Web

open Site

section

variable {web : Web} {home : Nat} {below : Below} {d : Host.Document} {source : Text}
    {ctx : Context}
  {p : Path} {n : Node} {each : Journaled Unit} {s : Sink}

theorem orderly_of_no_stop {r : Report Status} (here : ∀ e ∈ r.2, e.path = p)
    (no_stop : ∀ e ∈ r.2, ∀ left, ¬ e.Stops left) :
    (web home).Orderly d p r where
  inside := fun e member => here e member ▸ List.prefix_refl _
  ordered := List.pairwise_of_forall_mem_list fun e member _ _ left stops =>
    absurd stops (no_stop e member left)
  ends := fun e member left stops => absurd stops (no_stop e member left)

theorem orderly_ask (entering : Bool) (answer : Emit Status) :
    (web home).Orderly d p (Journaled.ask p entering answer s) := by
  refine ⟨?inside, List.pairwise_singleton _ _, ?ends⟩
  case inside =>
    intro e member
    cases List.mem_singleton.1 member
    exact List.prefix_refl _
  case ends =>
    intro e member left stops comes
    cases List.mem_singleton.1 member
    obtain ⟨_, same⟩ := stops
    obtain ⟨-, answered, left_behind⟩ := Deed.fallback.inj same
    exact congrArg some (Prod.ext answered left_behind)

def From (p : Path) (i : Nat) (events : List Event) : Prop :=
  ∀ e ∈ events, ∃ j, i ≤ j ∧ p ++ [j] <+: e.path

theorem From.inside {i : Nat} {events : List Event} (children : From p i events) :
    ∀ e ∈ events, p <+: e.path := by
  intro e member
  obtain ⟨j, -, child⟩ := children e member
  exact (List.prefix_append p [j]).trans child

theorem From.quiet {i : Nat} {events : List Event} (children : From p i events)
    (taken : (web home).Takes d p) : (web home).Quiet d p events := by
  intro e member _ _
  obtain ⟨j, -, child⟩ := children e member
  exact not_comesBy_of_takes taken (children.inside e member) (ne_of_child child)

theorem orderly_elementAt {events last : List Event} {outcome : Option (Except Error Status × Sink)}
    (taken : (web home).Takes d p) (children : From p 0 events)
    (ordered : (web home).Ordered d events) (component : ∀ e ∈ last, e = ⟨p, .component⟩) :
    (web home).Orderly d p (outcome, events ++ last) := by
  have here : ∀ e ∈ last, e.path = p := fun e member => by rw [component e member]
  have no_stop : ∀ e ∈ last, ∀ left, ¬ e.Stops left := by
    rintro e member left ⟨entering, stops⟩
    rw [component e member] at stops
    cases stops
  have final : (web home).Orderly d p (outcome, last) := orderly_of_no_stop here no_stop
  refine ⟨?inside, ?ordered, ?ends⟩
  case inside =>
    intro e member
    rcases List.mem_append.1 member with early | late
    · exact children.inside e early
    · exact final.inside e late
  case ordered =>
    refine ordered.append final.ordered children.inside (children.quiet taken) ?_
    exact fun e _ later member q _ above => here later member ▸ above
  case ends =>
    intro e member left stops comes
    rcases List.mem_append.1 member with early | late
    · exact absurd comes (children.quiet taken e early left stops)
    · exact absurd stops (no_stop e late left)

theorem orderly_visitAt (found : nodeAt? d.root p = some n)
    (walks : (web home).Takes d p → ∀ s, From p 0 (each s).2 ∧ (web home).Ordered d (each s).2)
    (entering : Bool) : (web home).Orderly d p
    (web.visitAt home below d source ctx p n each entering s) := by
  rcases visitAt_cases web home below d source ctx p n each entering with
    ⟨answer, asked⟩ | ⟨work, -, marked⟩ | ⟨e, -, taken, elements⟩ | ⟨-, left⟩
  · rw [asked]
    exact orderly_ask entering answer
  · obtain ⟨outcome, skipped, -⟩ := Journaled.skipping_apply (.enter p .markup work) s
    rw [marked, skipped]
    refine orderly_of_no_stop ?_ ?_
    · intro e member
      rw [List.mem_singleton.1 member]
    · rintro e member left ⟨entering, stops⟩
      rw [List.mem_singleton.1 member] at stops
      cases stops
  · obtain ⟨outcome, skipped, -⟩ :=
      Journaled.skipping_apply (elementAt home below d ctx e p n each) s
    obtain ⟨last, events, component⟩ := elementAt_events home below d ctx e p n each s
    have takes : (web home).Takes d p := ⟨n, found, by rw [taken]; nofun⟩
    obtain ⟨children, ordered⟩ := walks takes (.empty none)
    rw [elements, skipped, events]
    exact orderly_elementAt takes children ordered component
  · rw [left]
    exact .pure .skipChildren

theorem visitAt_here {entering : Bool} (alone : entering = false ∨
      ∃ s', (web.visitAt home below d source ctx p n each entering s).1 =
        some (.ok .continue, s')) :
    ∀ e ∈ (web.visitAt home below d source ctx p n each entering s).2, e.path = p := by
  rcases visitAt_cases web home below d source ctx p n each entering with
    ⟨answer, asked⟩ | ⟨work, enters, marked⟩ | ⟨e, enters, -, elements⟩ | ⟨-, left⟩
  · rw [asked]
    intro e member
    rw [List.mem_singleton.1 member]
  · obtain ⟨outcome, skipped, answers⟩ := Journaled.skipping_apply (.enter p .markup work) s
    rw [marked, skipped]
    intro e member
    rw [List.mem_singleton.1 member]
  · obtain ⟨outcome, skipped, answers⟩ :=
      Journaled.skipping_apply (elementAt home below d ctx e p n each) s
    rw [elements, skipped, enters] at alone
    rcases alone with leaves | ⟨s', going_on⟩
    · cases leaves
    · cases answers _ _ going_on
  · rw [left]
    exact nofun

end

section

variable {web : Web} {home : Nat} {below : Below} {d : Host.Document} {source : Text}
    {ctx : Context}

theorem orderly_tourNode {p : Path} {n : Node} {each : Journaled Unit} {inside : Journaled Status}
    (found : nodeAt? d.root p = some n)
    (alone : (web home).Takes d p → ∀ s, From p 0 (each s).2 ∧ (web home).Ordered d (each s).2)
    (together : ∀ s, (web home).Orderly d p (inside s)) (s : Sink) :
    (web home).Orderly d p (tourNode (web.visitAt home below d source ctx p) n each inside s) := by
  have visits (entering : Bool) (s : Sink) :
      (web home).Orderly d p (web.visitAt home below d source ctx p n each entering s) :=
    orderly_visitAt found alone entering
  have leaves (s : Sink) :
      ∀ e ∈ (web.visitAt home below d source ctx p n each false s).2, e.path = p :=
    visitAt_here (.inl rfl)
  refine (visits true s).bind rfl fun answer s' done going_on => ?_
  cases answer with
  | stop => cases going_on rfl
  | skipChildren =>
    exact ⟨visits false s', fun _ _ later member q _ above => leaves s' later member ▸ above⟩
  | «continue» =>
    have here := visitAt_here (.inr ⟨s', done⟩)
    refine ⟨?_, fun e member _ _ q above _ => here e member ▸ above⟩
    refine (together s').bind rfl fun answer s'' _ going_on => ?_
    cases answer with
    | stop => cases going_on rfl
    | _ =>
      exact ⟨visits false s'', fun _ _ later member q _ above => leaves s'' later member ▸ above⟩

theorem found_later {root : Node} {p : Path} {i : Nat} {n : Node} {rest : List Node}
    (found : ∀ k, nodeAt? root (p ++ [i + k]) = (n :: rest)[k]?) (k : Nat) :
    nodeAt? root (p ++ [i + 1 + k]) = rest[k]? := by
  rw [Nat.add_right_comm]
  exact found (k + 1)

theorem From.apart {p q : Path} {i : Nat} {events : List Event} {e later : Event}
    (children : From p (i + 1) events) (first : p ++ [i] <+: e.path) (member : later ∈ events)
    (above : q <+: e.path) (above_later : q <+: later.path) : q <+: p := by
  obtain ⟨j, further, child⟩ := children later member
  exact above_parent (Nat.ne_of_lt further) first child above above_later

-- Induction on the tree.  The children of a node that is taken over are walked each on its own, and
-- no walk below has come by the node; otherwise the walk goes through all of them, up to a stop.
mutual

theorem orderly_tourAt {p : Path} {n : Node} (found : nodeAt? d.root p = some n) (s : Sink) :
    (web home).Orderly d p (tourAt (web.visitAt home below d source ctx) p n s) := by
  cases n with
  | leaf l =>
    have childless (s : Sink) : From p 0 ((pure () : Journaled Unit) s).2 ∧
        (web home).Ordered d ((pure () : Journaled Unit) s).2 := ⟨nofun, .nil⟩
    rw [tourAt]
    exact orderly_tourNode found (fun _ => childless) (fun _ => .pure .continue) s
  | branch b inside =>
    have children (k : Nat) : nodeAt? d.root (p ++ [0 + k]) = inside[k]? := by
      rw [nodeAt?_child, found, Nat.zero_add]
      rfl
    rw [tourAt]
    exact orderly_tourNode found (fun taken => ordered_tourEachAt taken children)
      (fun s => (orderly_tourAllAt children s).1) s

theorem orderly_tourAllAt {p : Path} {i : Nat} {ns : List Node}
    (found : ∀ k, nodeAt? d.root (p ++ [i + k]) = ns[k]?) (s : Sink) :
    (web home).Orderly d p (tourAllAt (web.visitAt home below d source ctx) p i ns s) ∧
      From p i (tourAllAt (web.visitAt home below d source ctx) p i ns s).2 := by
  cases ns with
  | nil =>
    rw [tourAllAt]
    exact ⟨.pure .continue, nofun⟩
  | cons n rest =>
    have first := orderly_tourAt (found 0) s
    have later (s : Sink) := orderly_tourAllAt (found_later found) s
    rw [tourAllAt]
    constructor
    · refine first.up.bind rfl fun answer s' _ going_on => ?_
      cases answer with
      | stop => cases going_on rfl
      | _ =>
        refine ⟨(later s').1, fun e early other late q above above_later => ?_⟩
        exact (later s').2.apart (first.inside e early) late above above_later
    · intro e member
      rcases Journaled.mem_bind member with early | ⟨answer, s', -, late⟩
      · exact ⟨i, Nat.le_refl i, first.inside e early⟩
      · cases answer with
        | stop => cases late
        | _ =>
          obtain ⟨j, further, child⟩ := (later s').2 e late
          exact ⟨j, by omega, child⟩

theorem ordered_tourEachAt {p : Path} {i : Nat} {ns : List Node} (taken : (web home).Takes d p)
    (found : ∀ k, nodeAt? d.root (p ++ [i + k]) = ns[k]?) (s : Sink) :
    From p i (tourEachAt (web.visitAt home below d source ctx) p i ns s).2 ∧
      (web home).Ordered d (tourEachAt (web.visitAt home below d source ctx) p i ns s).2 := by
  cases ns with
  | nil =>
    rw [tourEachAt]
    exact ⟨nofun, .nil⟩
  | cons n rest =>
    have first := orderly_tourAt (found 0) s
    have later (s : Sink) := ordered_tourEachAt taken (found_later found) s
    have here : From p i (tourAt (web.visitAt home below d source ctx) (p ++ [i]) n s).2 :=
      fun e member => ⟨i, Nat.le_refl i, first.inside e member⟩
    rw [tourEachAt]
    constructor
    · intro e member
      rcases Journaled.mem_bind member with early | ⟨answer, s', -, late⟩
      · exact here e early
      · obtain ⟨j, further, child⟩ := (later s').1 e late
        exact ⟨j, by omega, child⟩
    · rcases Journaled.bind_cases (tourAt (web.visitAt home below d source ctx) (p ++ [i]) n)
          (fun _ => tourEachAt (web.visitAt home below d source ctx) p (i + 1) rest) s with
        ⟨_, s', -, whole⟩ | ⟨-, same, -⟩
      · rw [whole]
        refine first.ordered.append (later s').2 here.inside (here.quiet taken) ?_
        intro e early other late q above above_later
        exact (later s').1.apart (first.inside e early) late above above_later
      · rw [same]
        exact first.ordered

end

end

theorem orderly_journal (web : Web) (home : Nat) (d : Host.Document) (source : Text) (ctx : Context)
    (s : Sink) :
    ∃ walked, (web home).Orderly d [] walked ∧ (web.journal home d source ctx s).2 = walked.2 ∧
      ∀ left, walked.1 = some (.ok .stop, left) →
        (web.journal home d source ctx s).1 = some (.ok (), left) := by
  let walk := tourAt (web.visitAt home web.render d source ctx) [] d.root
  refine ⟨walk s, orderly_tourAt rfl s, ?_⟩
  rcases Journaled.bind_cases walk (fun _ => pure ()) s with
    ⟨answer, s', done, whole⟩ | ⟨failed, same, -⟩
  · refine ⟨(congrArg Prod.snd whole).trans (List.append_nil _), fun left stopped => ?_⟩
    rw [stopped] at done
    cases done
    exact congrArg Prod.fst whole
  · exact ⟨same, fun left stopped => absurd stopped (failed .stop left)⟩

/-- Once the fallback has answered that a walk stops, nothing is done any more for a node at or
below those that the walk has come by on its way.  If no component takes over a node above, this is
the whole document: then rendering has come to its end, and has succeeded with what is written so
far. -/
theorem stop_ends_walk (web : Web) (home : Nat) (d : Host.Document) (source : Text) (ctx : Context)
    (s : Sink) {before after : List Event} {path : Path} {entering : Bool} {left : Sink}
    (stopped : (web.journal home d source ctx s).2 =
      before ++ ⟨path, .fallback entering (.ok .stop) left⟩ :: after) :
    (web.journal home d source ctx s).1 = web.render (.document home d source) ctx s ∧
    (∀ above, (web home).ComesBy d above path → ∀ e ∈ after, ¬ above <+: e.path) ∧
    ((∀ above, above <+: path → above ≠ path → ¬ (web home).Takes d above) →
      after = [] ∧ web.render (.document home d source) ctx s = some (.ok (), left)) := by
  obtain ⟨walked, orderly, events, ends⟩ := web.orderly_journal home d source ctx s
  have stops : Event.Stops ⟨path, .fallback entering (.ok .stop) left⟩ left := ⟨entering, rfl⟩
  have member : ⟨path, .fallback entering (.ok .stop) left⟩ ∈ walked.2 := by
    rw [← events, stopped]
    exact List.mem_append_right _ List.mem_cons_self
  have silent : ∀ above, (web home).ComesBy d above path → ∀ e ∈ after, ¬ above <+: e.path := by
    have ordered := orderly.ordered
    rw [Ordered, ← events, stopped] at ordered
    have later := (List.pairwise_cons.1 (List.pairwise_append.1 ordered).2.1).1
    exact fun above comes e late => later e late left stops above comes
  have same := congrFun (web.result_journal home d source ctx) s
  refine ⟨same, silent, fun untaken => ?_⟩
  have comes : (web home).ComesBy d [] path :=
    ⟨List.nil_prefix, fun above _ on other => untaken above on other⟩
  constructor
  · exact List.eq_nil_iff_forall_not_mem.2 fun e late => silent [] comes e late List.nil_prefix
  · rw [← same]
    exact ends left (orderly.ends _ member left stops comes)

def itemSite : Site :=
  ⟨⟨[], [(['l', 'i'], ⟨['l', 'i'], ⟨[], fun _ _ => .ended⟩, .empty []⟩)]⟩, .default,
    .ofKnown [], outlineFallback⟩

def itemWeb : Web := itemSite.web

def rules : List Node := [.leaf .thematicBreak, .leaf .thematicBreak]

def plainRules : Host.Document := ⟨.branch .root rules, ['u'], .empty⟩

def itemRules : Host.Document :=
  ⟨.branch .root [.branch (.list false none) [.branch (.listItem none) rules]], ['u'], .empty⟩

/-- The first of two rules ends the walk of the document.  In an item it ends its own walk and no
other: the other rule is visited, the item is written, and the list and the document are left. -/
theorem stop_in_item :
    (∃ before left, (itemWeb.journal 0 plainRules [] .empty (.empty none)).2 =
        before ++ [⟨[0], .fallback true (.ok .stop) left⟩] ∧
      itemWeb.render (.document 0 plainRules []) .empty (.empty none) = some (.ok (), left)) ∧
    (∃ before after, (itemWeb.journal 0 itemRules [] .empty (.empty none)).2 =
        before ++ ⟨[0, 0, 0], .fallback true (.ok .stop) (.empty none)⟩ :: after ∧
      (∀ e ∈ after, ¬ [0, 0, 0] <+: e.path) ∧
      after.map (·.path) = [[0, 0, 1], [0, 0], [0], []]) := by
  constructor
  · obtain ⟨before, after, left, events⟩ : ∃ before after left,
        (itemWeb.journal 0 plainRules [] .empty (.empty none)).2 =
          before ++ ⟨[0], .fallback true (.ok .stop) left⟩ :: after := ⟨[_], [], _, rfl⟩
    have untaken : ∀ above, above <+: [0] → above ≠ [0] → ¬ itemSite.Takes plainRules above := by
      intro above up other
      rcases List.prefix_cons_iff.1 up with rfl | ⟨rest, rfl, empty⟩
      · rintro ⟨n, found, taken⟩
        cases found
        exact taken rfl
      · rw [List.prefix_nil.1 empty] at other
        exact absurd rfl other
    obtain ⟨-, -, ended⟩ := stop_ends_walk itemWeb 0 plainRules [] .empty (.empty none) events
    obtain ⟨rfl, result⟩ := ended untaken
    exact ⟨before, left, events, result⟩
  · have level : itemWeb.render = itemWeb.level itemWeb.render := by
      funext content ctx
      exact itemWeb.render_eq content ctx
    obtain ⟨before, after, events, paths⟩ : ∃ before after,
        (itemWeb.journal 0 itemRules [] .empty (.empty none)).2 =
          before ++ ⟨[0, 0, 0], .fallback true (.ok .stop) (.empty none)⟩ :: after ∧
        after.map (·.path) = [[0, 0, 1], [0, 0], [0], []] := by
      rw [journal, level]
      exact ⟨[_, _], [_, _, _, _], rfl, rfl⟩
    obtain ⟨-, silent, -⟩ := stop_ends_walk itemWeb 0 itemRules [] .empty (.empty none) events
    exact ⟨before, after, events, silent _ (comesBy_self _), paths⟩

end Web
end Inlay.Render
