import Inlay.Host.Document
import Inlay.Proofs.Attempt
import Mathlib.Data.List.Nodup

namespace Inlay.Host
open Inlay.Markdown (Node Leaf Branch Place)

mutual

def preorder : Node → List Node
  | .leaf l => [.leaf l]
  | .branch b below => .branch b below :: preorders below

def preorders : List Node → List Node
  | [] => []
  | n :: rest => preorder n ++ preorders rest

end

structure Code where
  lang : Option Text
  value : Text
  place : Place

structure Heading where
  place : Place
  below : List Node

def offset (place : Place) : Nat := place.offset?.getD 0

def code? : Node → Option Code
  | .leaf (.code lang value place) => some ⟨lang, value, place⟩
  | _ => none

def heading? : Node → Option Heading
  | .branch (.heading _ place) below => some ⟨place, below⟩
  | _ => none

def codes (root : Node) : List Code := (preorder root).filterMap code?

def headings (root : Node) : List Heading := (preorder root).filterMap heading?

def markups (trigger : Text) (root : Node) : List Code :=
  (codes root).filter (·.lang = some trigger)

/-- All code and all headings know where they begin, each kind at places of its own. -/
structure Located (root : Node) : Prop where
  codes_placed : ∀ c ∈ codes root, c.place ≠ .unknown
  headings_placed : ∀ h ∈ headings root, h.place ≠ .unknown
  codes_apart : ((codes root).map fun c => offset c.place).Nodup
  headings_apart : ((headings root).map fun h => offset h.place).Nodup

theorem preorder_eq (n : Node) : preorder n = n :: preorders n.children := by
  cases n with
  | leaf l => rfl
  | branch b below => rfl

theorem preorders_append (ns ms : List Node) :
    preorders (ns ++ ms) = preorders ns ++ preorders ms := by
  induction ns with
  | nil => rfl
  | cons n ns ih => rw [List.cons_append, preorders, preorders, ih, List.append_assoc]

theorem Found.collect_eq (trigger : Text) (f : Found) (pending : List Node) :
    f.collect trigger pending = (preorders pending).foldlM (Found.visit trigger) f := by
  fun_induction Found.collect trigger f pending with
  | case1 f => rfl
  | case2 f n rest e refused =>
    rw [preorders, preorder_eq, List.cons_append, List.foldlM_cons, refused]
    rfl
  | case3 f n rest f' visited ih =>
    rw [preorders, preorder_eq, List.cons_append, List.foldlM_cons, visited, Attempt.ok_bind, ih,
      preorders_append]

section

variable {α : Type} {pairs : List (Nat × α)} {key : Nat} {a : α}

theorem put_of_new (new : key ∉ pairs.map (·.1)) : put key a pairs = (key, a) :: pairs := by
  have others : ∀ pair ∈ pairs, (pair.1 != key) = true := by
    intro pair member
    have differ : pair.1 ≠ key := fun same => new (same ▸ List.mem_map_of_mem member)
    simpa using differ
  rw [put, List.filter_eq_self.2 others]

theorem lookup_of_mem (once : (pairs.map (·.1)).Nodup) (member : (key, a) ∈ pairs) :
    pairs.lookup key = some a := by
  induction pairs with
  | nil => cases member
  | cons pair rest ih =>
    obtain ⟨first, others⟩ := List.nodup_cons.1 once
    rcases List.mem_cons.1 member with rfl | later
    · simp
    · have differ : key ≠ pair.1 := by
        rintro rfl
        exact first (List.mem_map.2 ⟨(pair.1, a), later, rfl⟩)
      rw [List.lookup_cons, beq_eq_false_iff_ne.2 differ]
      exact ih others later

end

section

variable {trigger : Text} {f f' : Found} {n : Node} {ns : List Node} {e : Markup.Error}

def markup? (trigger : Text) (n : Node) : Option Code :=
  (code? n).filter (·.lang = some trigger)

theorem markups_eq (trigger : Text) (root : Node) :
    markups trigger root = (preorder root).filterMap (markup? trigger) :=
  List.filter_filterMap ..

theorem visit_cases (trigger : Text) (code_placed : ∀ c ∈ code? n, c.place ≠ .unknown)
    (heading_placed : ∀ h ∈ heading? n, h.place ≠ .unknown) :
    (∃ value line offset, n = .leaf (.code (some trigger) value (.known line offset))) ∨
    (∃ depth line offset below, n = .branch (.heading depth (.known line offset)) below) ∨
    (markup? trigger n = none ∧ heading? n = none ∧ ∀ f : Found, f.visit trigger n = .ok f) := by
  cases n with
  | leaf l =>
    cases l with
    | code lang value place =>
      by_cases marked : lang = some trigger
      · cases place with
        | unknown => exact absurd rfl (code_placed _ rfl)
        | known line offset => exact .inl ⟨value, line, offset, by rw [marked]⟩
      · refine .inr (.inr ⟨?_, rfl, fun f => if_pos marked⟩)
        exact Option.filter_eq_none_iff.2 fun c found => by cases found; simpa using marked
    | _ => exact .inr (.inr ⟨rfl, rfl, fun _ => rfl⟩)
  | branch b below =>
    cases b with
    | heading depth place =>
      cases place with
      | unknown => exact absurd rfl (heading_placed _ rfl)
      | known line offset => exact .inr (.inl ⟨depth, line, offset, below, rfl⟩)
    | _ => exact .inr (.inr ⟨rfl, rfl, fun _ => rfl⟩)

theorem markup?_self (value : Text) (place : Place) :
    markup? trigger (.leaf (.code (some trigger) value place)) =
      some ⟨some trigger, value, place⟩ := by
  simp [markup?, code?]

theorem visit_markup {value : Text} {d : Markup.Document} (parsed : Markup.parse value = .ok d)
    (line start : Nat) :
    f.visit trigger (.leaf (.code (some trigger) value (.known line start))) =
      .ok { f with blocks := put start d f.blocks } := by
  rw [Found.visit, if_neg (not_not_intro rfl)]
  simp only [parsed]

theorem visit_fault {value : Text} {fault : Markup.Error}
    (refused : Markup.parse value = .error fault) (line start : Nat) :
    f.visit trigger (.leaf (.code (some trigger) value (.known line start))) =
      .error (fault.down line) := by
  rw [Found.visit, if_neg (not_not_intro rfl)]
  simp only [refused]

theorem visit_heading (depth line start : Nat) (below : List Node) :
    f.visit trigger (.branch (.heading depth (.known line start)) below) =
      .ok { f with
        headings := put start (f.slugger.next (headingText below)).1 f.headings
        slugger := (f.slugger.next (headingText below)).2 } := rfl

def Extracted (f : Found) (marks : List Code) (hs : List Heading) :
    Except Markup.Error Found → Prop
  | .error e => ∃ before c after fault, marks = before ++ c :: after ∧
      (∀ b ∈ before, ∃ d, Markup.parse b.value = .ok d) ∧
      Markup.parse c.value = .error fault ∧ e = fault.down c.place.line
  | .ok f' =>
      (∃ ds : List Markup.Document, marks.map (Markup.parse ·.value) = ds.map .ok ∧
        f'.blocks = ((marks.map fun c => offset c.place).zip ds).reverse ++ f.blocks) ∧
      f'.headings = ((hs.map fun h => offset h.place).zip
        (f.slugger.ids (hs.map fun h => headingText h.below))).reverse ++ f.headings

theorem Extracted.markup {marks : List Code} {hs : List Heading} {c : Code} {d : Markup.Document}
    {r : Except Markup.Error Found} (parsed : Markup.parse c.value = .ok d)
    (rest : Extracted { f with blocks := (offset c.place, d) :: f.blocks } marks hs r) :
    Extracted f (c :: marks) hs r := by
  cases r with
  | error e =>
    obtain ⟨before, c', after, fault, split, earlier, refused, same⟩ := rest
    exact ⟨c :: before, c', after, fault, by rw [split]; rfl,
      List.forall_mem_cons.2 ⟨⟨d, parsed⟩, earlier⟩, refused, same⟩
  | ok f' =>
    obtain ⟨⟨ds, read, blocks⟩, headings⟩ := rest
    refine ⟨⟨d :: ds, by simp only [List.map_cons, parsed, read], ?_⟩, headings⟩
    rw [blocks]
    simp

theorem Extracted.heading {marks : List Code} {hs : List Heading} {h : Heading}
    {r : Except Markup.Error Found}
    (rest : Extracted
      { f with
        headings := (offset h.place, (f.slugger.next (headingText h.below)).1) :: f.headings
        slugger := (f.slugger.next (headingText h.below)).2 } marks hs r) :
    Extracted f marks (h :: hs) r := by
  cases r with
  | error e => exact rest
  | ok f' =>
    obtain ⟨blocks, headings⟩ := rest
    refine ⟨blocks, ?_⟩
    rw [headings]
    simp [Slugger.ids]

theorem extracted_foldlM (code_placed : ∀ n ∈ ns, ∀ c ∈ code? n, c.place ≠ .unknown)
    (heading_placed : ∀ n ∈ ns, ∀ h ∈ heading? n, h.place ≠ .unknown)
    (codes_apart : ((ns.filterMap (markup? trigger)).map (fun c => offset c.place) ++
      f.blocks.map (·.1)).Nodup)
    (headings_apart : ((ns.filterMap heading?).map (fun h => offset h.place) ++
      f.headings.map (·.1)).Nodup) :
    Extracted f (ns.filterMap (markup? trigger)) (ns.filterMap heading?)
      (ns.foldlM (Found.visit trigger) f) := by
  induction ns generalizing f with
  | nil => exact ⟨⟨[], rfl, rfl⟩, rfl⟩
  | cons n ns ih =>
    obtain ⟨code_here, code_later⟩ := List.forall_mem_cons.1 code_placed
    obtain ⟨heading_here, heading_later⟩ := List.forall_mem_cons.1 heading_placed
    have later {f : Found} := ih (f := f) code_later heading_later
    rw [List.foldlM_cons]
    rcases visit_cases trigger code_here heading_here with
      ⟨value, line, start, rfl⟩ | ⟨depth, line, start, below, rfl⟩ |
        ⟨no_markup, no_heading, visited⟩
    · rw [List.filterMap_cons_some (markup?_self ..)] at codes_apart ⊢
      cases parsed : Markup.parse value with
      | error fault =>
        rw [visit_fault parsed]
        exact ⟨[], _, _, fault, rfl, by simp, parsed, rfl⟩
      | ok d =>
        have new : start ∉ f.blocks.map (·.1) := fun member =>
          (List.nodup_cons.1 codes_apart).1 (List.mem_append_right _ member)
        rw [visit_markup parsed, put_of_new new]
        exact .markup parsed (later (List.nodup_middle.2 codes_apart) headings_apart)
    · have found : heading? (.branch (.heading depth (.known line start)) below) =
          some ⟨.known line start, below⟩ := rfl
      rw [List.filterMap_cons_some found] at headings_apart ⊢
      have new : start ∉ f.headings.map (·.1) := fun member =>
        (List.nodup_cons.1 headings_apart).1 (List.mem_append_right _ member)
      rw [visit_heading, put_of_new new]
      exact .heading (later codes_apart (List.nodup_middle.2 headings_apart))
    · rw [List.filterMap_cons_none no_markup] at codes_apart ⊢
      rw [List.filterMap_cons_none no_heading] at headings_apart ⊢
      rw [visited]
      exact later codes_apart headings_apart

end

theorem extracted_collect (trigger : Text) {root : Node} (located : Located root) :
    Extracted .empty (markups trigger root) (headings root)
      (Found.empty.collect trigger [root]) := by
  have whole : preorders [root] = preorder root := List.append_nil _
  have apart : ((markups trigger root).map fun c => offset c.place).Nodup :=
    located.codes_apart.sublist (List.filter_sublist.map _)
  rw [Found.collect_eq, whole, markups_eq]
  rw [markups_eq] at apart
  refine extracted_foldlM ?_ ?_ (by rwa [Found.empty, List.map_nil, List.append_nil])
    (by rw [Found.empty, List.map_nil, List.append_nil]; exact located.headings_apart)
  · exact fun n member c found => located.codes_placed c (List.mem_filterMap.2 ⟨n, member, found⟩)
  · exact fun n member h found =>
      located.headings_placed h (List.mem_filterMap.2 ⟨n, member, found⟩)

theorem length_ids (g : Slugger) (texts : List Text) : (g.ids texts).length = texts.length := by
  induction texts generalizing g with
  | nil => rfl
  | cons text texts ih => simp [Slugger.ids, ih]

theorem lookup_zip {α : Type} {keys : List Nat} {values : List α} (once : keys.Nodup)
    (same : keys.length = values.length) :
    keys.map (fun key => (keys.zip values).reverse.lookup key) = values.map some := by
  have table : ((keys.zip values).reverse.map (·.1)).Nodup := by
    rw [List.map_reverse, List.nodup_reverse, List.map_fst_zip (Nat.le_of_eq same)]
    exact once
  apply List.ext_getElem
  · simpa using same
  · intro i _ inside
    rw [List.length_map] at inside
    simp only [List.getElem_map]
    apply lookup_of_mem table
    rw [List.mem_reverse, List.mem_iff_getElem]
    exact ⟨i, by simpa [same] using inside, by simp⟩

theorem offset?_eq {place : Place} (placed : place ≠ .unknown) :
    place.offset? = some (offset place) := by
  cases place with
  | unknown => exact absurd rfl placed
  | known line start => rfl

section

variable {trigger : Text} {root : Node} {d : Document}

theorem extracted_ofTree (trigger : Text) (located : Located root) :
    Extracted .empty (markups trigger root) (headings root)
      ((Document.ofTree trigger root).map (·.found)) := by
  have extracted := extracted_collect trigger located
  rw [Document.ofTree]
  cases collected : Found.empty.collect trigger [root] <;> rwa [collected] at extracted

theorem trigger_of_ofTree (found : Document.ofTree trigger root = .ok d) : d.trigger = trigger := by
  obtain ⟨f, -, rfl⟩ := Attempt.map_eq_ok.1 found
  rfl

theorem markup_of_ofTree (located : Located root)
    (found : Document.ofTree trigger root = .ok d) :
    d.blockCount = (markups trigger root).length ∧
    ∀ c ∈ markups trigger root, ∃ m, Markup.parse c.value = .ok m ∧
      d.found.blocks.lookup (offset c.place) = some m := by
  have extracted := extracted_ofTree trigger located
  rw [found] at extracted
  obtain ⟨⟨ds, read, blocks⟩, -⟩ := extracted
  have same : (markups trigger root).length = ds.length := by
    simpa using congrArg List.length read
  have apart : ((markups trigger root).map fun c => offset c.place).Nodup :=
    located.codes_apart.sublist (List.filter_sublist.map _)
  have table : d.found.blocks =
      (((markups trigger root).map fun c => offset c.place).zip ds).reverse := by
    rw [blocks]
    exact List.append_nil _
  constructor
  · rw [Document.blockCount, table]
    simp [same]
  · intro c member
    obtain ⟨i, inside, rfl⟩ := List.mem_iff_getElem.1 member
    have other : i < ds.length := same ▸ inside
    refine ⟨ds[i], ?_, ?_⟩
    · have parsed := congrArg (·[i]?) read
      simpa [inside, other] using parsed
    · have looked := congrArg (·[i]?) (lookup_zip apart (by simpa using same))
      rw [table]
      simpa [inside, other] using looked

theorem headingIds_of_ofTree (located : Located root)
    (found : Document.ofTree trigger root = .ok d) :
    (headings root).map (fun h => d.headingId? h.place) =
      (Slugger.empty.ids ((headings root).map fun h => headingText h.below)).map some := by
  have extracted := extracted_ofTree trigger located
  rw [found] at extracted
  obtain ⟨-, table⟩ := extracted
  have same : ((headings root).map fun h => offset h.place).length =
      (Slugger.empty.ids ((headings root).map fun h => headingText h.below)).length := by
    simp [length_ids]
  rw [← lookup_zip located.headings_apart same, List.map_map]
  apply List.map_congr_left
  intro h member
  have keys : d.found.headings = _ ++ [] := table
  rw [Document.headingId?, offset?_eq (located.headings_placed h member), keys, List.append_nil]
  rfl

theorem error_of_ofTree {e : Markup.Error} (located : Located root)
    (failed : Document.ofTree trigger root = .error e) :
    ∃ before c after fault, markups trigger root = before ++ c :: after ∧
      (∀ b ∈ before, ∃ m, Markup.parse b.value = .ok m) ∧
      Markup.parse c.value = .error fault ∧ e = fault.down c.place.line := by
  have extracted := extracted_ofTree trigger located
  rwa [failed] at extracted

theorem exists_ofTree_iff (located : Located root) :
    (∃ d, Document.ofTree trigger root = .ok d) ↔
      ∀ c ∈ markups trigger root, ∃ m, Markup.parse c.value = .ok m := by
  constructor
  · rintro ⟨d, found⟩ c member
    obtain ⟨m, parsed, -⟩ := (markup_of_ofTree located found).2 c member
    exact ⟨m, parsed⟩
  · intro all
    cases result : Document.ofTree trigger root with
    | ok d => exact ⟨d, rfl⟩
    | error e =>
      obtain ⟨before, c, after, fault, split, -, failed, -⟩ := error_of_ofTree located result
      obtain ⟨m, parsed⟩ := all c (by rw [split]; simp)
      rw [failed] at parsed
      cases parsed

theorem block?_of_ofTree (located : Located root)
    (found : Document.ofTree trigger root = .ok d) {c : Code} (member : c ∈ codes root) :
    d.block? c.lang c.place =
      if c.lang = some trigger then (Markup.parse c.value).toOption else none := by
  rw [Document.block?, Document.isTrigger, trigger_of_ofTree found]
  by_cases marked : c.lang = some trigger
  · have among : c ∈ markups trigger root := List.mem_filter.2 ⟨member, by simpa using marked⟩
    obtain ⟨m, parsed, looked⟩ := (markup_of_ofTree located found).2 c among
    rw [if_pos (by simpa using marked), if_pos marked, parsed,
      offset?_eq (located.codes_placed c member)]
    exact looked
  · rw [if_neg (by simpa using marked), if_neg marked]

end

/-- Reading a document fails exactly if one of its pieces of markup cannot be parsed, and then with
the error of the first of them, told by its lines in the whole document.  Otherwise each piece of
code is found again, parsed if it is markup, and the headings have the ids that one slugger hands
out in the order of the document. -/
theorem ofTree_of_located {trigger : Text} {root : Node} (located : Located root) :
    ((∃ d, Document.ofTree trigger root = .ok d) ↔
      ∀ c ∈ markups trigger root, ∃ m, Markup.parse c.value = .ok m) ∧
    (∀ e, Document.ofTree trigger root = .error e →
      ∃ before c after fault, markups trigger root = before ++ c :: after ∧
        (∀ b ∈ before, ∃ m, Markup.parse b.value = .ok m) ∧
        Markup.parse c.value = .error fault ∧
        e = ⟨fault.cause, ⟨fault.location.line + c.place.line, fault.location.column⟩⟩) ∧
    (∀ d, Document.ofTree trigger root = .ok d →
      (∀ c ∈ codes root, d.block? c.lang c.place =
        if c.lang = some trigger then (Markup.parse c.value).toOption else none) ∧
      d.blockCount = (markups trigger root).length ∧
      (headings root).map (fun h => d.headingId? h.place) =
        (Slugger.empty.ids ((headings root).map fun h => headingText h.below)).map some) :=
  ⟨exists_ofTree_iff located, fun _ failed => error_of_ofTree located failed, fun _ found =>
    ⟨fun _ member => block?_of_ofTree located found member, (markup_of_ofTree located found).1,
      headingIds_of_ofTree located found⟩⟩

/-- A heading, and the same heading again in a quote with markup behind it; at the end there is code
that is no markup, though it would be. -/
theorem found_in_quote : ∃ (root : Node) (d : Document), Located root ∧
    Document.ofTree ['u'] root = .ok d ∧ d.blockCount = 1 ∧
    (codes root).map (fun c => d.block? c.lang c.place) =
      [some ⟨[.component ⟨['B'], [], [], ⟨1, 1⟩⟩]⟩, none] ∧
    (headings root).map (fun h => d.headingId? h.place) = [some ['a'], some ['a', '-', '1']] := by
  let heading (place : Place) : Node := .branch (.heading 1 place) [.leaf (.text ['A'])]
  let code (lang : Option Text) (place : Place) : Node := .leaf (.code lang ['\\', 'B'] place)
  let root : Node := .branch .root [heading (.known 1 0),
    .branch .blockquote [heading (.known 3 7), code (some ['u']) (.known 5 15)],
    code none (.known 9 40)]
  have located : Located root := ⟨by decide, by decide, by decide, by decide⟩
  have parsed : Markup.parse ['\\', 'B'] = .ok ⟨[.component ⟨['B'], [], [], ⟨1, 1⟩⟩]⟩ := by cbv
  have all : ∀ c ∈ markups ['u'] root, ∃ m, Markup.parse c.value = .ok m := by
    intro c member
    have only : markups ['u'] root = [⟨some ['u'], ['\\', 'B'], .known 5 15⟩] := rfl
    rw [only, List.mem_singleton] at member
    subst member
    exact ⟨_, parsed⟩
  obtain ⟨d, found⟩ := (ofTree_of_located located).1.2 all
  obtain ⟨blocks, count, ids⟩ := (ofTree_of_located located).2.2 d found
  refine ⟨root, d, located, found, count, ?_, ?_⟩
  · have listed : codes root = [⟨some ['u'], ['\\', 'B'], .known 5 15⟩,
        ⟨none, ['\\', 'B'], .known 9 40⟩] := rfl
    rw [List.map_congr_left blocks, listed]
    simp [parsed, Except.toOption]
  · rw [ids]
    rfl

end Inlay.Host
