import Inlay.Proofs.Markup.Tiling
import Mathlib.Data.List.Basic

namespace Inlay.Markup
open Attempt

namespace Lexeme

structure Expects (previous : Option Token.Kind) (x : Lexeme) : Prop where
  number : x.kind = .number → previous = some .colon
  indent : x.kind = .indent → previous.any Token.Kind.opensLine
  property : x.kind = .property → ∃ r, x.rest = ':' :: r

variable {previous : Option Token.Kind}

theorem word_expects (lead s : Text) : (word previous lead s).Expects previous := by
  unfold word
  split
  · next found =>
    split at found
    · next colon => exact ⟨fun _ => colon, nofun, nofun⟩
    · cases found
  · split
    · next name rest found =>
      exact ⟨nofun, nofun, fun _ => (property?_named found).2⟩
    · exact ⟨nofun, nofun, nofun⟩

theorem plain_expects (lead s : Text) : (plain previous lead s).Expects previous := by
  unfold plain
  split
  · exact ⟨nofun, nofun, nofun⟩
  · exact ⟨nofun, nofun, nofun⟩
  · exact ⟨nofun, nofun, nofun⟩
  · exact ⟨nofun, nofun, nofun⟩
  · split
    · next mark =>
      split
      · rcases mark with rfl | rfl
        · exact ⟨nofun, nofun, nofun⟩
        · exact ⟨nofun, nofun, nofun⟩
      · exact ⟨nofun, nofun, nofun⟩
    · exact word_expects lead _

theorem read_expects {s : Text} {x : Lexeme} (found : read previous s = .ok x) :
    x.Expects previous := by
  unfold read at found
  split at found
  · next both =>
    have opens := (Bool.and_eq_true_iff.1 both).1
    unfold indent at found
    split at found
    · cases found
      exact ⟨nofun, fun _ => opens, nofun⟩
    · cases found
      exact ⟨nofun, fun _ => opens, nofun⟩
    · cases found
  · split at found
    · cases found
      exact ⟨nofun, nofun, nofun⟩
    · cases found
      exact plain_expects _ _

end Lexeme

/-- Whether a lexer stands where a machine needs it: in front of an item behind anything but a
colon, in front of the colon behind the name of a property, and behind the colon in front of the
value. -/
def Machine.Fits (l : Lexer) : Machine → Prop
  | ready .. => l.previous.map (·.kind) ≠ some .colon
  | property _ _ _ _ .colon =>
    l.previous.map (·.kind) = some .property ∧ ∃ r, l.rest = ':' :: r
  | property _ _ _ _ .value => l.previous.map (·.kind) = some .colon
  | property .. => True

def Stack.TakesNodes (level : Nat) (stack : Stack) : Prop :=
  ∃ left, stack.close level = .ok left ∧ ∀ top below, left ≠ .component top below

def Await.Refuses (kind : Token.Kind) : Await → Prop
  | colon => kind ≠ .colon
  | value => kind ∉ [.quote, .number, .lineBreak]
  | contents => kind ≠ .text
  | closing _ => kind ≠ .quote

/-- Whether an error is what a machine comes to at a token.  There is no error of a missing colon,
none of a missing opening quote, and none in the words of the surrounding document. -/
def Error.Arises (e : Error) (t : Token) : Machine → Prop
  | .ready stack level =>
    match e.cause with
    | .unexpectedToken kind value => t = ⟨kind, value, e.location⟩ ∧
        (kind = .colon ∨ kind = .quote ∨ (kind = .flag ∨ kind = .property) ∧ stack.TakesNodes level)
    | .tooManyComponents count => 2 ≤ count
    | .mixedValue => True
    | _ => False
  | .property _ _ _ _ await =>
    e.location = t.location ∧
    match await, e.cause with
    | .value, .expectedValue value =>
      value = t.value ∧ t.kind ∉ [.indent, .quote, .number, .lineBreak]
    | .contents, .malformedString fault => fault = .noContents t.kind ∧ t.kind ≠ .text
    | .closing _, .malformedString fault => fault = .notClosed t.kind ∧ t.kind ≠ .quote
    | _, _ => False

theorem Parser.blockValue_faulty {nodes : List Node} {place : Location} {e : Error}
    (failed : blockValue nodes place = .error e) :
    (∃ count, 2 ≤ count ∧ e.cause = .tooManyComponents count) ∨ e.cause = .mixedValue := by
  unfold blockValue at failed
  dsimp only at failed
  split at failed
  · next several =>
    cases failed
    exact .inl ⟨_, several, rfl⟩
  · split at failed
    · cases failed
    · split at failed
      · cases failed
      · cases failed
        exact .inr rfl

theorem Stack.close_faulty {level : Nat} {stack : Stack} {e : Error}
    (failed : stack.close level = .error e) :
    (∃ count, 2 ≤ count ∧ e.cause = .tooManyComponents count) ∨ e.cause = .mixedValue := by
  fun_induction Stack.close level stack with
  | case1 nodes => cases failed
  | case2 c below _ ih => exact ih failed
  | case3 c below _ => cases failed
  | case4 b owner below _ ih =>
    cases made : Parser.blockValue b.nodes b.opening with
    | error e' =>
      rw [made] at failed
      cases failed
      exact Parser.blockValue_faulty made
    | ok value =>
      rw [made] at failed
      exact ih value failed
  | case5 b owner below _ => cases failed

theorem Stack.close_arises {level : Nat} {stack : Stack} {e : Error}
    (failed : stack.close level = .error e) (t : Token) (level' : Nat) :
    e.Arises t (.ready stack level') := by
  rcases Stack.close_faulty failed with ⟨count, several, cause⟩ | cause
  · rw [Error.Arises, cause]
    exact several
  · rw [Error.Arises, cause]
    trivial

namespace Machine

theorem place_eq_ok {level : Nat} {t : Token} {stack : Stack} {m : Machine}
    (placed : place level t stack = .ok m) :
    (∃ stack', m = ready stack' level ∧ t.kind ≠ .colon) ∨
      ∃ top below, m = property top below level t.value .colon ∧ t.kind = .property := by
  unfold place at placed
  split at placed
  · next kind => cases placed; exact .inl ⟨_, rfl, by rw [kind]; nofun⟩
  · next kind => cases placed; exact .inl ⟨_, rfl, by rw [kind]; nofun⟩
  · next kind => cases placed; exact .inl ⟨_, rfl, by rw [kind]; nofun⟩
  · next kind => cases placed; exact .inr ⟨_, _, rfl, kind⟩
  · cases placed

theorem place_eq_error {level : Nat} {t : Token} {stack : Stack} {e : Error}
    (failed : place level t stack = .error e) :
    e = ⟨.unexpectedToken t.kind t.value, t.location⟩ ∧ t.kind ≠ .component ∧ t.kind ≠ .text ∧
      (t.kind = .flag ∨ t.kind = .property → ∀ top below, stack ≠ .component top below) := by
  unfold place at failed
  split at failed
  · cases failed
  · cases failed
  · cases failed
  · cases failed
  · next component text flag property =>
    cases failed
    refine ⟨rfl, component, text, ?_⟩
    rintro (kind | kind) top below rfl
    · exact flag _ _ kind rfl
    · exact property _ _ kind rfl

theorem step_property_eq_error {owner : OpenComponent} {below : Stack} {level : Nat} {name : Text}
    {await : Await} {t : Token} {e : Error}
    (failed : (property owner below level name await).step t = .error e) :
    e = await.fault t ∧ await.Refuses t.kind := by
  cases await with
  | colon =>
    by_cases kind : t.kind = .colon
    · simp [step, kind] at failed
    · exact ⟨by simpa [step, kind] using failed.symm, kind⟩
  | value =>
    by_cases kind : t.kind ∈ [.quote, .number, .lineBreak]
    · simp only [List.mem_cons, List.not_mem_nil, or_false] at kind
      rcases kind with kind | kind | kind <;> simp [step, kind] at failed
    · refine ⟨?_, kind⟩
      simp only [List.mem_cons, List.not_mem_nil, or_false, not_or] at kind
      simpa [step, kind] using failed.symm
  | contents =>
    by_cases kind : t.kind = .text
    · simp [step, kind] at failed
    · exact ⟨by simpa [step, kind] using failed.symm, kind⟩
  | closing inside =>
    by_cases kind : t.kind = .quote
    · simp [step, kind] at failed
    · exact ⟨by simpa [step, kind] using failed.symm, kind⟩

theorem fault_arises {owner : OpenComponent} {below : Stack} {level : Nat} {name : Text}
    {await : Await} {t : Token} (refused : await.Refuses t.kind) (colon : await ≠ .colon)
    (indent : await = .value → t.kind ≠ .indent) :
    (await.fault t).Arises t (property owner below level name await) := by
  cases await with
  | colon => exact absurd rfl colon
  | value => exact ⟨rfl, rfl, List.not_mem_cons_of_ne_of_not_mem (indent rfl) refused⟩
  | contents => exact ⟨rfl, rfl, refused⟩
  | closing inside => exact ⟨rfl, rfl, refused⟩

variable {m m' : Machine} {l : Lexer} {x : Lexeme} {e : Error}

theorem step_fits (fits : m.Fits l) (found : l.lexeme = .ok x)
    (stepped : m.step (l.token x) = .ok m') : m'.Fits (l.after x) := by
  have behind : (l.after x).previous.map (·.kind) = some x.kind := rfl
  cases m with
  | ready stack level =>
    by_cases indent : x.kind = .indent
    · rw [step_indent (t := l.token x) indent] at stepped
      cases stepped
      rw [Fits, behind, indent]
      simp
    by_cases line_break : x.kind = .lineBreak
    · rw [step_lineBreak (t := l.token x) line_break] at stepped
      cases stepped
      rw [Fits, behind, line_break]
      simp
    rw [step_ready (t := l.token x) indent line_break] at stepped
    obtain ⟨left, -, placed⟩ := bind_eq_ok.1 stepped
    rcases place_eq_ok placed with ⟨stack', rfl, kind⟩ | ⟨top, below, rfl, kind⟩
    · exact fun colon => kind (Option.some.inj colon)
    · exact ⟨congrArg some kind, (Lexeme.read_expects found).property kind⟩
  | property owner below level name await =>
    simp only [step, Lexer.token] at stepped
    split at stepped <;> cases stepped <;> rename_i kind
    · exact congrArg some kind
    · trivial
    · rw [Fits, behind, kind]
      simp
    · rw [Fits, behind, kind]
      simp
    · trivial
    · rw [Fits, behind, kind]
      simp

theorem step_arises (fits : m.Fits l) (found : l.lexeme = .ok x) (more : x.kind ≠ .endOfInput)
    (failed : m.step (l.token x) = .error e) : e.Arises (l.token x) m := by
  have expects := Lexeme.read_expects found
  cases m with
  | ready stack level =>
    have no_indent : x.kind ≠ .indent := by
      intro indent
      rw [step_indent (t := l.token x) indent] at failed
      cases failed
    have no_break : x.kind ≠ .lineBreak := by
      intro line_break
      rw [step_lineBreak (t := l.token x) line_break] at failed
      cases failed
    rw [step_ready (t := l.token x) no_indent no_break] at failed
    cases closed : stack.close level with
    | error e' =>
      rw [closed] at failed
      cases failed
      exact Stack.close_arises closed (l.token x) level
    | ok left =>
      rw [closed] at failed
      obtain ⟨rfl, component, text, taken⟩ := place_eq_error failed
      have no_number : x.kind ≠ .number := fun number => fits (expects.number number)
      refine ⟨rfl, ?_⟩
      cases kind : x.kind with
      | colon => exact .inl kind
      | quote => exact .inr (.inl kind)
      | flag => exact .inr (.inr ⟨.inl kind, left, closed, taken (.inl kind)⟩)
      | property => exact .inr (.inr ⟨.inr kind, left, closed, taken (.inr kind)⟩)
      | component => exact absurd kind component
      | text => exact absurd kind text
      | number => exact absurd kind no_number
      | indent => exact absurd kind no_indent
      | lineBreak => exact absurd kind no_break
      | endOfInput => exact absurd kind more
  | property owner below level name await =>
    obtain ⟨rfl, refused⟩ := step_property_eq_error failed
    refine fault_arises refused ?_ ?_
    · rintro rfl
      obtain ⟨previous, r, rest⟩ := fits
      have colon : l.lexeme = .ok ⟨[], .colon, [':'], [':'], r⟩ := by
        rw [Lexer.lexeme, previous, rest, Lexeme.read_colon]
      cases colon.symm.trans found
      exact refused rfl
    · rintro rfl indent
      have opens := expects.indent indent
      rw [show l.previous.map (·.kind) = some .colon from fits] at opens
      cases opens

theorem finish_arises {place : Location} (fits : m.Fits l) (found : l.lexeme = .ok x)
    (ended : x.kind = .endOfInput) (failed : m.finish place = .error e) :
    e.Arises ⟨.endOfInput, [], place⟩ m := by
  cases m with
  | ready stack level =>
    cases closed : stack.close 0 with
    | error e' =>
      rw [finish, closed] at failed
      cases failed
      exact Stack.close_arises closed _ level
    | ok left =>
      rw [finish, closed] at failed
      cases failed
  | property owner below level name await =>
    cases failed
    refine fault_arises ?_ ?_ fun _ => by simp
    · cases await <;> simp [Await.Refuses]
    · rintro rfl
      obtain ⟨previous, r, rest⟩ := fits
      have colon : l.lexeme = .ok ⟨[], .colon, [':'], [':'], r⟩ := by
        rw [Lexer.lexeme, previous, rest, Lexeme.read_colon]
      cases colon.symm.trans found
      cases ended

def feed (m : Machine) (ts : List Token) : Except Error Machine := ts.foldlM (fun m t => m.step t) m

theorem run_arises (l : Lexer) {m : Machine} {e : Error} (fits : m.Fits l)
    (failed : m.run (Stream.ofLexer l) = .error e) :
    ((Stream.ofLexer l).tokens = .error e ∧ e.cause = .malformedIndent) ∨
      ∃ before t after m', (Stream.ofLexer l).listed = before ++ t :: after ∧
        m.feed before = .ok m' ∧ e.Arises t m' := by
  fun_induction Stream.ofLexer l generalizing m with
  | case1 l t l' taken ended =>
    obtain ⟨x, found, rfl, rfl⟩ := Lexer.next_eq_ok taken
    exact .inr ⟨[], _, [], m, rfl, rfl, finish_arises fits found ended failed⟩
  | case2 l t l' taken more ih =>
    obtain ⟨x, found, rfl, rfl⟩ := Lexer.next_eq_ok taken
    rw [run] at failed
    cases stepped : m.step (l.token x) with
    | error e' =>
      rw [stepped] at failed
      cases failed
      exact .inr ⟨[], _, _, m, rfl, rfl, step_arises fits found more stepped⟩
    | ok next =>
      rw [stepped] at failed
      rcases ih (step_fits fits found stepped) failed with ⟨early, cause⟩ | later
      · exact .inl ⟨Stream.tokens_cons_error early, cause⟩
      · obtain ⟨before, t, after, m', listed, fed, arises⟩ := later
        have listed := congrArg (l.token x :: ·) listed
        refine .inr ⟨l.token x :: before, t, after, m', listed, ?_, arises⟩
        rw [feed, List.foldlM_cons, stepped]
        exact fed
  | case3 l e' l' failed' =>
    cases failed
    exact .inl ⟨rfl, rfl⟩

end Machine

/-- The value of a block by one test after the other.  Nothing is the value of a single node that is
counted as a component without being one. -/
def Parser.blockValueInTurn (nodes : List Node) (place : Location) : Option (Except Error Value) :=
  let count := (nodes.filter (·.component?.isSome)).length
  if 1 < count then some (.error ⟨.tooManyComponents count, place⟩)
  else if count = 0 then some (.ok (.string (['\n'].intercalate (nodes.filterMap Node.text?))))
  else if 1 < nodes.length then some (.error ⟨.mixedValue, place⟩)
  else match nodes.head? with
    | some (.component inner) => some (.ok (.component inner))
    | _ => none

theorem Parser.blockValueInTurn_eq (nodes : List Node) (place : Location) :
    blockValueInTurn nodes place = some (blockValue nodes place) := by
  have count : (nodes.filter (·.component?.isSome)).length =
      (nodes.filterMap Node.component?).length := by
    induction nodes with
    | nil => rfl
    | cons n nodes ih =>
      cases n with
      | text s => exact ih
      | component inner => exact congrArg (· + 1) ih
  rw [blockValueInTurn, count]
  by_cases single : ∃ inner, nodes = [.component inner]
  · obtain ⟨inner, rfl⟩ := single
    rw [blockValue_component]
    rfl
  have other : ∀ inner, nodes ≠ [.component inner] := fun inner same => single ⟨inner, same⟩
  rw [blockValue_of_ne other]
  split
  · rfl
  · split
    · rfl
    · next one_at_most one =>
      -- the one component is not alone
      have several : 1 < nodes.length := by
        match nodes with
        | [] => exact absurd rfl one
        | [.text s] => exact absurd rfl one
        | [.component inner] => exact absurd rfl (other inner)
        | _ :: _ :: _ => simp
      rw [if_pos several]

/-- An error of a text is a malformed indentation, or arises at a token from what the machine is
behind the tokens before it; and one node that is counted as a component is one. -/
theorem errors_of_parse (s : Text) :
    (∀ e, parse s = .error e →
      (tokenize s = .error e ∧ e.cause = .malformedIndent) ∨
      ∃ before t after m, (Stream.ofText s).listed = before ++ t :: after ∧
        Machine.start.feed before = .ok m ∧ e.Arises t m) ∧
    ∀ nodes place, Parser.blockValueInTurn nodes place = some (Parser.blockValue nodes place) := by
  refine ⟨fun e failed => ?_, Parser.blockValueInTurn_eq⟩
  have fits : Machine.start.Fits (.start s) := by
    rw [Machine.start, Machine.Fits, Lexer.start]
    simp
  rw [parse, ← Machine.run_eq_ofStream] at failed
  exact Machine.run_arises (.start s) fits failed

/-- A flag among the lines of a block. -/
theorem flag_in_block :
    parse "\\A\n\tb:\n\t\t!f".toList = .error ⟨.unexpectedToken .flag ['f'], ⟨3, 3⟩⟩ ∧
      ∃ before t after m, (Stream.ofText "\\A\n\tb:\n\t\t!f".toList).listed = before ++ t :: after ∧
        Machine.start.feed before = .ok m ∧
        Error.Arises ⟨.unexpectedToken .flag ['f'], ⟨3, 3⟩⟩ t m := by
  have failed : parse "\\A\n\tb:\n\t\t!f".toList =
      .error ⟨.unexpectedToken .flag ['f'], ⟨3, 3⟩⟩ := by cbv
  exact ⟨failed, ((errors_of_parse _).1 _ failed).resolve_left fun early => by cases early.2⟩

end Inlay.Markup
