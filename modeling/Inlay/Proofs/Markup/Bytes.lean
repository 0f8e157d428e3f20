import Inlay.Proofs.Markup.Lookahead
import Inlay.Proofs.Text.Boundaries

namespace Inlay.Markup
open Text

namespace Bytes

def isDigit (b : UInt8) : Bool := '0'.toUInt8 ≤ b && b ≤ '9'.toUInt8

def isLetter (b : UInt8) : Bool :=
  ('a'.toUInt8 ≤ b && b ≤ 'z'.toUInt8) || ('A'.toUInt8 ≤ b && b ≤ 'Z'.toUInt8)

def isName (b : UInt8) : Bool := isLetter b || isDigit b || b == '_'.toUInt8

def isSpace (b : UInt8) : Bool := b == ' '.toUInt8 || b == '\t'.toUInt8

def isDigits (bytes : List UInt8) : Bool := !bytes.isEmpty && bytes.all isDigit

def fraction? (bytes : List UInt8) : Option (List UInt8) :=
  match bytes.dropWhile (· != '.'.toUInt8) with
  | [] => none
  | _ :: fraction => some fraction

def isUnsigned (bytes : List UInt8) : Bool :=
  isDigits (bytes.takeWhile (· != '.'.toUInt8)) && (fraction? bytes).all isDigits

def isNumber (bytes : List UInt8) : Bool :=
  isUnsigned (if bytes.head? = some '-'.toUInt8 then bytes.tail else bytes)

def isProperty : List UInt8 → Bool
  | [] => false
  | b :: r =>
    if b == ':'.toUInt8 then true
    else if b == '\n'.toUInt8 then false
    else isName b && isProperty r

def unescape : List UInt8 → List UInt8
  | [] => []
  | b :: r =>
    if b == '\\'.toUInt8 && r.head? == some '"'.toUInt8 then '"'.toUInt8 :: unescape r.tail
    else b :: unescape r
termination_by bytes => bytes.length

def closingQuote? (bytes : List UInt8) (i : Nat) : Option Nat :=
  if _ : i < bytes.length then
    if bytes[i] == '\n'.toUInt8 then none
    else if bytes[i] == '\\'.toUInt8 && bytes[i + 1]? == some '"'.toUInt8 then
      closingQuote? bytes (i + 2)
    else if bytes[i] == '"'.toUInt8 then some i
    else closingQuote? bytes (i + 1)
  else none
termination_by bytes.length - i

end Bytes

def Location.stepByte (place : Location) (b : UInt8) : Location :=
  if b == '\n'.toUInt8 then ⟨place.line + 1, 1⟩
  else if isContinuation b then place
  else ⟨place.line, place.column + 1⟩

theorem agrees_digit : Agrees Bytes.isDigit isDigit := agrees_range (by decide)

theorem agrees_letter : Agrees Bytes.isLetter isLetter :=
  (agrees_range (by decide)).or (agrees_range (by decide))

theorem agrees_name : Agrees Bytes.isName isNameChar :=
  (agrees_letter.or agrees_digit).or (agrees_mark (by decide))

theorem agrees_space : Agrees Bytes.isSpace isSpace :=
  (agrees_mark (by decide)).or (agrees_mark (by decide))

theorem isDigits_utf8 (s : Text) : Bytes.isDigits (utf8 s) = Lexeme.isDigits s := by
  have empty : (utf8 s).isEmpty = s.isEmpty := by
    rw [Bool.eq_iff_iff, List.isEmpty_iff, List.isEmpty_iff, utf8_eq_nil]
  rw [Bytes.isDigits, Lexeme.isDigits, empty, all_utf8 agrees_digit]

theorem isUnsigned_utf8 (s : Text) :
    Bytes.isUnsigned (utf8 s) =
      match split (· != '.') s with
      | (whole, _ :: fraction) => Lexeme.isDigits whole && Lexeme.isDigits fraction
      | (whole, []) => Lexeme.isDigits whole := by
  have mark := agrees_unlike (a := '.') (by decide)
  have stop := List.head?_dropWhile_not (· != '.') s
  rw [Bytes.isUnsigned, Bytes.fraction?, takeWhile_utf8 mark, dropWhile_utf8 mark, isDigits_utf8,
    split]
  cases found : s.dropWhile (· != '.') with
  | nil => exact Bool.and_true _
  | cons c fraction =>
    rw [found] at stop
    obtain rfl : c = '.' := by simpa using stop
    rw [utf8_ascii (by decide)]
    exact congrArg _ (isDigits_utf8 _)

theorem isNumber_utf8 (s : Text) : Bytes.isNumber (utf8 s) = Lexeme.isNumber s := by
  have sign := head?_utf8 (a := '-') (by decide) s
  rw [Bytes.isNumber]
  split
  · next negative =>
    obtain ⟨r, rfl⟩ := List.head?_eq_some_iff.1 (sign.1 negative)
    rw [utf8_ascii (by decide), List.tail_cons, isUnsigned_utf8]
    rfl
  · next positive =>
    refine (isUnsigned_utf8 s).trans (Lexeme.isNumber.eq_2 s fun r same => ?_).symm
    exact positive (sign.2 (List.head?_eq_some_iff.2 ⟨r, same⟩))

theorem isProperty_eq (bytes : List UInt8) :
    Bytes.isProperty bytes = ((bytes.dropWhile Bytes.isName).head? == some ':'.toUInt8) := by
  induction bytes with
  | nil => rfl
  | cons b bytes ih =>
    rw [Bytes.isProperty]
    split
    · next colon =>
      rw [beq_iff_eq.1 colon]
      rfl
    split
    · next line =>
      rw [beq_iff_eq.1 line]
      rfl
    · next colon _ =>
      cases name : Bytes.isName b with
      | true => rw [List.dropWhile_cons_of_pos name, ← ih]; rfl
      | false =>
        rw [List.dropWhile_cons_of_neg (by simp [name]), List.head?_cons]
        simpa using colon

theorem isProperty_utf8 (s : Text) : Bytes.isProperty (utf8 s) = (Lexeme.property? s).isSome := by
  rw [isProperty_eq, dropWhile_utf8 agrees_name, Bool.eq_iff_iff, beq_iff_eq,
    head?_utf8 (by decide), Lexeme.property?, split]
  cases s.dropWhile isNameChar with
  | nil => simp
  | cons c r =>
    rw [List.head?_cons, Option.some.injEq]
    constructor
    · rintro rfl
      rfl
    · intro found
      split at found
      · next same => exact (List.cons.inj (Prod.mk.inj same).2).1
      · cases found

theorem not_quoted {s : Text} (unquoted : ∀ r, s = '"' :: r → False) :
    (utf8 s).head? ≠ some '"'.toUInt8 := by
  rw [Ne, head?_utf8 (by decide)]
  intro quoted
  obtain ⟨r, same⟩ := List.head?_eq_some_iff.1 quoted
  exact unquoted r same

theorem unescape_skip {bytes : List UInt8} (plain : ∀ b ∈ bytes, b ≠ '\\'.toUInt8)
    (r : List UInt8) : Bytes.unescape (bytes ++ r) = bytes ++ Bytes.unescape r := by
  induction bytes with
  | nil => rfl
  | cons b bytes ih =>
    obtain ⟨first, later⟩ := List.forall_mem_cons.1 plain
    rw [List.cons_append, Bytes.unescape, beq_false_of_ne first, Bool.false_and,
      if_neg Bool.false_ne_true, ih later]
    rfl

theorem unescape_encode {c : Char} {r : List UInt8}
    (other : c = '\\' → r.head? ≠ some '"'.toUInt8) :
    Bytes.unescape (String.utf8EncodeChar c ++ r) =
      String.utf8EncodeChar c ++ Bytes.unescape r := by
  by_cases escape : c = '\\'
  · subst escape
    rw [encode_ascii (by decide), List.singleton_append, Bytes.unescape,
      beq_false_of_ne (other rfl), Bool.and_false, if_neg Bool.false_ne_true]
    rfl
  · exact unescape_skip (ne_of_mem_encode (by decide) escape) r

theorem unescape_utf8 (s : Text) : Bytes.unescape (utf8 s) = utf8 (Lexeme.unescape s) := by
  fun_induction Lexeme.unescape s with
  | case1 r ih =>
    rw [utf8_ascii (by decide), utf8_ascii (by decide), utf8_ascii (by decide), Bytes.unescape,
      if_pos (by rfl), List.tail_cons, ih]
  | case2 c r unquoted ih =>
    rw [utf8_cons, utf8_cons, ← ih]
    exact unescape_encode fun escape => not_quoted fun t => unquoted t escape
  | case3 => exact Bytes.unescape.eq_1

theorem closingQuote?_cons (a : List UInt8) (b : UInt8) (r : List UInt8) :
    Bytes.closingQuote? (a ++ b :: r) a.length =
      if b == '\n'.toUInt8 then none
      else if b == '\\'.toUInt8 && r.head? == some '"'.toUInt8 then
        Bytes.closingQuote? (a ++ b :: r) (a.length + 2)
      else if b == '"'.toUInt8 then some a.length
      else Bytes.closingQuote? (a ++ b :: r) (a.length + 1) := by
  have inside : a.length < (a ++ b :: r).length := by simp
  have next : (a ++ b :: r)[a.length + 1]? = r.head? := by
    rw [List.getElem?_append_right (Nat.le_add_right _ 1), Nat.add_sub_cancel_left,
      List.head?_eq_getElem?]
    rfl
  rw [Bytes.closingQuote?, dif_pos inside, List.getElem_append_right (Nat.le_refl _)]
  simp only [Nat.sub_self, List.getElem_cons_zero, next]

theorem closingQuote?_skip {bytes : List UInt8}
    (plain : ∀ b ∈ bytes, b ≠ '\n'.toUInt8 ∧ b ≠ '\\'.toUInt8 ∧ b ≠ '"'.toUInt8)
    (a r : List UInt8) :
    Bytes.closingQuote? (a ++ (bytes ++ r)) a.length =
      Bytes.closingQuote? (a ++ bytes ++ r) (a ++ bytes).length := by
  induction bytes generalizing a with
  | nil => rw [List.append_nil, List.nil_append]
  | cons b bytes ih =>
    obtain ⟨⟨line, escape, quote⟩, later⟩ := List.forall_mem_cons.1 plain
    have further := ih later (a ++ [b])
    rw [List.cons_append, closingQuote?_cons, beq_false_of_ne line, beq_false_of_ne escape,
      beq_false_of_ne quote]
    simpa using further

theorem closingQuote?_encode {c : Char} {r : List UInt8} (line : c ≠ '\n') (quote : c ≠ '"')
    (other : c = '\\' → r.head? ≠ some '"'.toUInt8) (a : List UInt8) :
    Bytes.closingQuote? (a ++ (String.utf8EncodeChar c ++ r)) a.length =
      Bytes.closingQuote? (a ++ String.utf8EncodeChar c ++ r)
        (a ++ String.utf8EncodeChar c).length := by
  by_cases escape : c = '\\'
  · subst escape
    rw [encode_ascii (by decide), List.singleton_append, closingQuote?_cons, if_neg (by decide),
      beq_false_of_ne (other rfl), Bool.and_false, if_neg Bool.false_ne_true, if_neg (by decide),
      List.append_assoc, List.length_append]
    rfl
  · exact closingQuote?_skip (fun b member => ⟨ne_of_mem_encode (by decide) line b member,
      ne_of_mem_encode (by decide) escape b member,
      ne_of_mem_encode (by decide) quote b member⟩) a r

theorem closingQuote?_utf8 (a : List UInt8) (s : Text) :
    Bytes.closingQuote? (a ++ utf8 s) a.length =
      (Lexeme.closed? s).map fun (inside, _) => a.length + (utf8 inside).length := by
  fun_induction Lexeme.closed? s generalizing a with
  | case1 =>
    rw [Bytes.closingQuote?, dif_neg (by simp [utf8])]
    rfl
  | case2 r ih =>
    have further := ih (a ++ ['\\'.toUInt8, '"'.toUInt8])
    rw [utf8_ascii (by decide), utf8_ascii (by decide), closingQuote?_cons, if_neg (by decide),
      if_pos (by rfl), Option.map_map]
    simpa [Function.comp_def, utf8_ascii, Nat.add_assoc, Nat.add_comm 2] using further
  | case3 r =>
    rw [utf8_ascii (by decide), closingQuote?_cons]
    rfl
  | case4 r =>
    rw [utf8_ascii (by decide), closingQuote?_cons]
    rfl
  | case5 c r unquoted line quote ih =>
    have other (escape : c = '\\') := not_quoted fun t => unquoted t escape
    rw [utf8_cons, closingQuote?_encode line quote other, ih, Option.map_map]
    simp only [Function.comp_def, utf8_cons, List.length_append, Nat.add_assoc]

theorem foldl_continuation {bytes : List UInt8} (all : ∀ b ∈ bytes, isContinuation b)
    (place : Location) : bytes.foldl Location.stepByte place = place := by
  induction bytes with
  | nil => rfl
  | cons b bytes ih =>
    obtain ⟨first, later⟩ := List.forall_mem_cons.1 all
    have line : b ≠ '\n'.toUInt8 := by
      rintro rfl
      exact absurd first (by decide)
    have stays : place.stepByte b = place := by
      rw [Location.stepByte, beq_false_of_ne line, if_neg Bool.false_ne_true, if_pos first]
    rw [List.foldl_cons, stays, ih later]

theorem foldl_encode (place : Location) (c : Char) :
    (String.utf8EncodeChar c).foldl Location.stepByte place = place.step c := by
  obtain ⟨b, bytes, encoded, first, more⟩ := encode_cons c
  have line : (b == '\n'.toUInt8) = (c == '\n') :=
    agrees_mark (by decide) c b (by rw [encoded]; exact List.mem_cons_self)
  rw [encoded, List.foldl_cons, foldl_continuation more, Location.stepByte, Location.step, line,
    if_neg first]
  simp only [beq_iff_eq]

theorem foldl_utf8 (place : Location) (s : Text) :
    (utf8 s).foldl Location.stepByte place = place.past s := by
  induction s generalizing place with
  | nil => rfl
  | cons c s ih => rw [utf8_cons, List.foldl_append, foldl_encode, ih]; rfl

end Inlay.Markup
