import Inlay.Proofs.Text.Utf8
import Mathlib.Data.List.DropRight

namespace Inlay.Text

def isBoundary (bytes : List UInt8) (i : Nat) : Bool :=
  i == 0 || i == bytes.length || bytes[i]?.any (!isContinuation ·)

def slice? (bytes : List UInt8) (first last : Nat) : Option (List UInt8) :=
  if first ≤ last ∧ isBoundary bytes first ∧ isBoundary bytes last then
    some ((bytes.take last).drop first)
  else none

/-- Whether a test tells of every byte of a character what another one tells of the character. -/
def Agrees (p : UInt8 → Bool) (q : Char → Bool) : Prop :=
  ∀ c, ∀ b ∈ String.utf8EncodeChar c, p b = q c

theorem encode_ascii {c : Char} (ascii : c.toNat < 128) :
    String.utf8EncodeChar c = [c.toUInt8] :=
  String.utf8EncodeChar_eq_singleton
    (Char.utf8Size_eq_one_iff.2 (UInt32.le_iff_toNat_le.2 (Nat.le_of_lt_succ ascii)))

theorem toNat_toUInt8 {c : Char} (ascii : c.toNat < 128) : c.toUInt8.toNat = c.toNat :=
  (UInt32.toNat_toUInt8 c.val).trans (Nat.mod_eq_of_lt (Nat.lt_trans ascii (by decide)))

theorem encode_beyond {c : Char} (beyond : 128 ≤ c.toNat) :
    ∃ b bytes, String.utf8EncodeChar c = b :: bytes ∧ 192 ≤ b.toNat ∧
      ∀ d ∈ bytes, 128 ≤ d.toNat ∧ d.toNat ≤ 191 := by
  have more (n : Nat) :
      128 ≤ (UInt8.ofNat (n % 64 + 128)).toNat ∧ (UInt8.ofNat (n % 64 + 128)).toNat ≤ 191 := by
    rw [toNat_ofNat (by omega)]
    omega
  have first {n : Nat} (byte : n < 256) (large : 192 ≤ n) : 192 ≤ (UInt8.ofNat n).toNat := by
    rwa [toNat_ofNat byte]
  have one : ¬c.val.toNat ≤ 127 := Nat.not_le.2 beyond
  simp only [String.utf8EncodeChar, if_neg one]
  split
  · exact ⟨_, _, rfl, first (by omega) (by omega), List.forall_mem_singleton.2 (more _)⟩
  split
  · exact ⟨_, _, rfl, first (by omega) (by omega),
      List.forall_mem_cons.2 ⟨more _, List.forall_mem_singleton.2 (more _)⟩⟩
  · exact ⟨_, _, rfl, first (by omega) (by omega),
      List.forall_mem_cons.2 ⟨more _,
        List.forall_mem_cons.2 ⟨more _, List.forall_mem_singleton.2 (more _)⟩⟩⟩

theorem isContinuation_iff {b : UInt8} : isContinuation b ↔ 128 ≤ b.toNat ∧ b.toNat ≤ 191 := by
  rw [isContinuation, Bool.and_eq_true, decide_eq_true_eq, decide_eq_true_eq]
  exact Iff.rfl

theorem encode_cons (c : Char) :
    ∃ b bytes, String.utf8EncodeChar c = b :: bytes ∧ ¬isContinuation b ∧
      ∀ d ∈ bytes, isContinuation d := by
  by_cases ascii : c.toNat < 128
  · refine ⟨_, [], encode_ascii ascii, ?_, List.forall_mem_nil _⟩
    rw [isContinuation_iff, toNat_toUInt8 ascii]
    omega
  · obtain ⟨b, bytes, encoded, first, more⟩ := encode_beyond (Nat.not_lt.1 ascii)
    refine ⟨b, bytes, encoded, ?_, fun d member => isContinuation_iff.2 (more d member)⟩
    rw [isContinuation_iff]
    omega

theorem utf8_cons (c : Char) (s : Text) : utf8 (c :: s) = String.utf8EncodeChar c ++ utf8 s := rfl

theorem utf8_ascii {c : Char} (ascii : c.toNat < 128) (s : Text) :
    utf8 (c :: s) = c.toUInt8 :: utf8 s := by
  rw [utf8_cons, encode_ascii ascii]
  rfl

theorem utf8_eq_nil {s : Text} : utf8 s = [] ↔ s = [] := by
  cases s with
  | nil => exact iff_of_true rfl rfl
  | cons c s =>
    rw [utf8_cons, List.append_eq_nil_iff]
    exact iff_of_false (fun empty => String.utf8EncodeChar_ne_nil empty.1) (List.cons_ne_nil c s)

theorem le_length_of_isBoundary {bytes : List UInt8} {i : Nat} (boundary : isBoundary bytes i) :
    i ≤ bytes.length := by
  by_contra beyond
  rw [isBoundary, List.getElem?_eq_none (by omega)] at boundary
  simp only [Option.any_none, Bool.or_false, Bool.or_eq_true, beq_iff_eq] at boundary
  omega

theorem slice?_eq_some {bytes v : List UInt8} {first last : Nat} :
    slice? bytes first last = some v ↔
      first ≤ last ∧ last ≤ bytes.length ∧ isBoundary bytes first ∧ isBoundary bytes last ∧
        v = (bytes.take last).drop first := by
  rw [slice?, Option.ite_none_right_eq_some, Option.some.injEq, and_assoc, and_assoc,
    eq_comm (a := v)]
  refine and_congr_right fun _ => (and_iff_right_of_imp ?_).symm
  exact fun boundaries => le_length_of_isBoundary boundaries.2.1

theorem isBoundary_append (before after : Text) :
    isBoundary (utf8 (before ++ after)) (utf8 before).length := by
  cases after with
  | nil => simp [isBoundary]
  | cons c r =>
    obtain ⟨b, bytes, encoded, first, -⟩ := encode_cons c
    simp [isBoundary, utf8_append, utf8_cons, encoded, first]

example : isBoundary (utf8 ['é']) 1 = false := by decide

theorem slice?_utf8 (before middle after : Text) :
    slice? (utf8 (before ++ middle ++ after)) (utf8 before).length
      (utf8 (before ++ middle)).length = some (utf8 middle) := by
  have first := isBoundary_append before (middle ++ after)
  have last := isBoundary_append (before ++ middle) after
  rw [← List.append_assoc] at first
  rw [slice?_eq_some]
  refine ⟨?_, le_length_of_isBoundary last, first, last, ?_⟩
  · rw [utf8_append, List.length_append]
    exact Nat.le_add_right ..
  · rw [utf8_append (before ++ middle), List.take_left, utf8_append before, List.drop_left]

theorem agrees_of_codes {p : UInt8 → Bool} {q : Char → Bool} (f : Nat → Bool)
    (bytes : ∀ b, p b = f b.toNat) (chars : ∀ c, q c = f c.toNat)
    (beyond : ∀ n, 128 ≤ n → f n = f 128) : Agrees p q := by
  intro c b member
  rw [bytes, chars]
  by_cases ascii : c.toNat < 128
  · rw [encode_ascii ascii, List.mem_singleton] at member
    rw [member, toNat_toUInt8 ascii]
  · obtain ⟨first, bytes, encoded, large, more⟩ := encode_beyond (Nat.not_lt.1 ascii)
    rw [encoded, List.mem_cons] at member
    have high : 128 ≤ b.toNat := by
      rcases member with rfl | later
      · omega
      · exact (more b later).1
    rw [beyond _ (Nat.not_lt.1 ascii), beyond _ high]

theorem agrees_mark {a : Char} (ascii : a.toNat < 128) : Agrees (· == a.toUInt8) (· == a) := by
  refine agrees_of_codes (· == a.toNat) (fun b => ?_) (fun c => ?_) fun n large => ?_
  · rw [← toNat_toUInt8 ascii, Bool.eq_iff_iff, beq_iff_eq, beq_iff_eq, UInt8.toNat_inj]
  · rw [Bool.eq_iff_iff, beq_iff_eq, beq_iff_eq, Char.toNat_inj]
  · rw [Bool.eq_iff_iff, beq_iff_eq, beq_iff_eq]
    omega

theorem ne_of_mem_encode {a c : Char} (ascii : a.toNat < 128) (other : c ≠ a) :
    ∀ b ∈ String.utf8EncodeChar c, b ≠ a.toUInt8 := by
  intro b member same
  have agreed := agrees_mark ascii c b member
  simp [same, other] at agreed

theorem agrees_range {low high : Char} (ascii : low.toNat < 128 ∧ high.toNat < 128) :
    Agrees (fun b => low.toUInt8 ≤ b && b ≤ high.toUInt8) (fun c => low ≤ c && c ≤ high) := by
  refine agrees_of_codes (fun n => low.toNat ≤ n && n ≤ high.toNat) (fun b => ?_) (fun c => rfl)
    fun n large => ?_
  · simp only [UInt8.le_iff_toNat_le, toNat_toUInt8 ascii.1, toNat_toUInt8 ascii.2]
  · rw [Bool.eq_iff_iff, Bool.and_eq_true, Bool.and_eq_true]
    simp only [decide_eq_true_eq]
    omega

section Agrees

variable {p p' : UInt8 → Bool} {q q' : Char → Bool} (agrees : Agrees p q)
include agrees

theorem Agrees.or (other : Agrees p' q') : Agrees (fun b => p b || p' b) (fun c => q c || q' c) :=
  fun c b member => congrArg₂ _ (agrees c b member) (other c b member)

theorem Agrees.not : Agrees (fun b => !p b) (fun c => !q c) :=
  fun c b member => congrArg _ (agrees c b member)

theorem takeWhile_utf8 (s : Text) : (utf8 s).takeWhile p = utf8 (s.takeWhile q) := by
  induction s with
  | nil => rfl
  | cons c s ih =>
    cases holds : q c with
    | true =>
      have all : ∀ b ∈ String.utf8EncodeChar c, p b := by simpa [holds] using agrees c
      rw [utf8_cons, List.takeWhile_append_of_pos all, List.takeWhile_cons_of_pos holds, ih]
      rfl
    | false =>
      obtain ⟨b, bytes, encoded, -⟩ := encode_cons c
      have stop : ¬p b := by simp [agrees c b (by simp [encoded]), holds]
      rw [utf8_cons, encoded, List.cons_append, List.takeWhile_cons_of_neg stop,
        List.takeWhile_cons_of_neg (by simp [holds])]
      rfl

theorem dropWhile_utf8 (s : Text) : (utf8 s).dropWhile p = utf8 (s.dropWhile q) := by
  have bytes := List.takeWhile_append_dropWhile (p := p) (l := utf8 s)
  conv_rhs at bytes => rw [← List.takeWhile_append_dropWhile (p := q) (l := s), utf8_append]
  rw [takeWhile_utf8 agrees] at bytes
  exact List.append_cancel_left bytes

theorem rdropWhile_utf8 (s : Text) : (utf8 s).rdropWhile p = utf8 (s.rdropWhile q) := by
  induction s using List.reverseRecOn with
  | nil => rfl
  | append_singleton s c ih =>
    have last : utf8 [c] = String.utf8EncodeChar c := List.append_nil _
    rw [utf8_append, last, List.rdropWhile, List.reverse_append]
    cases holds : q c with
    | true =>
      have all : ∀ b ∈ (String.utf8EncodeChar c).reverse, p b := by simpa [holds] using agrees c
      rw [List.dropWhile_append_of_pos all, List.rdropWhile_concat_pos _ _ _ holds, ← ih]
      rfl
    | false =>
      have nonempty : (String.utf8EncodeChar c).reverse ≠ [] :=
        mt List.reverse_eq_nil_iff.1 String.utf8EncodeChar_ne_nil
      obtain ⟨b, bytes, backwards⟩ := List.exists_cons_of_ne_nil nonempty
      have member : b ∈ String.utf8EncodeChar c := by
        rw [← List.mem_reverse, backwards]
        exact List.mem_cons_self
      have stop : ¬p b := by simp [agrees c b member, holds]
      rw [backwards, List.cons_append, List.dropWhile_cons_of_neg stop, ← List.cons_append,
        ← backwards, ← List.reverse_append, List.reverse_reverse,
        List.rdropWhile_concat_neg _ _ _ (by simp [holds]), utf8_append, last]

theorem all_utf8 (s : Text) : (utf8 s).all p = s.all q := by
  rw [Bool.eq_iff_iff, List.all_eq_true, List.all_eq_true]
  constructor
  · intro all c member
    obtain ⟨b, bytes, encoded, -⟩ := encode_cons c
    have first : b ∈ String.utf8EncodeChar c := by simp [encoded]
    rw [← agrees c b first]
    exact all b (List.mem_flatMap.2 ⟨c, member, first⟩)
  · intro all b member
    obtain ⟨c, inside, byte⟩ := List.mem_flatMap.1 member
    rw [agrees c b byte]
    exact all c inside

theorem head?_any_utf8 (s : Text) : (utf8 s).head?.any p = s.head?.any q := by
  cases s with
  | nil => rfl
  | cons c s =>
    obtain ⟨b, bytes, encoded, -⟩ := encode_cons c
    rw [utf8_cons, encoded]
    exact agrees c b (by simp [encoded])

end Agrees

theorem agrees_unlike {a : Char} (ascii : a.toNat < 128) : Agrees (· != a.toUInt8) (· != a) :=
  (agrees_mark ascii).not

theorem head?_utf8 {a : Char} (ascii : a.toNat < 128) (s : Text) :
    (utf8 s).head? = some a.toUInt8 ↔ s.head? = some a := by
  have same := head?_any_utf8 (agrees_mark ascii) s
  rw [Bool.eq_iff_iff, Option.any_eq_true, Option.any_eq_true] at same
  simpa only [beq_iff_eq, exists_eq_right] using same

end Inlay.Text
