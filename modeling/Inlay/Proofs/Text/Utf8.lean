import Inlay.Text.Utf8

namespace Inlay.Text

theorem toNat_ofNat {n : Nat} (byte : n < 256) : (UInt8.ofNat n).toNat = n :=
  UInt8.toNat_ofNat_of_lt' byte

theorem secondByte?_ofNat {n : Nat} (byte : n < 256) :
    secondByte? (.ofNat n) =
      if 0xc2 ≤ n ∧ n ≤ 0xdf then some (0x80, 0xbf, 1)
      else if n = 0xe0 then some (0xa0, 0xbf, 2)
      else if n = 0xed then some (0x80, 0x9f, 2)
      else if 0xe1 ≤ n ∧ n ≤ 0xef then some (0x80, 0xbf, 2)
      else if n = 0xf0 then some (0x90, 0xbf, 3)
      else if 0xf1 ≤ n ∧ n ≤ 0xf3 then some (0x80, 0xbf, 3)
      else if n = 0xf4 then some (0x80, 0x8f, 3)
      else none := by
  simp only [secondByte?, UInt8.le_iff_toNat_le, ← UInt8.toNat_inj, toNat_ofNat byte]
  rfl

theorem restRun_more {m taken missing n : Nat} (small : n < 64) (r : List UInt8) :
    restRun m taken (missing + 1) (.ofNat (n + 128) :: r) =
      restRun (64 * m + n) (taken + 1) missing r := by
  have continuation : isContinuation (.ofNat (n + 128)) := by
    simp only [isContinuation, UInt8.le_iff_toNat_le, toNat_ofNat (show n + 128 < 256 by omega),
      Bool.and_eq_true, decide_eq_true_eq]
    exact ⟨Nat.le_add_left 128 n, Nat.le_of_lt_succ (Nat.add_lt_add_right small 128)⟩
  have bits : addBits m (.ofNat (n + 128)) = 64 * m + n := by
    rw [addBits, toNat_ofNat (by omega)]
    omega
  rw [restRun, if_pos continuation, bits]

def firstBits (missing : Nat) : Nat := if missing = 1 then 32 else if missing = 2 then 16 else 8

theorem byteRun_more {m n missing low high : Nat} (byte : m < 256) (long : 128 ≤ m) (small : n < 64)
    (bytes : low < 256 ∧ high < 256)
    (second : secondByte? (.ofNat m) = some (.ofNat low, .ofNat high, missing))
    (inside : low ≤ n + 128 ∧ n + 128 ≤ high) (r : List UInt8) :
    byteRun (.ofNat m) (.ofNat (n + 128) :: r) =
      restRun (64 * (m % firstBits missing) + n) 2 (missing - 1) r := by
  have large : ¬ UInt8.ofNat m < 0x80 := by
    rw [UInt8.lt_iff_toNat_lt, toNat_ofNat byte]
    exact Nat.not_lt.2 long
  have range : UInt8.ofNat low ≤ UInt8.ofNat (n + 128) ∧ UInt8.ofNat (n + 128) ≤ .ofNat high := by
    rw [UInt8.le_iff_toNat_le, UInt8.le_iff_toNat_le, toNat_ofNat (show n + 128 < 256 by omega),
      toNat_ofNat bytes.1, toNat_ofNat bytes.2]
    exact inside
  have bits (k : Nat) : addBits k (.ofNat (n + 128)) = 64 * k + n := by
    rw [addBits, toNat_ofNat (by omega)]
    omega
  rw [byteRun, if_neg large, second]
  simp only [if_pos range, bits, toNat_ofNat byte]
  rfl

theorem ofNat_eq {c : Char} {n : Nat} (same : n = c.val.toNat) : Char.ofNat n = c := by
  rw [same]
  exact Char.ofNat_toNat c

theorem secondByte?_three {v : Nat} (least : 2047 < v) (most : v ≤ 65535)
    (valid : v < 0xd800 ∨ 0xdfff < v) :
    ∃ low high, (low < 256 ∧ high < 256) ∧
      secondByte? (.ofNat (v / 4096 % 16 + 224)) = some (.ofNat low, .ofNat high, 2) ∧
      low ≤ v / 64 % 64 + 128 ∧ v / 64 % 64 + 128 ≤ high := by
  rw [secondByte?_ofNat (by omega), if_neg (by omega)]
  by_cases overlong : v / 4096 % 16 = 0
  · exact ⟨0xa0, 0xbf, by decide, if_pos (by omega), by omega⟩
  rw [if_neg (by omega)]
  by_cases surrogate : v / 4096 % 16 = 13
  · exact ⟨0x80, 0x9f, by decide, if_pos (by omega), by omega⟩
  rw [if_neg (by omega), if_pos (by omega)]
  exact ⟨0x80, 0xbf, by decide, rfl, by omega⟩

theorem secondByte?_four {v : Nat} (least : 65535 < v) (most : v < 0x110000) :
    ∃ low high, (low < 256 ∧ high < 256) ∧
      secondByte? (.ofNat (v / 262144 % 8 + 240)) = some (.ofNat low, .ofNat high, 3) ∧
      low ≤ v / 4096 % 64 + 128 ∧ v / 4096 % 64 + 128 ≤ high := by
  rw [secondByte?_ofNat (by omega), if_neg (by omega), if_neg (by omega), if_neg (by omega),
    if_neg (by omega)]
  by_cases overlong : v / 262144 % 8 = 0
  · exact ⟨0x90, 0xbf, by decide, if_pos (by omega), by omega⟩
  rw [if_neg (by omega)]
  by_cases last : v / 262144 % 8 = 4
  · rw [if_neg (by omega)]
    exact ⟨0x80, 0x8f, by decide, if_pos (by omega), by omega⟩
  rw [if_pos (by omega)]
  exact ⟨0x80, 0xbf, by decide, rfl, by omega⟩

theorem byteRun_encode (c : Char) (r : List UInt8) :
    ∃ b bytes, String.utf8EncodeChar c = b :: bytes ∧ bytes.length = c.utf8Size - 1 ∧
      byteRun b (bytes ++ r) = .char c := by
  have size := String.length_utf8EncodeChar c
  have valid := c.valid
  have whole {n : Nat} (same : n = c.val.toNat) : ByteRun.char (Char.ofNat n) = .char c :=
    congrArg _ (ofNat_eq same)
  simp only [UInt32.isValidChar, Nat.isValidChar] at valid
  simp only [String.utf8EncodeChar] at size ⊢
  generalize c.val.toNat = v at *
  by_cases one : v ≤ 127
  · rw [if_pos one] at size ⊢
    refine ⟨_, _, rfl, by rw [← size]; rfl, ?_⟩
    have small : UInt8.ofNat v < 0x80 := by
      rw [UInt8.lt_iff_toNat_lt, toNat_ofNat (by omega)]
      exact Nat.lt_succ_of_le one
    rw [byteRun, if_pos small, toNat_ofNat (by omega), whole rfl]
  rw [if_neg one] at size ⊢
  by_cases two : v ≤ 2047
  · rw [if_pos two] at size ⊢
    refine ⟨_, _, rfl, by rw [← size]; rfl, ?_⟩
    have second : secondByte? (.ofNat (v / 64 % 32 + 192)) = some (.ofNat 128, .ofNat 191, 1) := by
      rw [secondByte?_ofNat (by omega), if_pos (by omega)]
      rfl
    have range : 128 ≤ v % 64 + 128 ∧ v % 64 + 128 ≤ 191 := by omega
    rw [List.singleton_append,
      byteRun_more (by omega) (by omega) (Nat.mod_lt v (by decide)) (by decide) second range]
    exact whole (show _ * (_ % 32) + _ = v by omega)
  rw [if_neg two] at size ⊢
  by_cases three : v ≤ 65535
  · rw [if_pos three] at size ⊢
    refine ⟨_, _, rfl, by rw [← size]; rfl, ?_⟩
    obtain ⟨low, high, bytes, second, range⟩ :=
      secondByte?_three (Nat.not_le.1 two) three (by omega)
    rw [List.cons_append, List.singleton_append,
      byteRun_more (by omega) (by omega) (Nat.mod_lt _ (by decide)) bytes second range,
      restRun_more (Nat.mod_lt _ (by decide))]
    exact whole (show _ * (_ * (_ % 16) + _) + _ = v by omega)
  · rw [if_neg three] at size ⊢
    refine ⟨_, _, rfl, by rw [← size]; rfl, ?_⟩
    obtain ⟨low, high, bytes, second, range⟩ :=
      secondByte?_four (Nat.not_le.1 three) (by omega)
    rw [List.cons_append, List.cons_append, List.singleton_append,
      byteRun_more (by omega) (by omega) (Nat.mod_lt _ (by decide)) bytes second range,
      restRun_more (Nat.mod_lt _ (by decide)), restRun_more (Nat.mod_lt _ (by decide))]
    exact whole (show _ * (_ * (_ * (_ % 8) + _) + _) + _ = v by omega)

theorem lossyFrom_utf8 (s : Text) {fuel : Nat} (enough : (utf8 s).length ≤ fuel) :
    lossyFrom fuel (utf8 s) = s := by
  induction s generalizing fuel with
  | nil => cases fuel <;> rfl
  | cons c s ih =>
    obtain ⟨b, bytes, encoded, length, run⟩ := byteRun_encode c (utf8 s)
    have cut : utf8 (c :: s) = b :: (bytes ++ utf8 s) := by
      rw [utf8, List.flatMap_cons, encoded]
      rfl
    rw [cut, List.length_cons, List.length_append] at enough
    cases fuel with
    | zero => omega
    | succ fuel =>
      rw [cut, lossyFrom, run]
      simp only [← length, List.drop_left]
      rw [ih (by omega)]

theorem lossy_utf8 (s : Text) : lossy (utf8 s) = s := lossyFrom_utf8 s (Nat.le_refl _)

end Inlay.Text
