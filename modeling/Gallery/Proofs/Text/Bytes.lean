import Mathlib.Algebra.Group.Nat.Defs
import Mathlib.Data.List.Basic

/-!
# Bytes of texts

The bytes of a text in UTF-8 are those of its characters, one after another.  A character is written
as a leading byte, which also tells how many bytes follow, and the digits to the base 64 that are
left (`utf8EncodeChar_eq`).  So characters are ordered like their bytes, whatever comes behind them
(`utf8EncodeChar_append_lt`), and texts are too (`bytes_lt`).
-/

namespace Gallery.Text

/-- The bytes of a text in UTF-8. -/
def bytes (s : String) : List UInt8 :=
  s.toUTF8.data.toList

theorem bytes_eq_flatMap (s : String) :
  bytes s = s.toList.flatMap String.utf8EncodeChar
  := by
  rw [bytes, String.toUTF8_eq_toByteArray, ← String.utf8Encode_toList, List.utf8Encode]
  simp

/-! ### The bytes of a character -/

/-- How many bytes follow the leading byte of a code point. -/
def followers (v : Nat) : Nat :=
  if v ≤ 0x7F then 0 else if v ≤ 0x7FF then 1 else if v ≤ 0xFFFF then 2 else 3

/-- The leading byte of a code point. -/
def leading (v : Nat) : Nat :=
  if v ≤ 0x7F then v
  else if v ≤ 0x7FF then v / 64 + 0xC0
  else if v ≤ 0xFFFF then v / 4096 + 0xE0
  else v / 262144 + 0xF0

/-- The last `n` digits of a number to the base 64, as bytes that follow a leading byte. -/
def following (v : Nat) : Nat → List UInt8
  | 0 => []
  | n + 1 => UInt8.ofNat (v / 64 ^ n % 64 + 0x80) :: following v n

theorem toNat_val_lt (c : Char) :
  c.val.toNat < 0x110000
  := by
  obtain hlow | ⟨-, hhigh⟩ := c.valid
  · exact Nat.lt_trans hlow (by decide)
  · exact hhigh

theorem utf8EncodeChar_eq (c : Char) :
  String.utf8EncodeChar c
    = UInt8.ofNat (leading c.val.toNat) :: following c.val.toNat (followers c.val.toNat)
  := by
  have hlt := toNat_val_lt c
  rw [String.utf8EncodeChar]
  generalize c.val.toNat = v at hlt ⊢
  by_cases hone : v ≤ 0x7F
  · simp [leading, followers, following, hone]
  · by_cases htwo : v ≤ 0x7FF
    · have hdigit : v / 64 % 32 = v / 64 := by omega
      simp [leading, followers, following, hone, htwo, hdigit]
    · by_cases hthree : v ≤ 0xFFFF
      · have hdigit : v / 4096 % 16 = v / 4096 := by omega
        simp [leading, followers, following, hone, htwo, hthree, hdigit]
      · have hdigit : v / 262144 % 8 = v / 262144 := by omega
        simp [leading, followers, following, hone, htwo, hthree, hdigit]

/-! ### The order of bytes -/

theorem leading_lt {v : Nat} (h : v < 0x110000) :
  leading v < 256
  := by
  rw [leading]
  split_ifs <;> omega

theorem leading_le {v w : Nat} (h : v ≤ w) :
  leading v ≤ leading w
  := by
  rw [leading, leading]
  split_ifs <;> omega

/-- The leading byte tells how many bytes follow it, and all digits but theirs. -/
theorem followers_of_leading_eq {v w : Nat} (hv : v < 0x110000) (hw : w < 0x110000)
    (h : leading v = leading w) :
  followers v = followers w ∧ v / 64 ^ followers v = w / 64 ^ followers w
  := by
  rw [leading, leading] at h
  rw [followers, followers]
  split_ifs at h ⊢ <;> omega

theorem bytes_lt_asymm {as bs : List UInt8} (h : as < bs) :
  ¬ bs < as
  := by
  have : Std.Asymm fun a b : UInt8 => a < b := ⟨fun _ _ => UInt8.lt_asymm⟩
  apply List.lt_asymm h

theorem ofNat_lt_ofNat {m n : Nat} (h : m < n) (hn : n < 256) :
  UInt8.ofNat m < UInt8.ofNat n
  := by
  rw [UInt8.lt_iff_toNat_lt, UInt8.toNat_ofNat', UInt8.toNat_ofNat']
  omega

/-- Numbers with the same digits before their last ones are ordered like these. -/
theorem following_append_lt {v w n : Nat} (hlt : v < w) (hsame : v / 64 ^ n = w / 64 ^ n)
    (as bs : List UInt8) :
  following v n ++ as < following w n ++ bs
  := by
  induction n with
  | zero =>
    rw [Nat.pow_zero, Nat.div_one, Nat.div_one] at hsame
    omega
  | succ n ih =>
    rw [Nat.pow_succ, ← Nat.div_div_eq_div_mul, ← Nat.div_div_eq_div_mul] at hsame
    have hle : v / 64 ^ n ≤ w / 64 ^ n := Nat.div_le_div_right (Nat.le_of_lt hlt)
    rw [following, following, List.cons_append, List.cons_append, List.cons_lt_cons_iff]
    by_cases heq : v / 64 ^ n = w / 64 ^ n
    · right
      rw [heq]
      exact ⟨rfl, ih heq⟩
    · left
      apply ofNat_lt_ofNat
      · omega
      · omega

/-- Characters are ordered like their bytes, whatever comes behind them. -/
theorem utf8EncodeChar_append_lt {c d : Char} (h : c < d) (as bs : List UInt8) :
  String.utf8EncodeChar c ++ as < String.utf8EncodeChar d ++ bs
  := by
  have hlt : c.val.toNat < d.val.toNat := h
  have hd := toNat_val_lt d
  rw [utf8EncodeChar_eq, utf8EncodeChar_eq, List.cons_append, List.cons_append,
    List.cons_lt_cons_iff]
  obtain hlead | hlead := Nat.lt_or_eq_of_le (leading_le (Nat.le_of_lt hlt))
  · left
    apply ofNat_lt_ofNat hlead (leading_lt hd)
  · right
    obtain ⟨hcount, hsame⟩ := followers_of_leading_eq (toNat_val_lt c) hd hlead
    rw [hlead, hcount]
    rw [hcount] at hsame
    exact ⟨rfl, following_append_lt hlt hsame as bs⟩

/-- Texts are ordered like their bytes. -/
theorem bytes_lt {s t : String} (h : s < t) :
  bytes s < bytes t
  := by
  rw [String.lt_iff] at h
  rw [bytes_eq_flatMap, bytes_eq_flatMap]
  generalize s.toList = cs at h ⊢
  generalize t.toList = ds at h ⊢
  induction cs generalizing ds with
  | nil =>
    cases ds with
    | nil => exact absurd h (List.not_lt_nil _)
    | cons d ds =>
      rw [List.flatMap_nil, List.flatMap_cons, utf8EncodeChar_eq]
      apply List.nil_lt_cons
  | cons c cs ih =>
    cases ds with
    | nil => exact absurd h (List.not_lt_nil _)
    | cons d ds =>
      rw [List.flatMap_cons, List.flatMap_cons]
      obtain hlt | ⟨rfl, hlt⟩ := List.cons_lt_cons_iff.mp h
      · apply utf8EncodeChar_append_lt hlt
      · apply List.append_left_lt
        apply ih _ hlt

end Gallery.Text
