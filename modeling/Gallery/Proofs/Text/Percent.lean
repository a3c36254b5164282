import Mathlib.Data.List.Basic
import Gallery.Text.Entity

/-!
# Reading link segments

A link segment is read byte by byte: a percent sign and two hexadecimal digits are the byte with
that number, and any other character is its own bytes in UTF-8.  What `encode` writes is read as
the text without the characters that cannot stand in a link (`decode?_encode`), so two texts have
one link segment exactly when they differ in such characters only (`encode_eq_encode_iff`).
-/

namespace Gallery.Text.Percent

/-- The number of a hexadecimal digit, in either case. -/
def digitValue? (c : Char) : Option Nat :=
  if '0' ≤ c ∧ c ≤ '9' then some (c.toNat - '0'.toNat)
  else if 'A' ≤ c ∧ c ≤ 'F' then some (c.toNat - 'A'.toNat + 10)
  else if 'a' ≤ c ∧ c ≤ 'f' then some (c.toNat - 'a'.toNat + 10)
  else none

/-- The byte that two hexadecimal digits stand for. -/
def byteOf? (high low : Char) : Option UInt8 :=
  match digitValue? high, digitValue? low with
  | some h, some l => some (UInt8.ofNat (16 * h + l))
  | _, _ => none

/-- The bytes that a link segment stands for.  A percent sign without two hexadecimal digits behind
it stands for itself. -/
def decodeBytes : List Char → List UInt8
  | '%' :: high :: low :: cs =>
    match byteOf? high low with
    | some b => b :: decodeBytes cs
    | none => String.utf8EncodeChar '%' ++ decodeBytes (high :: low :: cs)
  | c :: cs => String.utf8EncodeChar c ++ decodeBytes cs
  | [] => []

/-- The text that a link segment stands for, if its bytes are UTF-8. -/
def decode? (s : String) : Option String :=
  String.fromUTF8? (decodeBytes s.toList).toByteArray

/-- The text without the characters that are left out of a link. -/
def kept (s : String) : String :=
  String.ofList (s.toList.filter fun c => !isDropped c)

/-! ### Characters that are kept -/

theorem toList_kept (s : String) :
  (kept s).toList = s.toList.filter fun c => !isDropped c
  := String.toList_ofList

theorem kept_append (s t : String) :
  kept (s ++ t) = kept s ++ kept t
  := by
  rw [← String.toList_inj]
  simp [toList_kept]

theorem kept_eq_self_iff {s : String} :
  kept s = s ↔ ∀ c ∈ s.toList, isDropped c = false
  := by
  rw [← String.toList_inj, toList_kept, List.filter_eq_self]
  simp

/-- What is left out of a link does not matter for it. -/
theorem encode_kept (s : String) :
  encode (kept s) = encode s
  := by
  rw [← String.toList_inj, toList_encode, toList_encode, toList_kept]
  induction s.toList with
  | nil => rfl
  | cons c cs ih =>
    cases h : isDropped c with
    | true => simp [h, encodeChar, ih]
    | false => simp [h, ih]

/-! ### Bytes -/

theorem digitValue?_hexDigit :
  ∀ n < 16, digitValue? (hexDigit n) = some n
  := by
  decide

/-- The two digits of a byte stand for it. -/
theorem byteOf?_hexDigit (b : UInt8) :
  byteOf? (hexDigit (b.toNat / 16)) (hexDigit (b.toNat % 16)) = some b
  := by
  have hlt : b.toNat < 256 := b.toNat_lt
  have hhigh := digitValue?_hexDigit (b.toNat / 16) (by omega)
  have hlow := digitValue?_hexDigit (b.toNat % 16) (by omega)
  simp only [byteOf?, hhigh, hlow, Nat.div_add_mod, UInt8.ofNat_toNat]

theorem decodeBytes_encodeByte (b : UInt8) (cs : List Char) :
  decodeBytes (encodeByte b ++ cs) = b :: decodeBytes cs
  := by
  rw [encodeByte, List.cons_append, List.cons_append, List.cons_append, List.nil_append,
    decodeBytes, byteOf?_hexDigit]

theorem decodeBytes_encodeBytes (bs : List UInt8) (cs : List Char) :
  decodeBytes (bs.flatMap encodeByte ++ cs) = bs ++ decodeBytes cs
  := by
  induction bs with
  | nil => rfl
  | cons b bs ih =>
    rw [List.flatMap_cons, List.append_assoc, decodeBytes_encodeByte, ih, List.cons_append]

/-! ### The characters of link segments -/

theorem isPlain_hexDigit :
  ∀ n < 16, isPlain (hexDigit n) = true
  := by
  decide

theorem isPlain_or_eq_percent_of_mem_encodeByte {b : UInt8} {c : Char} (h : c ∈ encodeByte b) :
  isPlain c = true ∨ c = '%'
  := by
  have hlt : b.toNat < 256 := b.toNat_lt
  have hhigh := isPlain_hexDigit (b.toNat / 16) (by omega)
  have hlow := isPlain_hexDigit (b.toNat % 16) (by omega)
  simp only [encodeByte, List.mem_cons, List.not_mem_nil, or_false] at h
  obtain rfl | rfl | rfl := h
  · right
    rfl
  · left
    exact hhigh
  · left
    exact hlow

/-- A link segment consists of characters that stand for themselves and of percent signs. -/
theorem isPlain_or_eq_percent_of_mem_encode {s : String} {c : Char} (h : c ∈ (encode s).toList) :
  isPlain c = true ∨ c = '%'
  := by
  rw [toList_encode, List.mem_flatMap] at h
  obtain ⟨d, -, hc⟩ := h
  rw [encodeChar] at hc
  split at hc
  · cases hc
  · split at hc
    · left
      obtain rfl := List.mem_singleton.mp hc
      assumption
    · obtain ⟨b, -, hb⟩ := List.mem_flatMap.mp hc
      apply isPlain_or_eq_percent_of_mem_encodeByte hb

/-! ### Characters and texts -/

theorem decodeBytes_cons {c : Char} (h : c ≠ '%') (cs : List Char) :
  decodeBytes (c :: cs) = String.utf8EncodeChar c ++ decodeBytes cs
  := by
  apply decodeBytes.eq_2
  rintro high low rest rfl
  exact absurd rfl h

theorem ne_percent_of_isPlain {c : Char} (h : isPlain c = true) :
  c ≠ '%'
  := by
  rintro rfl
  exact absurd h (by decide)

/-- A written character is read as its bytes, unless it was left out. -/
theorem decodeBytes_encodeChar (c : Char) (cs : List Char) :
  decodeBytes (encodeChar c ++ cs)
    = (if isDropped c then [] else String.utf8EncodeChar c) ++ decodeBytes cs
  := by
  rw [encodeChar]
  split
  · rfl
  · split
    · rename_i hplain
      apply decodeBytes_cons (ne_percent_of_isPlain hplain)
    · apply decodeBytes_encodeBytes

/-- The bytes of a link segment are those of the characters that are kept. -/
theorem decodeBytes_encode (s : String) :
  decodeBytes (encode s).toList = (kept s).toList.flatMap String.utf8EncodeChar
  := by
  rw [toList_encode, toList_kept]
  induction s.toList with
  | nil => rfl
  | cons c cs ih =>
    rw [List.flatMap_cons, decodeBytes_encodeChar, ih]
    cases h : isDropped c with
    | true => simp [h]
    | false => simp [h]

theorem fromUTF8?_toUTF8 (s : String) :
  String.fromUTF8? s.toUTF8 = some s
  := dif_pos s.isValidUTF8

/-- A link segment is read as the text that it was written for, without the characters that were
left out. -/
theorem decode?_encode (s : String) :
  decode? (encode s) = some (kept s)
  := by
  have hbytes : (decodeBytes (encode s).toList).toByteArray = (kept s).toUTF8 := by
    rw [decodeBytes_encode]
    exact String.utf8Encode_toList
  rw [decode?, hbytes, fromUTF8?_toUTF8]

/-- Texts have one link segment exactly when they differ in characters that are left out. -/
theorem encode_eq_encode_iff {s t : String} :
  encode s = encode t ↔ kept s = kept t
  := by
  constructor
  · intro h
    have hdecode := decode?_encode s
    rw [h, decode?_encode] at hdecode
    exact (Option.some.inj hdecode).symm
  · intro h
    rw [← encode_kept s, h, encode_kept]

end Gallery.Text.Percent
