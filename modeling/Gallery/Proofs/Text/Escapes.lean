import Gallery.Proofs.Text.Bytes
import Gallery.Proofs.Text.Percent

/-!
# Escapes in link segments

A link segment is printable: of the printable characters with a meaning in links it has only the
percent sign (`printable_of_mem_encode`), and that only at the start of an escape, with two
hexadecimal digits behind it (`escaped_encode`).
-/

namespace Gallery.Text.Percent

/-- A hexadecimal digit, in either case. -/
def isHexDigit (c : Char) : Bool :=
  (digitValue? c).isSome

/-- Percent signs stand only at the start of escapes: behind each of them there are two hexadecimal
digits. -/
inductive Escaped : List Char → Prop where
  | nil : Escaped []
  | char {c : Char} {cs : List Char} (hc : c ≠ '%') (hcs : Escaped cs) : Escaped (c :: cs)
  | escape {high low : Char} {cs : List Char} (hhigh : isHexDigit high = true)
    (hlow : isHexDigit low = true) (hcs : Escaped cs) : Escaped ('%' :: high :: low :: cs)

theorem Escaped.append {cs ds : List Char} (hcs : Escaped cs) (hds : Escaped ds) :
  Escaped (cs ++ ds)
  := by
  induction hcs with
  | nil => exact hds
  | char hc _ ih => exact .char hc ih
  | escape hhigh hlow _ ih => exact .escape hhigh hlow ih

theorem Escaped.flatMap {α : Type} {xs : List α} {f : α → List Char}
    (h : ∀ x ∈ xs, Escaped (f x)) :
  Escaped (xs.flatMap f)
  := by
  induction xs with
  | nil => exact .nil
  | cons x xs ih =>
    obtain ⟨hx, hxs⟩ := List.forall_mem_cons.mp h
    rw [List.flatMap_cons]
    apply hx.append (ih hxs)

theorem isHexDigit_hexDigit {n : Nat} (h : n < 16) :
  isHexDigit (hexDigit n) = true
  := by
  rw [isHexDigit, digitValue?_hexDigit n h]
  rfl

theorem escaped_encodeByte (b : UInt8) :
  Escaped (encodeByte b)
  := by
  have hlt : b.toNat < 256 := b.toNat_lt
  apply Escaped.escape
  · apply isHexDigit_hexDigit
    omega
  · apply isHexDigit_hexDigit
    omega
  · exact .nil

/-- In a link segment percent signs stand only at the start of escapes. -/
theorem escaped_encode (s : String) :
  Escaped (encode s).toList
  := by
  rw [toList_encode]
  apply Escaped.flatMap
  intro c _
  rw [encodeChar]
  split
  · exact .nil
  · split
    · rename_i hplain
      exact .char (ne_percent_of_isPlain hplain) .nil
    · apply Escaped.flatMap
      exact fun b _ => escaped_encodeByte b

/-- A link segment consists of printable characters, and of the reserved ones it has only the
percent sign. -/
theorem printable_of_mem_encode {s : String} {c : Char} (h : c ∈ (encode s).toList) :
  0x20 ≤ c.toNat ∧ c.toNat ≤ 0x7E ∧ (c ∈ reserved → c = '%')
  := by
  obtain hplain | rfl := isPlain_or_eq_percent_of_mem_encode h
  · simp only [isPlain, Bool.and_eq_true, decide_eq_true_eq, Bool.not_eq_true',
      List.contains_eq_mem, decide_eq_false_iff_not] at hplain
    obtain ⟨⟨hlow, hhigh⟩, hnot⟩ := hplain
    exact ⟨hlow, hhigh, fun hmem => absurd hmem hnot⟩
  · decide

/-- The bytes of a link segment are those of the text without the characters that are left out. -/
theorem decodeBytes_encode_eq_bytes (s : String) :
  decodeBytes (encode s).toList = bytes (kept s)
  := by
  rw [decodeBytes_encode, bytes_eq_flatMap]

end Gallery.Text.Percent
