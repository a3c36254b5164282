import Gallery.Proofs.Site.Links

/-!
# Links as relative references

A link is written into a page as a reference to another page in the same directory.  It is one
segment of a path, without the characters that divide a reference (`isSegment_pageUrl`), but nothing
keeps it from being an absolute reference: the colon is not encoded, so the link of an example whose
name begins with a scheme, as `a:b` does, begins with that scheme too (`pageUrl_reference`).
-/

namespace Gallery

open Text

/-! ### References -/

/-- A character that can stand in a scheme behind its first letter. -/
def isSchemeChar (c : Char) : Bool :=
  c.isAlphanum || c = '+' || c = '-' || c = '.'

/-- The reference begins with a scheme: a letter, characters of a scheme, and a colon. -/
def BeginsWithScheme (url : String) : Prop :=
  ∃ first scheme rest, url.toList = first :: (scheme ++ ':' :: rest) ∧ first.isAlpha = true
    ∧ ∀ c ∈ scheme, isSchemeChar c = true

/-- The reference is one segment of a path, without a query and a fragment, and it is not one of
those that stand for a directory and the one above it, also when it is decoded. -/
structure IsSegment (url : String) : Prop where
  ne_empty : url ≠ ""
  noDivider : ∀ c ∈ url.toList, c ∉ ['/', '?', '#', '\\']
  noDots : ∀ dots ∈ [".", ".."], Percent.decode? url ≠ some dots

/-! ### What encoding keeps -/

theorem notMem_reserved_of_isPlain {c : Char} (h : Percent.isPlain c = true) :
  c ∉ Percent.reserved
  := by
  rw [Percent.isPlain, Bool.and_eq_true, Bool.not_eq_true'] at h
  simpa using h.2

/-- A character of a link segment does not divide a reference. -/
theorem not_divider_of_mem_encode {s : String} {c : Char} (h : c ∈ (Percent.encode s).toList) :
  c ∉ ['/', '?', '#', '\\']
  := by
  obtain hplain | rfl := Percent.isPlain_or_eq_percent_of_mem_encode h
  · have hdividers : ['/', '?', '#', '\\'] ⊆ Percent.reserved := by
      decide
    intro hmem
    apply notMem_reserved_of_isPlain hplain (hdividers hmem)
  · decide

theorem toNat_lt_of_isAlphanum {c : Char} (h : c.isAlphanum = true) :
  c.toNat < 128
  := by
  have hranges : ((decide ('A'.val ≤ c.val ∧ c.val ≤ 'Z'.val)
      || ('a'.val ≤ c.val && c.val ≤ 'z'.val)) || ('0'.val ≤ c.val && c.val ≤ '9'.val)) = true := h
  simp only [Bool.or_eq_true, Bool.and_eq_true, decide_eq_true_eq, UInt32.le_iff_toNat_le]
    at hranges
  have hupper : 'Z'.val.toNat = 90 := rfl
  have hlower : 'z'.val.toNat = 122 := rfl
  have hdigit : '9'.val.toNat = 57 := rfl
  rw [Char.toNat]
  omega

theorem toNat_lt_of_isSchemeChar {c : Char} (h : isSchemeChar c = true) :
  c.toNat < 128
  := by
  simp only [isSchemeChar, Bool.or_eq_true, decide_eq_true_eq] at h
  obtain ((halphanum | rfl) | rfl) | rfl := h
  · apply toNat_lt_of_isAlphanum halphanum
  · decide
  · decide
  · decide

/-- The characters of schemes stand for themselves in link segments. -/
theorem isPlain_of_isSchemeChar {c : Char} (h : isSchemeChar c = true) :
  Percent.isPlain c = true
  := by
  have hall : ∀ n < 128, isSchemeChar (Char.ofNat n) = true →
      Percent.isPlain (Char.ofNat n) = true := by
    decide
  have hplain := hall c.toNat (toNat_lt_of_isSchemeChar h)
  rw [Char.ofNat_toNat] at hplain
  apply hplain h

theorem isSchemeChar_of_isAlpha {c : Char} (h : c.isAlpha = true) :
  isSchemeChar c = true
  := by
  have halphanum : c.isAlphanum = true := Bool.or_eq_true_iff.mpr (.inl h)
  simp [isSchemeChar, halphanum]

theorem isDropped_of_isPlain {c : Char} (h : Percent.isPlain c = true) :
  Percent.isDropped c = false
  := by
  rw [← Bool.not_eq_true]
  intro hdropped
  simp only [Percent.isDropped, Bool.or_eq_true, decide_eq_true_eq] at hdropped
  obtain (rfl | rfl) | rfl := hdropped
  · exact absurd h (by decide)
  · exact absurd h (by decide)
  · exact absurd h (by decide)

theorem encodeChar_of_isPlain {c : Char} (h : Percent.isPlain c = true) :
  Percent.encodeChar c = [c]
  := by
  rw [Percent.encodeChar, isDropped_of_isPlain h, h]
  rfl

theorem flatMap_encodeChar_of_isPlain {cs : List Char} (h : ∀ c ∈ cs, Percent.isPlain c = true) :
  cs.flatMap Percent.encodeChar = cs
  := by
  induction cs with
  | nil => rfl
  | cons c cs ih =>
    obtain ⟨hc, hcs⟩ := List.forall_mem_cons.mp h
    rw [List.flatMap_cons, encodeChar_of_isPlain hc, ih hcs, List.singleton_append]

/-- The written form of a character that is kept is the character itself, or it begins with a
percent sign. -/
theorem encodeChar_cases {c : Char} (h : Percent.isDropped c = false) :
  Percent.encodeChar c = [c] ∨ ∃ cs, Percent.encodeChar c = '%' :: cs
  := by
  by_cases hplain : Percent.isPlain c = true
  · left
    apply encodeChar_of_isPlain hplain
  · right
    obtain ⟨b, bs, hbytes⟩ := List.exists_cons_of_ne_nil (String.utf8EncodeChar_ne_nil (c := c))
    rw [Percent.encodeChar, h, if_neg (by simp), if_neg hplain, hbytes, List.flatMap_cons,
      Percent.encodeByte, List.cons_append]
    exact ⟨_, rfl⟩

/-- What stands before the first percent sign of a link segment was written as itself. -/
theorem exists_eq_append_of_flatMap_encodeChar {cs front rest : List Char}
    (hkept : ∀ c ∈ cs, Percent.isDropped c = false) (hfront : '%' ∉ front)
    (h : cs.flatMap Percent.encodeChar = front ++ rest) :
  ∃ rest', cs = front ++ rest'
  := by
  induction front generalizing cs with
  | nil => exact ⟨cs, rfl⟩
  | cons f front ih =>
    cases cs with
    | nil => simp at h
    | cons c cs =>
      obtain ⟨hc, hcs⟩ := List.forall_mem_cons.mp hkept
      rw [List.mem_cons, not_or] at hfront
      rw [List.flatMap_cons] at h
      obtain hself | ⟨code, hcode⟩ := encodeChar_cases hc
      · rw [hself, List.singleton_append, List.cons_append, List.cons.injEq] at h
        obtain ⟨rfl, h⟩ := h
        obtain ⟨rest', rfl⟩ := ih hcs hfront.2 h
        use rest'
        rfl
      · rw [hcode, List.cons_append, List.cons_append, List.cons.injEq] at h
        exact absurd h.1 hfront.1

/-! ### Schemes -/

/-- A link segment begins with a scheme if the text without the characters that are left out
does. -/
theorem beginsWithScheme_encode {s : String} :
  BeginsWithScheme (Percent.encode s) ↔ BeginsWithScheme (Percent.kept s)
  := by
  constructor
  · rintro ⟨first, scheme, rest, hurl, hfirst, hscheme⟩
    have hkept : ∀ c ∈ (Percent.kept s).toList, Percent.isDropped c = false := by
      simp [Percent.toList_kept]
    have hpercent : '%' ∉ first :: (scheme ++ [':']) := by
      rw [List.mem_cons, List.mem_append, List.mem_singleton]
      rintro (rfl | hmem | h)
      · exact absurd hfirst (by decide)
      · exact absurd (hscheme _ hmem) (by decide)
      · exact absurd h (by decide)
    have hsplit : (Percent.kept s).toList.flatMap Percent.encodeChar
        = first :: (scheme ++ [':']) ++ rest := by
      rw [← Percent.toList_encode, Percent.encode_kept, hurl]
      simp
    obtain ⟨rest', hrest⟩ := exists_eq_append_of_flatMap_encodeChar hkept hpercent hsplit
    use first, scheme, rest'
    constructor
    · simpa using hrest
    · exact ⟨hfirst, hscheme⟩
  · rintro ⟨first, scheme, rest, hkept, hfirst, hscheme⟩
    use first, scheme, rest.flatMap Percent.encodeChar
    constructor
    · have hplain : Percent.isPlain first = true :=
        isPlain_of_isSchemeChar (isSchemeChar_of_isAlpha hfirst)
      have hcolon : Percent.isPlain ':' = true := by
        decide
      rw [← Percent.encode_kept, Percent.toList_encode, hkept, List.flatMap_cons,
        encodeChar_of_isPlain hplain, List.flatMap_append, List.flatMap_cons,
        encodeChar_of_isPlain hcolon, flatMap_encodeChar_of_isPlain]
      · rfl
      · intro c hc
        apply isPlain_of_isSchemeChar (hscheme c hc)
    · exact ⟨hfirst, hscheme⟩

/-- The extension of a page file has no part in a scheme. -/
theorem beginsWithScheme_pageFileName {format : Format} {name : String} :
  BeginsWithScheme (pageFileName format name) ↔ BeginsWithScheme name
  := by
  have hlist : (pageFileName format name).toList
      = name.toList ++ ('.' :: format.extension.toList) := by
    simp [pageFileName]
  have hcolon : ':' ∉ '.' :: format.extension.toList := by
    cases format <;> decide
  constructor
  · rintro ⟨first, scheme, rest, hname, hfirst, hscheme⟩
    rw [hlist] at hname
    obtain ⟨between, hext, hrest⟩ | ⟨between, hfront, hext⟩ :=
      List.append_eq_append_iff.mp (hname.trans (List.cons_append ..).symm)
    · exfalso
      apply hcolon
      rw [hrest]
      simp
    · cases between with
      | nil =>
        exfalso
        apply hcolon
        rw [List.nil_append] at hext
        rw [← hext]
        simp
      | cons c between =>
        rw [List.cons_append, List.cons.injEq] at hext
        obtain ⟨rfl, -⟩ := hext
        use first, scheme, between
        constructor
        · rw [hfront, List.cons_append]
        · exact ⟨hfirst, hscheme⟩
  · rintro ⟨first, scheme, rest, hname, hfirst, hscheme⟩
    use first, scheme, rest ++ ('.' :: format.extension.toList)
    constructor
    · rw [hlist, hname]
      simp
    · exact ⟨hfirst, hscheme⟩

/-! ### Links -/

/-- A link is one segment of a path. -/
theorem isSegment_pageUrl (format : Format) (name : String) :
  IsSegment (pageUrl format name)
  := by
  have hdecode := decode?_pageUrl format name
  constructor
  · intro hempty
    rw [hempty] at hdecode
    apply pageFileName_ne (by cases format <;> decide) _ (Option.some.inj hdecode).symm
  · intro c hc
    apply not_divider_of_mem_encode hc
  · intro dots hdots heq
    rw [hdecode, Option.some_inj] at heq
    have hlast : dots.toList.getLast? ≠ format.extension.toList.getLast? := by
      simp only [List.mem_cons, List.not_mem_nil, or_false] at hdots
      obtain rfl | rfl := hdots
      · cases format <;> decide
      · cases format <;> decide
    apply pageFileName_ne hlast _ heq

/-- A link is one segment of a path, whatever the name of the example.  It begins with a scheme
exactly when the name does, apart from the tabulators and line breaks in it; so it is a relative
reference exactly when the name begins with no scheme. -/
theorem pageUrl_reference (format : Format) (name : String) :
  IsSegment (pageUrl format name)
    ∧ (BeginsWithScheme (pageUrl format name) ↔ BeginsWithScheme (Percent.kept name))
  := by
  use isSegment_pageUrl format name
  rw [pageUrl, beginsWithScheme_encode, kept_pageFileName, beginsWithScheme_pageFileName]

/-- The link to an example called `a:b` is one to an address of the scheme `a`. -/
example : pageUrl .html "a:b" = "a:b.html" ∧ BeginsWithScheme "a:b.html" := by
  constructor
  · decide +kernel
  · exact ⟨'a', [], "b.html".toList, by decide +kernel, by decide, by simp⟩

end Gallery
