import Gallery.Proofs.Site.Links
import Gallery.Proofs.Text.Escapes

/-!
# Links stand for names

The link to a page is written in printable characters without a meaning in links, apart from the
percent signs of its escapes, and it stands for the bytes of the file name without tabulators and
line breaks.  So names without these are told from their links (`pageUrl_encodes`).
-/

namespace Gallery

open Text

variable {format : Format}

/-- A link is found again when it stands behind a slash and the slashes are taken away. -/
theorem dropWhile_slash_pageUrl (format : Format) (name : String) :
  ("/" ++ pageUrl format name).toList.dropWhile (· = '/') = (pageUrl format name).toList
  := by
  have hslash : '/' ∉ (pageUrl format name).toList := by
    intro hmem
    obtain ⟨-, -, hreserved⟩ := Percent.printable_of_mem_encode hmem
    exact absurd (hreserved (by decide)) (by decide)
  have hfirst : ∀ c ∈ (pageUrl format name).toList.head?, decide (c = '/') = false := by
    intro c hc
    rw [decide_eq_false_iff_not]
    rintro rfl
    apply hslash (List.mem_of_mem_head? hc)
  have hjoin : ("/" ++ pageUrl format name).toList = '/' :: (pageUrl format name).toList := by
    simp
  rw [hjoin, List.dropWhile_cons_of_pos (by simp), dropWhile_eq_self_of_head? hfirst]

/-- Names without the characters that are left out of links are told from their links. -/
theorem eq_of_pageUrl_eq {m n : String} (hm : ∀ c ∈ m.toList, Percent.isDropped c = false)
    (hn : ∀ c ∈ n.toList, Percent.isDropped c = false)
    (h : pageUrl format m = pageUrl format n) :
  m = n
  := by
  rw [pageUrl_eq_pageUrl_iff, Percent.kept_eq_self_iff.mpr hm, Percent.kept_eq_self_iff.mpr hn] at h
  exact h

/-- The link to the page of an example is printable and has none of the characters with a meaning in
links, apart from percent signs, and these stand only at the start of escapes.  It stands for the
bytes of the name of the page file without its tabulators and line breaks, and slashes that are
taken away before it leave it whole.  So names without these characters have different links. -/
theorem pageUrl_encodes (format : Format) :
  (∀ name, (∀ c ∈ (pageUrl format name).toList, 0x20 ≤ c.toNat ∧ c.toNat ≤ 0x7E
      ∧ c ∉ [' ', '"', '<', '>', '\x60', '#', '?', '\x7b', '\x7d', '/', '\\'])
    ∧ Percent.Escaped (pageUrl format name).toList
    ∧ Percent.decodeBytes (pageUrl format name).toList
      = bytes (Percent.kept (name ++ "." ++ format.extension))
    ∧ ("/" ++ pageUrl format name).toList.dropWhile (· = '/') = (pageUrl format name).toList)
  ∧ ∀ m n, (∀ c ∈ m.toList ++ n.toList, c ≠ '\t' ∧ c ≠ '\n' ∧ c ≠ '\r') →
    pageUrl format m = pageUrl format n → m = n
  := by
  constructor
  · intro name
    constructor
    · intro c hc
      obtain ⟨hlow, hhigh, hreserved⟩ := Percent.printable_of_mem_encode hc
      use hlow, hhigh
      intro hmem
      have hsubset : [' ', '"', '<', '>', '\x60', '#', '?', '\x7b', '\x7d', '/', '\\']
          ⊆ Percent.reserved.erase '%' := by
        decide
      have herase := hsubset hmem
      obtain rfl := hreserved (List.mem_of_mem_erase herase)
      exact absurd herase (by decide)
    · use Percent.escaped_encode _, Percent.decodeBytes_encode_eq_bytes _
      apply dropWhile_slash_pageUrl
  · intro m n hfree
    have hkept : ∀ c ∈ m.toList ++ n.toList, Percent.isDropped c = false := by
      intro c hc
      simpa [Percent.isDropped, and_assoc] using hfree c hc
    obtain ⟨hm, hn⟩ := List.forall_mem_append.mp hkept
    apply eq_of_pageUrl_eq hm hn

/-- A name with a character of several bytes and one that must be escaped, and a tabulator. -/
theorem pageUrl_encodes_sharp :
  pageUrl .html "é#\t" = "%C3%A9%23.html"
    ∧ Percent.decodeBytes "%C3%A9%23.html".toList = bytes "é#.html"
    ∧ pageUrl .html "é#" ≠ pageUrl .html "é%23"
  := by
  obtain ⟨hurl, hdistinct⟩ := pageUrl_encodes .html
  have hwritten : pageUrl .html "é#\t" = "%C3%A9%23.html" := by
    decide +kernel
  have hkept : Percent.kept ("é#\t" ++ "." ++ Format.html.extension) = "é#.html" := by
    decide +kernel
  obtain ⟨-, -, hdecode, -⟩ := hurl "é#\t"
  constructor
  · exact hwritten
  · rw [hwritten, hkept] at hdecode
    use hdecode
    intro hsame
    have hname := hdistinct "é#" "é%23" (by simp) hsame
    exact absurd hname (by decide)

end Gallery
