import Gallery.Proofs.Annotated.Tidy

/-!
# The normal form of files that are read

What a file that is read from a text looks like to those who show it: the header is a trimmed line,
documentation is a line, and code starts and ends with lines that are not blank.  The first segment
has code and no documentation.  Only the last segment may have no code, so all others have something
to show, and the last one is not spaced (`normal_ofText`).

A file has something to show exactly when there is a line of code in its text
(`hasContent_ofText`).
-/

namespace Gallery.Annotated

open Gallery.Text

/-- The documentation is a line.  The code, if there is any, starts and ends with lines that are not
blank, and those of its lines that are not blank are no comments. -/
structure Segment.Normal (marker : String) (s : Segment) : Prop where
  isLine_docs : IsLine s.docs
  first_line : s.code ≠ "" → ∀ l ∈ (lines s.code).head?, Text.isBlank l = false
  last_line : s.code ≠ "" → ∀ l ∈ (lines s.code).getLast?, Text.isBlank l = false
  not_isComment : ∀ l ∈ lines s.code, Text.isBlank l = false → isComment marker l = false

/-- The header is a trimmed line and the segments are in normal form.  The first segment has code
and no documentation, every segment but the last has code and is not blank, and the last segment is
not spaced. -/
structure File.Normal (marker : String) (f : File) : Prop where
  isLine_header : IsLine f.header
  trim_header : trim f.header = f.header
  segments : ∀ s ∈ f.segments, s.Normal marker
  first : ∀ s ∈ f.segments.head?, s.docs = "" ∧ s.code ≠ ""
  earlier : ∀ s ∈ f.segments.dropLast, s.code ≠ "" ∧ s.isBlank = false
  last : ∀ s ∈ f.segments.getLast?, s.spaced = false

variable {marker : String}

/-! ### Tidy segments -/

theorem codeLines_eq_lines {s : Segment} (h : s.code ≠ "") :
  s.codeLines = lines s.code
  := if_neg h

theorem codeLines_eq_nil_iff {s : Segment} :
  s.codeLines = [] ↔ s.code = ""
  := by
  by_cases h : s.code = ""
  · simp [Segment.codeLines, h]
  · simp [codeLines_eq_lines h, h, lines_ne_nil]

namespace Segment.Tidy

variable {s : Segment}

/-- A tidy segment is in normal form. -/
theorem normal (hs : s.Tidy marker) :
  s.Normal marker
  := by
  constructor
  · exact hs.isLine_docs
  · intro hcode
    rw [← codeLines_eq_lines hcode, ← hs.stripBlankLines_code]
    apply head?_strip
  · intro hcode
    rw [← codeLines_eq_lines hcode, ← hs.stripBlankLines_code]
    apply getLast?_strip
  · intro l hl hblank
    by_cases hcode : s.code = ""
    · -- The one line of an empty text is blank.
      rw [hcode, lines_empty, List.mem_singleton] at hl
      subst hl
      cases hblank
    · apply hs.not_isComment
      rw [codeLines_eq_lines hcode]
      exact hl

end Segment.Tidy

/-- A segment in normal form that has code is not blank. -/
theorem Segment.Normal.isBlank_eq_false {s : Segment} (hs : s.Normal marker) (hcode : s.code ≠ "") :
  s.isBlank = false
  := by
  obtain ⟨l, rest, hlines⟩ := List.exists_cons_of_ne_nil (lines_ne_nil s.code)
  have hblank : Text.isBlank l = false := by
    apply hs.first_line hcode
    simp [hlines]
  have hmem : l ∈ lines s.code := by
    simp [hlines]
  rw [Segment.isBlank, isBlank_eq_false_of_mem_lines hmem hblank, Bool.and_false]

/-! ### Tidy lists of segments -/

namespace TidySegments

variable {ss : List Segment}

theorem tidy_of_mem (h : TidySegments marker ss) :
  ∀ s ∈ ss, s.Tidy marker
  := by
  induction h with
  | nil => simp
  | last hs _ => simpa using hs
  | cons hs _ _ _ _ ih => simpa using ⟨hs, ih⟩

/-- Every segment but the last has code. -/
theorem code_ne_empty (h : TidySegments marker ss) :
  ∀ s ∈ ss.dropLast, s.code ≠ ""
  := by
  induction h with
  | nil => simp
  | last _ _ => simp
  | cons _ hcode _ hne _ ih =>
    rw [List.dropLast_cons_of_ne_nil hne, List.forall_mem_cons]
    exact ⟨fun hempty => hcode (codeLines_eq_nil_iff.mpr hempty), ih⟩

/-- The last segment is not spaced. -/
theorem spaced_getLast? (h : TidySegments marker ss) :
  ∀ s ∈ ss.getLast?, s.spaced = false
  := by
  induction h with
  | nil => simp
  | last _ hspaced => simpa using hspaced
  | cons _ _ _ hne _ ih =>
    rw [List.getLast?_cons_of_ne_nil hne]
    exact ih

end TidySegments

/-! ### Files that are read -/

/-- Every file that is read from a text is in normal form. -/
theorem normal_ofText (marker text : String) :
  (File.ofText marker text).Normal marker
  := by
  have htidy := tidy_ofText marker text
  have hnormal : ∀ s ∈ (File.ofText marker text).segments, s.Normal marker :=
    fun s hs => (htidy.segments.tidy_of_mem s hs).normal
  constructor
  · exact htidy.isLine_header
  · exact htidy.trim_header
  · exact hnormal
  · intro s hs
    obtain ⟨hdocs, hcode⟩ := htidy.first s hs
    exact ⟨hdocs, fun hempty => hcode (codeLines_eq_nil_iff.mpr hempty)⟩
  · intro s hs
    have hcode := htidy.segments.code_ne_empty s hs
    use hcode
    apply (hnormal s (List.dropLast_subset _ hs)).isBlank_eq_false hcode
  · exact htidy.segments.spaced_getLast?

/-- A file that is read has no segments exactly when its text has no line of code. -/
theorem segments_ofText_eq_nil_iff (marker text : String) :
  (File.ofText marker text).segments = [] ↔ body marker (lines text) = []
  := by
  rw [segments_ofText]
  cases h : body marker (lines text) with
  | nil => simp [blocks, joinBlank, segmentsOf]
  | cons l rest =>
    rw [blocks_of_isCode rest (isCode_of_body_eq_cons h)]
    simp [segmentsOf_ne_nil (joinBlank_ne_nil _ _)]

/-- A file that is read has something to show exactly when its text has a line of code. -/
theorem hasContent_ofText (marker text : String) :
  (File.ofText marker text).hasContent = (lines text).any (isCode marker)
  := by
  have hbody : body marker (lines text) = [] ↔ (lines text).any (isCode marker) = false := by
    rw [body, List.dropWhile_eq_nil_iff, List.any_eq_false]
    simp
  have hnormal := normal_ofText marker text
  have hnil := segments_ofText_eq_nil_iff marker text
  rw [File.hasContent]
  cases hsegments : (File.ofText marker text).segments with
  | nil =>
    rw [hbody.mp (hnil.mp hsegments)]
    rfl
  | cons first rest =>
    -- The first segment has code.
    have hcode := (hnormal.first first (by simp [hsegments])).2
    have hshown := (hnormal.segments first (by simp [hsegments])).isBlank_eq_false hcode
    have hany : (lines text).any (isCode marker) = true := by
      rw [← Bool.not_eq_false, ← hbody, ← hnil, hsegments]
      simp
    rw [hany, List.any_cons, hshown]
    rfl

end Gallery.Annotated
