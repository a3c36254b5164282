import Gallery.Proofs.Annotated.Run
import Gallery.Proofs.Text.Lines
import Gallery.Proofs.Text.Slice

/-!
# The text of a block of code

The text of a block of code is empty exactly when the block has no line but blank ones
(`codeText_eq_empty_iff`), so that a reader may close a segment by its text alone
(`segments_close`).  Otherwise the lines of the text are those of the block from the first to the
last one that is not blank.  These two are found by a search from either end, and what lies between
them is a slice of the block, whatever its lines are (`textBetween?_eq`).
-/

namespace Gallery.Annotated.Reader

open Gallery.Text

/-- The lines of a block from the first to the last one that is not blank, joined; the empty text if
all are blank, and `none` if the search for these two does not lead to a slice of the block. -/
def textBetween? (code : List String) : Option String :=
  match extent? isBlank code with
  | none => some ""
  | some (first, last) => (slice? code first last).map joinLines

/-! ### Blank blocks -/

/-- The text of a block is empty exactly when all its lines are blank. -/
theorem codeText_eq_empty_iff (code : List String) :
  codeText code = "" ↔ ∀ l ∈ code, isBlank l = true
  := by
  rw [← strip_eq_nil_iff]
  constructor
  · intro hempty
    have hblank : (stripBlankLines code).all isBlank = true := by
      rw [← isBlank_joinLines, ← codeText, hempty]
      rfl
    cases hstrip : strip isBlank code with
    | nil => rfl
    | cons l rest =>
      have hfirst : isBlank l = false := by
        apply head?_strip isBlank code
        rw [hstrip]
        rfl
      rw [stripBlankLines, hstrip, List.all_cons, hfirst] at hblank
      cases hblank
  · intro hnil
    rw [codeText, stripBlankLines, hnil]
    rfl

/-- Closing a segment adds it to the closed ones exactly when the text of its code is not empty. -/
theorem segments_close (r : Reader) :
  r.close.segments
    = if codeText r.code = "" then r.segments
      else r.segments ++ [⟨joinWords r.docs, codeText r.code, r.spaced⟩]
  := by
  have hempty := codeText_eq_empty_iff r.code
  rw [← List.all_eq_true] at hempty
  cases hblank : r.code.all isBlank with
  | true => rw [close_of_blank hblank, if_pos (hempty.mpr hblank)]
  | false =>
    have hne : codeText r.code ≠ "" := by
      rw [ne_eq, hempty, hblank]
      simp
    rw [close_of_not_blank hblank, if_neg hne]

/-! ### Outer blank lines -/

/-- Blank lines in front of a block do not show in its text. -/
theorem codeText_append_left {front : List String} (hfront : ∀ l ∈ front, isBlank l = true)
    (code : List String) :
  codeText (front ++ code) = codeText code
  := congrArg joinLines (strip_append_left hfront)

/-- Nor do blank lines behind it. -/
theorem codeText_append_right {back : List String} (hback : ∀ l ∈ back, isBlank l = true)
    (code : List String) :
  codeText (code ++ back) = codeText code
  := congrArg joinLines (strip_append_right hback)

/-- Between the first and the last line that is not blank there is a slice of the block, and it
gives the text. -/
theorem textBetween?_eq (code : List String) :
  textBetween? code = some (codeText code)
  := by
  rw [textBetween?]
  by_cases hnil : strip isBlank code = []
  · have hblank := (strip_eq_nil_iff isBlank code).mp hnil
    rw [(extent?_eq_none_iff isBlank code).mpr hblank, (codeText_eq_empty_iff code).mpr hblank]
  · obtain ⟨first, last, hextent, -, hslice⟩ := slice?_extent hnil
    rw [hextent]
    dsimp only
    rw [hslice, Option.map_some, codeText, stripBlankLines]

section

variable {code : List String} (hline : ∀ l ∈ code, IsLine l)

include hline

/-- The lines of a text that is not empty are those of the block without the outer blank ones. -/
theorem lines_codeText (hne : codeText code ≠ "") :
  lines (codeText code) = stripBlankLines code
  := by
  rw [codeText]
  apply lines_joinLines
  · intro l hl
    apply hline l (mem_of_mem_strip hl)
  · intro hnil
    apply hne
    rw [codeText, hnil]
    rfl

/-- The lines of a text, as a block, have that text. -/
theorem codeText_lines_codeText :
  codeText (lines (codeText code)) = codeText code
  := by
  by_cases hempty : codeText code = ""
  · have hblank : ∀ l ∈ lines "", isBlank l = true := by
      rw [lines_empty]
      simp [isBlank]
    rw [hempty, codeText_eq_empty_iff]
    exact hblank
  · rw [lines_codeText hline hempty]
    exact congrArg joinLines (strip_strip isBlank code)

end

/-! ### What the text of a block is -/

/-- The text of a block of lines is the block without its outer blank lines.  It is empty exactly
when all lines are blank, and by that a reader decides whether it closes a segment.  A search from
both ends always leads to a slice of the block that gives the text; and if the text is not empty
then its lines are the slice from the first to the last line that is not blank.  Blank lines at the
ends of the block do not change the text, and the lines of the text have the same text again. -/
theorem codeText_extent {code : List String} (hline : ∀ l ∈ code, IsLine l) :
  ((codeText code = "" ↔ ∀ l ∈ code, isBlank l = true)
      ∧ ∀ r : Reader, r.code = code → r.close.segments
        = if codeText code = "" then r.segments
          else r.segments ++ [⟨joinWords r.docs, codeText code, r.spaced⟩])
    ∧ textBetween? code = some (codeText code)
    ∧ (codeText code ≠ "" → ∃ first last, IsExtent isBlank code first last
      ∧ slice? code first last = some (lines (codeText code)))
    ∧ (∀ front back, (∀ l ∈ front, isBlank l = true) → (∀ l ∈ back, isBlank l = true) →
      codeText (front ++ code ++ back) = codeText code)
    ∧ codeText (lines (codeText code)) = codeText code
  := by
  constructor
  · use codeText_eq_empty_iff code
    rintro r rfl
    apply segments_close
  · use textBetween?_eq code
    constructor
    · intro hne
      have hnil : strip isBlank code ≠ [] := by
        rwa [ne_eq, strip_eq_nil_iff, ← codeText_eq_empty_iff]
      obtain ⟨first, last, -, hextent, hslice⟩ := slice?_extent hnil
      use first, last, hextent
      rw [lines_codeText hline hne, hslice, stripBlankLines]
    · constructor
      · intro front back hfront hback
        rw [codeText_append_right hback, codeText_append_left hfront]
      · apply codeText_lines_codeText hline

/-- A block of indented lines with blank lines of several kinds around and between them. -/
theorem codeText_extent_indented :
  (∀ l ∈ ["", " \t", "  if a:", "", "\t", "    b", " "], IsLine l)
    ∧ codeText ["", " \t", "  if a:", "", "\t", "    b", " "] = "  if a:\n\n\t\n    b"
    ∧ (close ⟨.code, [], ["d"], ["", " \t", "  if a:", "", "\t", "    b", " "], true, []⟩).segments
      = [⟨"d", "  if a:\n\n\t\n    b", true⟩]
    ∧ textBetween? ["", " \t", "  if a:", "", "\t", "    b", " "]
      = some "  if a:\n\n\t\n    b"
    ∧ (∃ first last, IsExtent isBlank ["", " \t", "  if a:", "", "\t", "    b", " "] first last
      ∧ slice? ["", " \t", "  if a:", "", "\t", "    b", " "] first last
        = some ["  if a:", "", "\t", "    b"])
    ∧ codeText (["\t"] ++ ["", " \t", "  if a:", "", "\t", "    b", " "] ++ ["", " "])
      = "  if a:\n\n\t\n    b"
    ∧ codeText ["  if a:", "", "\t", "    b"] = "  if a:\n\n\t\n    b"
  := by
  have hline : ∀ l ∈ ["", " \t", "  if a:", "", "\t", "    b", " "], IsLine l := by
    simp [IsLine]
  have hcode : codeText ["", " \t", "  if a:", "", "\t", "    b", " "]
      = "  if a:\n\n\t\n    b" := by
    decide +kernel
  have hlines : lines "  if a:\n\n\t\n    b" = ["  if a:", "", "\t", "    b"] := by
    decide +kernel
  obtain ⟨⟨-, hclose⟩, hbetween, hslice, hmore, hagain⟩ := codeText_extent hline
  rw [hcode] at hbetween hslice hagain
  rw [hlines] at hslice hagain
  have hsegments := hclose ⟨.code, [], ["d"], _, true, []⟩ rfl
  rw [hcode] at hsegments
  use hline, hcode, hsegments, hbetween, hslice (by decide)
  constructor
  · rw [← hcode]
    apply hmore
    · decide +kernel
    · decide +kernel
  · exact hagain

end Gallery.Annotated.Reader
