import Gallery.Proofs.Annotated.Run
import Gallery.Proofs.Text.WithoutSpace

/-!
# Nothing is lost in reading

Apart from white space, an annotated file consists of its lines, in order, the comment lines
without their markers.  What a reader holds, `Reader.flatten`, grows with every line by the text of
the line (`withoutSpace_flatten_step`), and `withoutSpace_flatten_ofText` says the same of whole
files.
-/

namespace Gallery.Annotated

open Gallery.Text

/-- The documentation and the code of a segment, one after the other. -/
def Segment.flatten (s : Segment) : String :=
  s.docs ++ s.code

/-- The header and all segments of a file, one after another. -/
def File.flatten (f : File) : String :=
  f.header ++ String.join (f.segments.map Segment.flatten)

/-- What a line says: a comment line without its marker, any other line as it is. -/
def lineText (marker line : String) : String :=
  if isComment marker line then afterMarker marker line else line

namespace Reader

/-- All that a reader holds, one after another: the header, the closed segments, and the
documentation and the code of the current one. -/
def flatten (r : Reader) : String :=
  String.join r.header ++ String.join (r.segments.map Segment.flatten) ++ String.join r.docs
    ++ String.join r.code

/-- A reader within the header holds nothing else. -/
def HeaderFirst (r : Reader) : Prop :=
  r.phase = .header → r.segments = [] ∧ r.docs = [] ∧ r.code = []

theorem headerFirst_start :
  start.HeaderFirst
  := by
  intro _
  simp [start]

theorem headerFirst_step {r : Reader} (h : r.HeaderFirst) (l : Line) :
  (r.step l).HeaderFirst
  := by
  by_cases hphase : r.phase = .header
  · obtain ⟨phase, header, docs, code, spaced, segments⟩ := r
    obtain rfl : phase = .header := hphase
    cases l with
    | comment text => exact h
    | blank raw => exact h
    | code raw =>
      intro hcode
      simp [step, takeCode] at hcode
  · intro hstep
    exact absurd hstep (header_step hphase l).2

/-! ### The text of a step -/

theorem withoutSpace_segment (docs code : List String) (spaced : Bool) :
  withoutSpace (Segment.flatten ⟨joinWords docs, codeText code, spaced⟩)
    = withoutSpace (String.join docs) ++ withoutSpace (String.join code)
  := by
  rw [Segment.flatten, withoutSpace_append, withoutSpace_joinWords, codeText,
    withoutSpace_joinLines_stripBlankLines]

/-- Closing a segment loses blank lines at most. -/
theorem withoutSpace_flatten_close (r : Reader) :
  withoutSpace r.close.flatten = withoutSpace r.flatten
  := by
  cases h : r.code.all isBlank with
  | true =>
    have hcode : withoutSpace (String.join r.code) = "" := by
      apply withoutSpace_join_of_blank
      simpa using h
    rw [close_of_blank h]
    simp [flatten, hcode]
  | false =>
    rw [close_of_not_blank h]
    simp [flatten, String.join_append, withoutSpace_segment, String.append_assoc]

/-- A comment line outside of the header adds its text. -/
theorem withoutSpace_flatten_comment {r : Reader} (hphase : r.phase ≠ .header) (text : String) :
  withoutSpace (r.step (.comment text)).flatten = withoutSpace r.flatten ++ withoutSpace text
  := by
  have hclose := withoutSpace_flatten_close r
  have hcode := code_close r
  rw [step_comment hphase]
  generalize r.close = closed at hclose hcode ⊢
  rw [← hclose]
  simp [flatten, hcode, String.join_append, String.append_assoc]

/-- A comment line within the header adds its text. -/
theorem withoutSpace_flatten_comment_header {r : Reader} (hr : r.HeaderFirst)
    (hphase : r.phase = .header) (text : String) :
  withoutSpace (r.step (.comment text)).flatten = withoutSpace r.flatten ++ withoutSpace text
  := by
  obtain ⟨hsegments, hdocs, hcode⟩ := hr hphase
  obtain ⟨phase, header, docs, code, spaced, segments⟩ := r
  obtain rfl : phase = .header := hphase
  obtain rfl : segments = [] := hsegments
  obtain rfl : docs = [] := hdocs
  obtain rfl : code = [] := hcode
  simp [step, takeComment, flatten, String.join_append]

/-- A line adds its text to what the reader holds. -/
theorem withoutSpace_flatten_step {r : Reader} (hr : r.HeaderFirst) (marker line : String) :
  withoutSpace (r.step (Line.classify marker line)).flatten
    = withoutSpace r.flatten ++ withoutSpace (lineText marker line)
  := by
  obtain h | ⟨h, hblank⟩ | hcode := kind_cases marker line
  · rw [classify_of_isComment h, lineText, if_pos h, ← withoutSpace_trim (afterMarker _ _)]
    by_cases hphase : r.phase = .header
    · apply withoutSpace_flatten_comment_header hr hphase
    · apply withoutSpace_flatten_comment hphase
  · rw [classify_of_isBlank h hblank, lineText, h]
    obtain ⟨phase, header, docs, code, spaced, segments⟩ := r
    cases phase with
    | header => simp [step, takeBlank, withoutSpace_of_isBlank hblank]
    | docs => simp [step, takeBlank, flatten, String.join_append, String.append_assoc]
    | code => simp [step, takeBlank, flatten, String.join_append, String.append_assoc]
  · rw [classify_of_isCode hcode, lineText, (isCode_iff.mp hcode).1]
    simp [step, takeCode, flatten, String.join_append, String.append_assoc]

/-- Lines add their texts to what the reader holds. -/
theorem withoutSpace_flatten_readLines {r : Reader} (hr : r.HeaderFirst) (marker : String)
    (ls : List String) :
  withoutSpace (r.readLines marker ls).flatten
    = withoutSpace r.flatten ++ withoutSpace (String.join (ls.map (lineText marker)))
  := by
  induction ls generalizing r with
  | nil => simp
  | cons l ls ih =>
    rw [readLines_cons, ih (headerFirst_step hr _), withoutSpace_flatten_step hr]
    simp [String.append_assoc]

/-- At the end of the file all that the reader holds is in the file. -/
theorem withoutSpace_flatten_finish (r : Reader) :
  withoutSpace r.finish.flatten = withoutSpace r.flatten
  := by
  cases h : r.code.isEmpty && r.docs.isEmpty with
  | true =>
    obtain ⟨hcode, hdocs⟩ : r.code = [] ∧ r.docs = [] := by
      simpa using h
    simp [finish, File.flatten, flatten, hcode, hdocs]
  | false =>
    simp [finish, h, File.flatten, flatten, String.join_append, withoutSpace_segment,
      String.append_assoc]

end Reader

/-- Apart from white space, the header and the segments of a file are the texts of its lines:
nothing is lost, doubled or moved. -/
theorem File.withoutSpace_flatten_ofText (marker text : String) :
  withoutSpace (File.ofText marker text).flatten
    = withoutSpace (String.join ((lines text).map (lineText marker)))
  := by
  rw [Reader.ofText_eq_readLines, Reader.withoutSpace_flatten_finish,
    Reader.withoutSpace_flatten_readLines Reader.headerFirst_start]
  simp [Reader.start, Reader.flatten]

end Gallery.Annotated
