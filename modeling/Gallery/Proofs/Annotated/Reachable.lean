import Gallery.Proofs.Annotated.OpenCode

/-!
# What a reader can hold

What a reader holds goes with the part of the file in which it is, and `WellFormed` says how: within
the header nothing but the header, within documentation no code, and within code the mark for room
tells whether a blank line stands in the code after its first line.  Every line keeps this
(`wellFormed_step`), so it holds of every reader that has read some lines from the start, and what
such a reader has left behind, the header and the closed segments, only grows
(`reachable_readLines`).
-/

namespace Gallery.Annotated.Reader

open Gallery.Text

/-- What a reader holds goes with the part of the file in which it is. -/
inductive WellFormed (marker : String) : Reader → Prop where
  /-- Within the header there is nothing else. -/
  | header (header : List String) : WellFormed marker ⟨.header, header, [], [], false, []⟩
  /-- Within the documentation there is some, and no code. -/
  | docs {docs : List String} (header : List String) (segments : List Segment) (hdocs : docs ≠ []) :
    WellFormed marker ⟨.docs, header, docs, [], false, segments⟩
  /-- Within the code there is some, without comment lines.  Documentation is missing only before
  the first segment has been closed. -/
  | code {docs code : List String} {segments : List Segment} (header : List String)
    (hcode : code ≠ []) (hlines : ∀ l ∈ code, isComment marker l = false)
    (hdocs : docs = [] → segments = []) :
    WellFormed marker ⟨.code, header, docs, code, innerBlank code, segments⟩

section

variable {marker : String} {r : Reader}

/-! ### One more line -/

theorem wellFormed_start (marker : String) :
  WellFormed marker start
  := .header []

/-- A line of code ends the header. -/
theorem wellFormed_step_header (header : List String) (l : String) :
  WellFormed marker (step ⟨.header, header, [], [], false, []⟩ (Line.classify marker l))
  := by
  obtain hcomment | ⟨hcomment, hblank⟩ | hcode := kind_cases marker l
  · rw [classify_of_isComment hcomment]
    apply WellFormed.header
  · rw [classify_of_isBlank hcomment hblank]
    apply WellFormed.header
  · rw [classify_of_isCode hcode]
    have hlines : ∀ o ∈ [l], isComment marker o = false := by
      simpa using (isCode_iff.mp hcode).1
    apply WellFormed.code header (List.cons_ne_nil l []) hlines fun _ => rfl

/-- After the header a comment line leads to documentation, whatever the reader holds. -/
theorem wellFormed_step_comment (hphase : r.phase ≠ .header) (text : String) :
  WellFormed marker (r.step (.comment text))
  := by
  have hcode := code_close r
  have hspaced := spaced_close r
  rw [step_comment hphase]
  generalize r.close = closed at hcode hspaced ⊢
  obtain ⟨phase, header, docs, code, spaced, segments⟩ := closed
  obtain rfl : code = [] := hcode
  obtain rfl : spaced = false := hspaced
  apply WellFormed.docs
  simp

/-- After the header any other line leads to code. -/
theorem wellFormed_step_other {l : String} (hphase : r.phase ≠ .header)
    (hspaced : r.spaced = innerBlank r.code) (hlines : ∀ o ∈ r.code, isComment marker o = false)
    (hdocs : r.docs = [] → r.segments = []) (hl : isComment marker l = false) :
  WellFormed marker (r.step (Line.classify marker l))
  := by
  have hlines' : ∀ o ∈ r.code ++ [l], isComment marker o = false := by
    rw [List.forall_mem_append]
    exact ⟨hlines, by simpa using hl⟩
  rw [step_other hphase hspaced hl]
  apply WellFormed.code r.header (by simp) hlines' hdocs

/-- Every line keeps a reader well-formed. -/
theorem wellFormed_step (h : WellFormed marker r) (l : String) :
  WellFormed marker (r.step (Line.classify marker l))
  := by
  cases h with
  | header header => apply wellFormed_step_header
  | docs header segments hdocs =>
    cases hl : isComment marker l with
    | true =>
      rw [classify_of_isComment hl]
      apply wellFormed_step_comment (by simp)
    | false =>
      apply wellFormed_step_other (by simp) rfl (by simp) (fun hnil => absurd hnil hdocs) hl
  | code header hcode hlines hdocs =>
    cases hl : isComment marker l with
    | true =>
      rw [classify_of_isComment hl]
      apply wellFormed_step_comment (by simp)
    | false => apply wellFormed_step_other (by simp) rfl hlines hdocs hl

/-- So every reader that has started before the first line is well-formed. -/
theorem wellFormed_readLines (h : WellFormed marker r) (ls : List String) :
  WellFormed marker (r.readLines marker ls)
  := by
  induction ls generalizing r with
  | nil => exact h
  | cons l ls ih =>
    rw [readLines_cons]
    apply ih (wellFormed_step h l)

/-! ### What follows -/

/-- After the header there is something in the open segment. -/
theorem WellFormed.code_or_docs_ne_nil (h : WellFormed marker r) (hphase : r.phase ≠ .header) :
  r.code ≠ [] ∨ r.docs ≠ []
  := by
  cases h with
  | header header => exact absurd rfl hphase
  | docs header segments hdocs =>
    right
    exact hdocs
  | code header hcode hlines hdocs =>
    left
    exact hcode

/-- Closing the segment does not change a reader without code. -/
theorem close_of_code_eq_nil (h : WellFormed marker r) (hnil : r.code = []) :
  r.close = r
  := by
  cases h with
  | header header => rfl
  | docs header segments hdocs => rfl
  | code header hcode hlines hdocs => exact absurd hnil hcode

/-- A blank line in front of the code does not change the mark for room. -/
theorem spaced_step_blank (h : WellFormed marker r) (hnil : r.code = []) (raw : String) :
  (r.step (.blank raw)).spaced = r.spaced
  := by
  cases h with
  | header header => rfl
  | docs header segments hdocs => rfl
  | code header hcode hlines hdocs => exact absurd hnil hcode

end

/-- Whatever lines have been read, and whatever the marker of comment lines is, the reader is
well-formed.  If it holds no code then closing the segment does not change it, and a blank line does
not change its mark for room.  Whatever lines are read after that, the header and the closed
segments stay and are at most added to, and there is no way back to the header. -/
theorem reachable_readLines (marker : String) (ls : List String) :
  WellFormed marker (start.readLines marker ls)
    ∧ ((start.readLines marker ls).code = [] →
      (start.readLines marker ls).close = start.readLines marker ls
        ∧ ∀ raw, ((start.readLines marker ls).step (.blank raw)).spaced
          = (start.readLines marker ls).spaced)
    ∧ ∀ ms, (start.readLines marker ls).Extends (start.readLines marker (ls ++ ms))
  := by
  have h := wellFormed_readLines (wellFormed_start marker) ls
  use h
  constructor
  · intro hnil
    exact ⟨close_of_code_eq_nil h hnil, spaced_step_blank h hnil⟩
  · intro ms
    rw [readLines_append]
    apply extends_readLines

/-- A reader at documentation that goes on behind a blank line, and the same reader within the code
of that segment. -/
theorem reachable_readLines_carried :
  (start.readLines "//" ["// H", "x", "// a", "", "// b"]).close
      = ⟨.docs, ["H"], ["a", "b"], [], false, [⟨"", "x", false⟩]⟩
    ∧ WellFormed "//" ⟨.code, ["H"], ["a", "b"], ["", "y", " "], true, [⟨"", "x", false⟩]⟩
    ∧ Extends ⟨.docs, ["H"], ["a", "b"], [], false, [⟨"", "x", false⟩]⟩
      ⟨.code, ["H"], ["a", "b"], ["", "y", " "], true, [⟨"", "x", false⟩]⟩
  := by
  have hread : start.readLines "//" ["// H", "x", "// a", "", "// b"]
      = ⟨.docs, ["H"], ["a", "b"], [], false, [⟨"", "x", false⟩]⟩ := by
    decide +kernel
  have hreadOn : start.readLines "//" (["// H", "x", "// a", "", "// b"] ++ ["", "y", " "])
      = ⟨.code, ["H"], ["a", "b"], ["", "y", " "], true, [⟨"", "x", false⟩]⟩ := by
    decide +kernel
  obtain ⟨-, hclose, hextends⟩ := reachable_readLines "//" ["// H", "x", "// a", "", "// b"]
  obtain ⟨hwellFormed, -⟩ :=
    reachable_readLines "//" (["// H", "x", "// a", "", "// b"] ++ ["", "y", " "])
  have hon := hextends ["", "y", " "]
  rw [hread] at hclose hon
  rw [hreadOn] at hwellFormed hon
  rw [hread]
  exact ⟨(hclose rfl).1, hwellFormed, hon⟩

end Gallery.Annotated.Reader
