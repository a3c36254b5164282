import Gallery.Proofs.Annotated.BlankLines
import Gallery.Proofs.Annotated.Tidy

/-!
# Comments set apart from their code

Blank lines can stand between a comment line and the code below it.  How many there are has no part
in the header, in the documentation and in the code of a file.  But two of them or more leave room
after the segment of that code, unless it is the last one or the comment line belongs to the header
(`finish_readLines_gap`).  So a text with more of them is read as the same file up to the room after
one segment (`ofText_setApart`).
-/

namespace Gallery.Annotated

open Gallery.Text Reader

variable {marker : String}

/-! ### Blank lines above code -/

/-- The segments of the lines from the first comment line on. -/
def laterSegments (marker : String) (ls : List String) : List Segment :=
  segmentsOf (joinBlank (blocks marker (afterOthers marker ls)))

/-- Blank lines above code leave room after it when there are two of them or more. -/
theorem innerBlank_gap_append {gap : List String} {l : String} (hgap : ∀ o ∈ gap, isBlank o = true)
    (hl : isBlank l = false) (code : List String) :
  innerBlank (gap ++ l :: code) = (decide (2 ≤ gap.length) || code.any isBlank)
  := by
  match gap with
  | [] => simp [innerBlank]
  | [first] => simp [innerBlank, hl]
  | first :: second :: rest => simp [innerBlank, hgap second (by simp)]

/-- The first of some blocks gives a segment that is spaced only if there are more of them. -/
theorem segmentsOf_cons_eq (b : Block) (bs : List Block) :
  segmentsOf (b :: bs)
    = b.segment (!(segmentsOf bs).isEmpty && innerBlank b.code) :: segmentsOf bs
  := by
  cases bs with
  | nil => rfl
  | cons next bs =>
    have hne : (segmentsOf (next :: bs)).isEmpty = false := by
      rw [List.isEmpty_eq_false_iff]
      apply segmentsOf_ne_nil (by simp)
    rw [segmentsOf_cons (by simp), hne]
    rfl

section

variable {r : Reader} {l : String} {gap back : List String} (hl : isCode marker l = true)
  (hgap : ∀ o ∈ gap, isBlank o = true)

include hl hgap

/-- After the header a line of code and the blank lines above it open a block. -/
theorem segments_finish_readLines_gap (hphase : r.phase ≠ .header) (hcode : r.code = [])
    (hspaced : r.spaced = false) :
  (r.readLines marker (gap ++ l :: back)).finish.segments
    = r.segments ++ segmentsOf (⟨r.docs, gap ++ l :: others marker back⟩
      :: joinBlank (blocks marker (afterOthers marker back)))
  := by
  obtain ⟨hcomment, hblank⟩ := isCode_iff.mp hl
  have hothers : ∀ o ∈ gap ++ l :: others marker back, isComment marker o = false := by
    intro o ho
    obtain ho | ho := List.mem_append.mp ho
    · apply isComment_of_isBlank (ne_empty_of_isCode hl) (hgap o ho)
    · obtain rfl | ho := List.mem_cons.mp ho
      · exact hcomment
      · apply isComment_eq_false_of_mem_others ho
  have hopen : (gap ++ l :: others marker back).all isBlank = false := by
    simp [hblank]
  have hsplit : gap ++ l :: back
      = gap ++ l :: others marker back ++ afterOthers marker back := by
    rw [List.append_assoc, List.cons_append, others_append_afterOthers]
  rw [hsplit, readLines_append, readLines_others hphase (by rw [hspaced, hcode]; rfl) hothers
    (by simp), hcode, List.nil_append, segments_finish_readLines]
  · rw [joinBlank_cons_of_not_blank hopen]
  · apply isComment_of_head?_afterOthers
  · simp
  · rfl
  · left
    simp

/-- What is read of a line of code with the blank lines above it and the lines behind it, when no
code is open.  The blank lines only matter for the room after the segment of the code, and within
the header not even for that. -/
theorem finish_readLines_gap (hcode : r.code = []) (hspaced : r.spaced = false) :
  (r.readLines marker (gap ++ l :: back)).finish
    = ⟨trim (joinWords r.header), r.segments
      ++ ⟨joinWords r.docs, codeText (l :: others marker back),
          !(laterSegments marker back).isEmpty
            && ((r.phase ≠ .header && 2 ≤ gap.length) || (others marker back).any isBlank)⟩
        :: laterSegments marker back⟩
  := by
  have hblank := (isCode_iff.mp hl).2
  by_cases hphase : r.phase = .header
  · rw [readLines_append, readLines_blanks_header (ne_empty_of_isCode hl) hgap hphase,
      readLines_code_cons r back hl]
    apply File.ext
    · rw [finish, header_readLines (by simp)]
    · have hsegments : (readLines marker { r with phase := .docs } ([] ++ l :: back)).finish.segments
          = _ := segments_finish_readLines_gap hl (by simp) (by simp) hcode hspaced
      rw [List.nil_append, List.nil_append, segmentsOf_cons_eq] at hsegments
      rw [hsegments, Block.segment, innerBlank, List.tail_cons]
      simp [hphase, laterSegments, codeText]
  · have hcodeText := codeText_append_left hgap (l :: others marker back)
    rw [codeText] at hcodeText
    apply File.ext
    · rw [finish, header_readLines hphase]
    · rw [segments_finish_readLines_gap hl hgap hphase hcode hspaced, segmentsOf_cons_eq,
        Block.segment, innerBlank_gap_append hgap hblank, hcodeText]
      simp [hphase, laterSegments]

end

/-! ### More blank lines above code -/

/-- A block of code keeps its first line when it loses its outer blank lines. -/
theorem head?_stripBlankLines_cons {l : String} (hl : isBlank l = false) (code : List String) :
  (stripBlankLines (l :: code)).head? = some l
  := by
  have hne : stripBlankLines (l :: code) ≠ [] := by
    apply stripBlankLines_ne_nil
    simp [hl]
  obtain ⟨back, hback⟩ : stripBlankLines (l :: code) <+: (l :: code) := by
    rw [stripBlankLines, strip_eq_rdropWhile, dropWhile_eq_self_of_head? (by simpa using hl)]
    apply List.rdropWhile_prefix
  rw [← List.head?_append_of_ne_nil _ hne, hback]
  rfl

/-- A reader is after the header when it has read a line of code. -/
theorem phase_ne_header_eq_any (marker : String) (ls : List String) :
  decide ((start.readLines marker ls).phase ≠ .header) = ls.any (isCode marker)
  := by
  have hread := (hasRead_readLines marker ls).phase
  rw [Bool.eq_iff_iff, decide_eq_true_eq, ne_eq, hread, body, List.dropWhile_eq_nil_iff,
    List.any_eq_true]
  simp

/-- Two blank lines or more stay so when there are more of them. -/
theorem spaced_more (last inBody within : Bool) (m n : Nat) :
  (!last && ((inBody && 2 ≤ m + n) || within))
    = ((!last && ((inBody && 2 ≤ n) || within)) || (inBody && !last && 2 ≤ m + n))
  := by
  have hmore : 2 ≤ n → 2 ≤ m + n := Nat.le_add_left_of_le
  cases last
  · cases inBody
    · simp
    · cases within
      · simpa using hmore
      · simp
  · simp

/-- When blank lines are put between a comment line and the code below it, the file that is read
keeps its header and its segments.  Only the segment of this code can change: there is room after it
if now there are two blank lines or more above the code, the comment line does not belong to the
header, and the segment is not the last. -/
theorem ofText_setApart {a b comment code : String} {front blanks more back : List String}
    (ha : lines a = front ++ comment :: (blanks ++ code :: back))
    (hb : lines b = front ++ comment :: (more ++ blanks ++ code :: back))
    (hcomment : isComment marker comment = true) (hcode : isCode marker code = true)
    (hblanks : ∀ l ∈ blanks, isBlank l = true) (hmore : ∀ l ∈ more, isBlank l = true) :
  ∃ before s after, (File.ofText marker a).segments = before ++ s :: after
    ∧ s.codeLines.head? = some code
    ∧ File.ofText marker b = ⟨(File.ofText marker a).header,
      before ++ { s with spaced := s.spaced || (front.any (isCode marker) && !after.isEmpty
        && 2 ≤ more.length + blanks.length) } :: after⟩
  := by
  have hread := hasRead_readLines marker (front ++ [comment])
  have hfile : ∀ (text : String) (gap : List String),
      lines text = front ++ comment :: (gap ++ code :: back) →
      File.ofText marker text = ((start.readLines marker (front ++ [comment])).readLines marker
        (gap ++ code :: back)).finish := by
    intro text gap htext
    rw [ofText_eq_readLines, htext, ← readLines_append]
    simp
  have hclosed : (start.readLines marker (front ++ [comment])).code = [] := by
    rw [hread.code, openCode_concat_of_isComment hcomment]
  have hspaced : (start.readLines marker (front ++ [comment])).spaced = false := by
    rw [hread.spaced, hclosed]
    rfl
  have hphase : decide ((start.readLines marker (front ++ [comment])).phase ≠ .header)
      = front.any (isCode marker) := by
    rw [phase_ne_header_eq_any]
    simp [isCode, hcomment]
  have hlines : ∀ o ∈ code :: others marker back, IsLine o := by
    have hsubset : code :: others marker back ⊆ lines a := by
      rw [ha]
      intro o ho
      obtain rfl | ho := List.mem_cons.mp ho
      · simp
      · simp [List.takeWhile_subset _ ho]
    exact fun o ho => isLine_of_mem_lines (hsubset ho)
  have hgap : ∀ l ∈ more ++ blanks, isBlank l = true := by
    simpa [or_imp, forall_and] using ⟨hmore, hblanks⟩
  rw [hfile a _ ha, hfile b _ hb, finish_readLines_gap hcode hblanks hclosed hspaced,
    finish_readLines_gap hcode hgap hclosed hspaced]
  generalize start.readLines marker (front ++ [comment]) = r at hphase ⊢
  refine ⟨r.segments, _, laterSegments marker back, rfl, ?_, ?_⟩
  · rw [codeLines_codeText hlines]
    apply head?_stripBlankLines_cons (isCode_iff.mp hcode).2
  · rw [List.length_append, hphase, spaced_more]

/-- Two blank lines between a comment line and its code leave room after the code, though no blank
line follows it. -/
theorem ofText_setApart_twice :
  File.ofText "//" "x\n// c\ny\n// d\nz"
      = ⟨"", [⟨"", "x", false⟩, ⟨"c", "y", false⟩, ⟨"d", "z", false⟩]⟩
    ∧ File.ofText "//" "x\n// c\n\n\ny\n// d\nz"
      = ⟨"", [⟨"", "x", false⟩, ⟨"c", "y", true⟩, ⟨"d", "z", false⟩]⟩
  := by
  have hone : File.ofText "//" "x\n// c\ny\n// d\nz"
      = ⟨"", [⟨"", "x", false⟩, ⟨"c", "y", false⟩, ⟨"d", "z", false⟩]⟩ := by
    decide +kernel
  have ha : lines "x\n// c\ny\n// d\nz" = ["x"] ++ "// c" :: ([] ++ "y" :: ["// d", "z"]) := by
    decide +kernel
  have hb : lines "x\n// c\n\n\ny\n// d\nz"
      = ["x"] ++ "// c" :: (["", ""] ++ [] ++ "y" :: ["// d", "z"]) := by
    decide +kernel
  have hcomment : isComment "//" "// c" = true := by decide +kernel
  have hcode : isCode "//" "y" = true := by decide +kernel
  obtain ⟨before, s, after, hsegments, hhead, hfile⟩ :=
    ofText_setApart ha hb hcomment hcode (by simp) (by decide +kernel)
  rw [hone] at hsegments hfile
  -- of the three segments the second one is that of the line of code
  obtain ⟨rfl, rfl, rfl⟩ : before = [⟨"", "x", false⟩] ∧ s = ⟨"c", "y", false⟩
      ∧ after = [⟨"d", "z", false⟩] := by
    have hx : Segment.codeLines ⟨"", "x", false⟩ = ["x"] := by decide +kernel
    have hz : Segment.codeLines ⟨"d", "z", false⟩ = ["z"] := by decide +kernel
    rcases before with _ | ⟨p, _ | ⟨q, _ | ⟨w, before⟩⟩⟩
    · obtain ⟨rfl, -⟩ := List.cons_eq_cons.mp hsegments
      simp [hx] at hhead
    · simpa [eq_comm] using hsegments
    · obtain ⟨-, -, rfl, -⟩ : _ ∧ _ ∧ ⟨"d", "z", false⟩ = s ∧ _ := by
        simpa using hsegments
      simp [hz] at hhead
    · simp at hsegments
  constructor
  · exact hone
  · rw [hfile]
    decide +kernel

end Gallery.Annotated
