import Gallery.Proofs.Annotated.CodeText
import Gallery.Proofs.Annotated.Grouping

/-!
# Tidy files

What annotated files look like that have been read.  The header and all documentation are single
lines, and the header is trimmed.  Code has no comment lines and no blank lines at its ends; it is
missing in the last segment at most, and a segment that is not the last is spaced if there are
blank lines within its code.  The first segment has code and no documentation.

`tidy_ofText` says that every file that is read from a text is tidy.
-/

namespace Gallery.Annotated

open Gallery.Text

/-- The lines of a segment's code; there are none if the code is empty. -/
def Segment.codeLines (s : Segment) : List String :=
  if s.code = "" then [] else lines s.code

/-- The documentation is a line, and the code is a block without comment lines and without blank
lines at its ends. -/
structure Segment.Tidy (marker : String) (s : Segment) : Prop where
  isLine_docs : IsLine s.docs
  not_isComment : ∀ l ∈ s.codeLines, isComment marker l = false
  stripBlankLines_code : stripBlankLines s.codeLines = s.codeLines

/-- Tidy segments, of which only the last may be without code; it is not spaced, and the others
are if blank lines stand within their code. -/
inductive TidySegments (marker : String) : List Segment → Prop where
  | nil : TidySegments marker []
  | last {s : Segment} (hs : s.Tidy marker) (hspaced : s.spaced = false) : TidySegments marker [s]
  | cons {s : Segment} {ss : List Segment} (hs : s.Tidy marker) (hcode : s.codeLines ≠ [])
      (hspaced : innerBlank s.codeLines = true → s.spaced = true) (hne : ss ≠ [])
      (hss : TidySegments marker ss) : TidySegments marker (s :: ss)

/-- The header is a trimmed line, the segments are tidy, and the first of them has code and no
documentation. -/
structure File.Tidy (marker : String) (f : File) : Prop where
  isLine_header : IsLine f.header
  trim_header : trim f.header = f.header
  segments : TidySegments marker f.segments
  first : ∀ s ∈ f.segments.head?, s.docs = "" ∧ s.codeLines ≠ []

/-- The comments are texts of one line, and the other lines are lines and no comments. -/
structure Block.Tidy (marker : String) (b : Block) : Prop where
  isLine_comments : ∀ t ∈ b.comments, IsLine t
  isLine_code : ∀ l ∈ b.code, IsLine l
  not_isComment : ∀ l ∈ b.code, isComment marker l = false

variable {marker : String}

/-! ### Blocks of lines -/

theorem isLine_commentText {line : String} (h : IsLine line) :
  IsLine (commentText marker line)
  := by
  apply isLine_trim
  rw [IsLine, afterMarker, String.toList_ofList]
  intro hmem
  apply isLine_trim h
  apply List.mem_of_mem_drop hmem

theorem tidy_of_mem_blocks {ls : List String} (hls : ∀ l ∈ ls, IsLine l) :
  ∀ b ∈ blocks marker ls, b.Tidy marker
  := by
  fun_induction blocks marker ls with
  | case1 => simp
  | case2 l ls ih =>
    have hafter : ∀ o ∈ afterComments marker (l :: ls), IsLine o :=
      fun o ho => hls o (List.dropWhile_subset _ ho)
    intro b hb
    obtain rfl | hb := List.mem_cons.mp hb
    · constructor
      · intro t ht
        obtain ⟨c, hc, rfl⟩ := List.mem_map.mp ht
        apply isLine_commentText
        apply hls c (List.takeWhile_subset _ hc)
      · intro o ho
        apply hafter o (List.takeWhile_subset _ ho)
      · exact fun _ => isComment_eq_false_of_mem_others
    · apply ih _ b hb
      exact fun o ho => hafter o (List.dropWhile_subset _ ho)

theorem tidy_of_mem_joinBlank {bs : List Block} (hbs : ∀ b ∈ bs, b.Tidy marker) :
  ∀ b ∈ joinBlank bs, b.Tidy marker
  := by
  induction bs with
  | nil => simp [joinBlank]
  | cons b bs ih =>
    obtain ⟨hb, hbs⟩ := List.forall_mem_cons.mp hbs
    rw [joinBlank]
    rcases hjoin : joinBlank bs with _ | ⟨next, rest⟩
    · simpa using hb
    · rw [hjoin] at ih
      obtain ⟨hnext, hrest⟩ := List.forall_mem_cons.mp (ih hbs)
      dsimp only
      split
      · rw [List.forall_mem_cons]
        constructor
        · constructor
          · intro t ht
            obtain ht | ht := List.mem_append.mp ht
            · apply hb.isLine_comments t ht
            · apply hnext.isLine_comments t ht
          · exact hnext.isLine_code
          · exact hnext.not_isComment
        · exact hrest
      · rw [List.forall_mem_cons, List.forall_mem_cons]
        exact ⟨hb, hnext, hrest⟩

/-- Of joined blocks only the last may have nothing but blank lines beside its comments. -/
theorem not_blank_of_mem_dropLast_joinBlank (bs : List Block) :
  ∀ b ∈ (joinBlank bs).dropLast, b.code.all isBlank = false
  := by
  induction bs with
  | nil => simp [joinBlank]
  | cons b bs ih =>
    rw [joinBlank]
    rcases hjoin : joinBlank bs with _ | ⟨next, rest⟩
    · simp
    · rw [hjoin] at ih
      dsimp only
      split
      case isTrue =>
        cases rest with
        | nil => simp
        | cons other rest =>
          rw [List.dropLast_cons_cons, List.forall_mem_cons] at ih ⊢
          exact ih
      case isFalse h =>
        rw [List.dropLast_cons_cons, List.forall_mem_cons]
        exact ⟨by simpa using h, ih⟩

/-! ### Segments of blocks -/

/-- The lines of a segment's code are those of its block without the outer blank ones. -/
theorem codeLines_codeText {docs : String} {code : List String} {spaced : Bool}
    (h : ∀ l ∈ code, IsLine l) :
  Segment.codeLines ⟨docs, Reader.codeText code, spaced⟩ = stripBlankLines code
  := by
  by_cases hempty : Reader.codeText code = ""
  · have hnil : stripBlankLines code = [] :=
      (strip_eq_nil_iff isBlank code).mpr ((Reader.codeText_eq_empty_iff code).mp hempty)
    rw [Segment.codeLines, if_pos hempty, hnil]
  · rw [Segment.codeLines, if_neg hempty, Reader.lines_codeText h hempty]

theorem codeLines_segment {b : Block} (hb : b.Tidy marker) (spaced : Bool) :
  (b.segment spaced).codeLines = stripBlankLines b.code
  := codeLines_codeText hb.isLine_code

theorem tidy_segment {b : Block} (hb : b.Tidy marker) (spaced : Bool) :
  (b.segment spaced).Tidy marker
  := by
  constructor
  · apply isLine_joinWords hb.isLine_comments
  · rw [codeLines_segment hb]
    exact fun l hl => hb.not_isComment l (mem_of_mem_strip hl)
  · rw [codeLines_segment hb]
    apply strip_strip

/-- Blank lines at the ends of a block do not make it spaced within. -/
theorem innerBlank_of_innerBlank_strip {code : List String}
    (h : innerBlank (stripBlankLines code) = true) :
  innerBlank code = true
  := by
  obtain ⟨front, back, hcode, -, -⟩ := exists_eq_append_strip_append isBlank code
  rw [← stripBlankLines] at hcode
  cases hstrip : stripBlankLines code with
  | nil =>
    rw [hstrip] at h
    cases h
  | cons l ls =>
    rw [hstrip] at h hcode
    rw [innerBlank, List.any_eq_true] at h ⊢
    obtain ⟨blank, hmem, hblank⟩ := h
    rw [List.tail_cons] at hmem
    use blank
    constructor
    · rw [hcode]
      cases front with
      | nil => simp [hmem]
      | cons first front => simp [hmem]
    · exact hblank

theorem stripBlankLines_ne_nil {code : List String} (h : code.all isBlank = false) :
  stripBlankLines code ≠ []
  := by
  rw [stripBlankLines, ne_eq, strip_eq_nil_iff, ← List.all_eq_true, h]
  simp

theorem segmentsOf_ne_nil {bs : List Block} (h : bs ≠ []) :
  segmentsOf bs ≠ []
  := by
  fun_cases segmentsOf bs with
  | case1 => exact absurd rfl h
  | case2 b => simp
  | case3 b next bs => simp

/-- The segments of tidy blocks are tidy. -/
theorem tidySegments_segmentsOf {bs : List Block} (hbs : ∀ b ∈ bs, b.Tidy marker)
    (hblank : ∀ b ∈ bs.dropLast, b.code.all isBlank = false) :
  TidySegments marker (segmentsOf bs)
  := by
  fun_induction segmentsOf bs with
  | case1 => exact .nil
  | case2 b =>
    apply TidySegments.last
    · apply tidy_segment
      apply hbs b (by simp)
    · rfl
  | case3 b next bs ih =>
    obtain ⟨hb, hrest⟩ := List.forall_mem_cons.mp hbs
    rw [List.dropLast_cons_cons, List.forall_mem_cons] at hblank
    have hcode := codeLines_segment hb (innerBlank b.code)
    apply TidySegments.cons
    · apply tidy_segment hb
    · rw [hcode]
      apply stripBlankLines_ne_nil hblank.1
    · rw [hcode]
      apply innerBlank_of_innerBlank_strip
    · apply segmentsOf_ne_nil
      simp
    · apply ih hrest hblank.2

/-! ### Files that are read -/

theorem isLine_of_mem_body {text l : String} (h : l ∈ body marker (lines text)) :
  IsLine l
  := isLine_of_mem_lines (List.dropWhile_subset _ h)

theorem isLine_of_mem_headerTexts {text t : String} (h : t ∈ headerTexts marker (lines text)) :
  IsLine t
  := by
  obtain ⟨l, hl, rfl⟩ := List.mem_map.mp h
  apply isLine_commentText
  apply isLine_of_mem_lines
  apply List.takeWhile_subset _ (List.mem_of_mem_filter hl)

theorem head?_segmentsOf_cons (b : Block) (bs : List Block) :
  ∃ spaced, (segmentsOf (b :: bs)).head? = some (b.segment spaced)
  := by
  cases bs with
  | nil => exact ⟨false, rfl⟩
  | cons next bs => exact ⟨innerBlank b.code, rfl⟩

/-- The first segment has no documentation, and it has code. -/
theorem first_segment (marker text : String) :
  ∀ s ∈ (File.ofText marker text).segments.head?, s.docs = "" ∧ s.codeLines ≠ []
  := by
  intro s hs
  rw [segments_ofText] at hs
  cases hbody : body marker (lines text) with
  | nil =>
    rw [hbody] at hs
    simp [blocks, joinBlank, segmentsOf] at hs
  | cons l rest =>
    obtain ⟨hcomment, hblank⟩ := isCode_iff.mp (isCode_of_body_eq_cons hbody)
    have hline : ∀ o ∈ l :: rest, IsLine o := by
      rw [← hbody]
      exact fun _ => isLine_of_mem_body
    have hblocks := blocks_of_isCode rest (isCode_of_body_eq_cons hbody)
    have htidy : Block.Tidy marker ⟨[], others marker (l :: rest)⟩ := by
      apply tidy_of_mem_blocks hline
      simp [hblocks]
    have hcode : (others marker (l :: rest)).all isBlank = false := by
      rw [others_cons hcomment, List.all_cons, hblank]
      rfl
    rw [hbody, hblocks, joinBlank_cons_of_not_blank hcode] at hs
    obtain ⟨spaced, hhead⟩ := head?_segmentsOf_cons ⟨[], others marker (l :: rest)⟩
      (joinBlank (blocks marker (afterOthers marker (l :: rest))))
    rw [hhead] at hs
    obtain rfl := Option.mem_some.mp hs
    constructor
    · rfl
    · rw [codeLines_segment htidy]
      apply stripBlankLines_ne_nil hcode

/-- Every file that is read from a text is tidy. -/
theorem tidy_ofText (marker text : String) :
  (File.ofText marker text).Tidy marker
  := by
  constructor
  · rw [header_ofText]
    apply isLine_trim
    apply isLine_joinWords
    exact fun _ => isLine_of_mem_headerTexts
  · rw [header_ofText, trim_trim]
  · rw [segments_ofText]
    apply tidySegments_segmentsOf
    · apply tidy_of_mem_joinBlank
      apply tidy_of_mem_blocks
      exact fun _ => isLine_of_mem_body
    · apply not_blank_of_mem_dropLast_joinBlank
  · apply first_segment

end Gallery.Annotated
