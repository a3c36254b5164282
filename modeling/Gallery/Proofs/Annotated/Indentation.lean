import Gallery.Proofs.Annotated.Tidy
import Mathlib.Data.List.Forall2

/-!
# Indentation and line endings

Whether a line is a comment, blank or code, and what a comment line says, is told from its trim.  So
trimming the lines of a text commutes with the grouping of its lines, and the file that is read from
the trimmed lines is the file with trimmed code (`ofText_trimLines`).  Texts with the same lines
apart from white space at their ends, such as a text and its copy with other line endings, are read
as files that differ in such white space only (`ofText_reindented`).
-/

namespace Gallery.Annotated

open Gallery.Text

/-- The text with every line trimmed. -/
def trimLines (s : String) : String :=
  joinLines ((lines s).map trim)

/-- The segment with every line of its code trimmed. -/
def Segment.trimCode (s : Segment) : Segment :=
  { s with code := trimLines s.code }

/-- The block with every line of its code trimmed. -/
def Block.trimCode (b : Block) : Block :=
  { b with code := b.code.map trim }

/-- The segments differ at most in the white space at the ends of their lines of code. -/
structure Segment.Reindented (s t : Segment) : Prop where
  docs : s.docs = t.docs
  spaced : s.spaced = t.spaced
  lines_code : (lines s.code).map trim = (lines t.code).map trim

variable {marker : String}

/-! ### Kinds of lines -/

@[simp]
theorem isComment_trim (marker l : String) :
  isComment marker (trim l) = isComment marker l
  := by
  rw [isComment, isComment, trim_trim]

@[simp]
theorem commentText_trim (marker l : String) :
  commentText marker (trim l) = commentText marker l
  := by
  rw [commentText, commentText, afterMarker, afterMarker, trim_trim]

@[simp]
theorem isCode_trim (marker l : String) :
  isCode marker (trim l) = isCode marker l
  := by
  rw [isCode, isCode, isComment_trim, isBlank_trim]

/-! ### Cutting lines -/

theorem afterComments_map_trim (ls : List String) :
  afterComments marker (ls.map trim) = (afterComments marker ls).map trim
  := by
  rw [afterComments, List.dropWhile_map]
  simp [Function.comp_def, afterComments]

theorem others_map_trim (ls : List String) :
  others marker (ls.map trim) = (others marker ls).map trim
  := by
  rw [others, List.takeWhile_map]
  simp [Function.comp_def, others]

theorem afterOthers_map_trim (ls : List String) :
  afterOthers marker (ls.map trim) = (afterOthers marker ls).map trim
  := by
  rw [afterOthers, List.dropWhile_map]
  simp [Function.comp_def, afterOthers]

theorem comments_map_trim (ls : List String) :
  ((ls.map trim).takeWhile (isComment marker)).map (commentText marker)
    = (ls.takeWhile (isComment marker)).map (commentText marker)
  := by
  rw [List.takeWhile_map, List.map_map]
  simp [Function.comp_def]

theorem body_map_trim (ls : List String) :
  body marker (ls.map trim) = (body marker ls).map trim
  := by
  rw [body, List.dropWhile_map]
  simp [Function.comp_def, body]

theorem headerTexts_map_trim (ls : List String) :
  headerTexts marker (ls.map trim) = headerTexts marker ls
  := by
  rw [headerTexts, leading, List.takeWhile_map, List.filter_map, List.map_map]
  simp [Function.comp_def, headerTexts, leading]

theorem blocks_map_trim (ls : List String) :
  blocks marker (ls.map trim) = (blocks marker ls).map Block.trimCode
  := by
  fun_induction blocks marker ls with
  | case1 => simp [blocks]
  | case2 l ls ih =>
    rw [List.map_cons, blocks, ← List.map_cons, comments_map_trim, afterComments_map_trim,
      others_map_trim, afterOthers_map_trim, ih]
    rfl

/-! ### Blocks and segments -/

theorem all_isBlank_map_trim (code : List String) :
  (code.map trim).all isBlank = code.all isBlank
  := by
  rw [List.all_map]
  simp [Function.comp_def]

theorem innerBlank_map_trim (code : List String) :
  innerBlank (code.map trim) = innerBlank code
  := by
  rw [innerBlank, ← List.map_tail, List.any_map]
  simp [Function.comp_def, innerBlank]

theorem stripBlankLines_map_trim (code : List String) :
  stripBlankLines (code.map trim) = (stripBlankLines code).map trim
  := by
  rw [stripBlankLines, strip_map]
  simp [Function.comp_def, stripBlankLines]

theorem joinBlank_map_trimCode (bs : List Block) :
  joinBlank (bs.map Block.trimCode) = (joinBlank bs).map Block.trimCode
  := by
  induction bs with
  | nil => rfl
  | cons b bs ih =>
    rw [List.map_cons, joinBlank, joinBlank, ih]
    rcases joinBlank bs with _ | ⟨next, rest⟩
    · rfl
    · have hblank : b.trimCode.code.all isBlank = b.code.all isBlank :=
        all_isBlank_map_trim b.code
      rw [List.map_cons]
      dsimp only
      rw [hblank]
      split <;> rfl

/-- Lines that are joined and trimmed are joined when they are trimmed. -/
theorem trimLines_joinLines {ls : List String} (h : ∀ l ∈ ls, IsLine l) :
  trimLines (joinLines ls) = joinLines (ls.map trim)
  := by
  by_cases hnil : ls = []
  · subst hnil
    decide +kernel
  · rw [trimLines, lines_joinLines h hnil]

theorem segment_trimCode {b : Block} (hb : b.Tidy marker) (spaced : Bool) :
  b.trimCode.segment spaced = (b.segment spaced).trimCode
  := by
  have hcode : joinLines (stripBlankLines (b.code.map trim))
      = trimLines (joinLines (stripBlankLines b.code)) := by
    rw [stripBlankLines_map_trim, trimLines_joinLines]
    exact fun l hl => hb.isLine_code l (mem_of_mem_strip hl)
  rw [Block.segment, Segment.trimCode, Block.trimCode, hcode]
  rfl

theorem segmentsOf_map_trimCode {bs : List Block} (hbs : ∀ b ∈ bs, b.Tidy marker) :
  segmentsOf (bs.map Block.trimCode) = (segmentsOf bs).map Segment.trimCode
  := by
  fun_induction segmentsOf bs with
  | case1 => rfl
  | case2 b =>
    have hb := hbs b (by simp)
    rw [List.map_singleton, segmentsOf, segment_trimCode hb, List.map_singleton]
  | case3 b next bs ih =>
    obtain ⟨hb, hrest⟩ := List.forall_mem_cons.mp hbs
    have hspaced : innerBlank b.trimCode.code = innerBlank b.code := innerBlank_map_trim b.code
    rw [List.map_cons, segmentsOf_cons (by simp), ih hrest, hspaced, segment_trimCode hb,
      List.map_cons]

/-! ### Files that are read -/

theorem lines_trimLines (s : String) :
  lines (trimLines s) = (lines s).map trim
  := by
  apply lines_joinLines
  · intro l hl
    obtain ⟨o, ho, rfl⟩ := List.mem_map.mp hl
    apply isLine_trim (isLine_of_mem_lines ho)
  · simp [lines_ne_nil]

/-- The trimmed lines of a text are read as the same file with trimmed code. -/
theorem ofText_trimLines (marker text : String) :
  File.ofText marker (trimLines text)
    = ⟨(File.ofText marker text).header, (File.ofText marker text).segments.map Segment.trimCode⟩
  := by
  apply File.ext
  · rw [header_ofText, header_ofText, lines_trimLines, headerTexts_map_trim]
  · rw [segments_ofText, segments_ofText, lines_trimLines, body_map_trim, blocks_map_trim,
      joinBlank_map_trimCode]
    apply segmentsOf_map_trimCode
    apply tidy_of_mem_joinBlank
    apply tidy_of_mem_blocks
    exact fun _ => isLine_of_mem_body

theorem reindented_of_trimCode_eq {s t : Segment} (h : s.trimCode = t.trimCode) :
  s.Reindented t
  := by
  obtain ⟨hdocs, hcode, hspaced⟩ := Segment.mk.inj h
  constructor
  · exact hdocs
  · exact hspaced
  · rw [← lines_trimLines, hcode, lines_trimLines]

/-- White space at the ends of lines has no part in how they are grouped: texts with the same lines
apart from it are read with the same header and with the same segments, apart from it. -/
theorem ofText_reindented (marker : String) {a b : String}
    (h : (lines a).map trim = (lines b).map trim) :
  (File.ofText marker a).header = (File.ofText marker b).header
    ∧ List.Forall₂ Segment.Reindented (File.ofText marker a).segments
      (File.ofText marker b).segments
  := by
  have htrim : trimLines a = trimLines b := congrArg joinLines h
  have hfile := ofText_trimLines marker a
  rw [htrim, ofText_trimLines] at hfile
  obtain ⟨hheader, hsegments⟩ := File.mk.inj hfile
  constructor
  · exact hheader.symm
  · rw [← List.forall₂_eq_eq_eq, List.forall₂_map_left_iff, List.forall₂_map_right_iff] at hsegments
    apply hsegments.flip.imp
    exact fun s t hst => reindented_of_trimCode_eq hst.symm

/-- Carriage returns at the ends of lines, and other indentation. -/
theorem ofText_reindented_carriageReturns :
  (File.ofText "//" "\t// H\r\nx\r\n \r\ny\r\n // d\r\nz\r").header = "H"
    ∧ List.Forall₂ Segment.Reindented
      (File.ofText "//" "\t// H\r\nx\r\n \r\ny\r\n // d\r\nz\r").segments
      [⟨"", "  x\n\n  y", true⟩, ⟨"d", "z", false⟩]
  := by
  have hlines : (lines "\t// H\r\nx\r\n \r\ny\r\n // d\r\nz\r").map trim
      = (lines "// H\n  x\n\n  y\n// d\nz").map trim := by
    decide +kernel
  have hfile : File.ofText "//" "// H\n  x\n\n  y\n// d\nz"
      = ⟨"H", [⟨"", "  x\n\n  y", true⟩, ⟨"d", "z", false⟩]⟩ := by
    decide +kernel
  obtain ⟨hheader, hsegments⟩ := ofText_reindented "//" hlines
  rw [hfile] at hheader hsegments
  exact ⟨hheader, hsegments⟩

end Gallery.Annotated
