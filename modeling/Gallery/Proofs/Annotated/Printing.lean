import Gallery.Proofs.Annotated.Tidy

/-!
# Printing annotated files

`File.print` writes a file as an annotated text: the header and the documentation of each segment
but the first as a comment line, the code as it is, and an empty line behind it if the segment is
spaced.  A tidy file that is printed and read again is the same up to white space at the ends of
its documentation (`ofText_print`), and files that have been read are tidy.
-/

namespace Gallery.Annotated

open Gallery.Text

/-! ### The printed text -/

/-- The comment line with the given text. -/
def commentLine (marker text : String) : String :=
  marker ++ " " ++ text

/-- The lines of a segment's code, and an empty line if the segment is spaced. -/
def Segment.codePart (s : Segment) : List String :=
  s.codeLines ++ if s.spaced then [""] else []

/-- The lines of a segment with its documentation. -/
def Segment.printLines (marker : String) (s : Segment) : List String :=
  commentLine marker s.docs :: s.codePart

/-- The lines of segments; the documentation of the first is left out. -/
def printSegments (marker : String) : List Segment → List String
  | [] => []
  | first :: rest => first.codePart ++ rest.flatMap (Segment.printLines marker)

/-- The line of the header, if there is one. -/
def File.headerLines (marker : String) (f : File) : List String :=
  if f.header = "" then [] else [commentLine marker f.header]

/-- The annotated text of a file. -/
def File.print (marker : String) (f : File) : String :=
  joinLines (f.headerLines marker ++ printSegments marker f.segments)

/-- The segment with trimmed documentation. -/
def Segment.trimDocs (s : Segment) : Segment :=
  { s with docs := trim s.docs }

/-- The file with trimmed documentation. -/
def File.trimDocs (f : File) : File :=
  { f with segments := f.segments.map Segment.trimDocs }

/-- The text can start comment lines: it is not empty, a single line, and trimmed. -/
structure IsMarker (marker : String) : Prop where
  ne_empty : marker ≠ ""
  isLine : IsLine marker
  trim_eq : trim marker = marker

section

variable {marker : String}

/-! ### Comment lines -/

private theorem exists_trim_commentLine (h : IsMarker marker) (text : String) :
  ∃ rest, (trim (commentLine marker text)).toList = marker.toList ++ rest
    ∧ strip isSpace rest = strip isSpace text.toList
  := by
  have hmarker : strip isSpace marker.toList = marker.toList := by
    rw [← toList_trim, h.trim_eq]
  have hne : marker.toList ≠ [] := by
    simpa using h.ne_empty
  have hblank : strip isSpace (" ".toList ++ text.toList) = strip isSpace text.toList :=
    strip_append_left fun _ hc => isSpace_of_mem_blank hc
  obtain ⟨rest, htrim, hrest⟩ := exists_strip_append_eq hmarker hne
    (" ".toList ++ text.toList)
  use rest
  constructor
  · rw [toList_trim, commentLine, String.append_assoc, String.toList_append,
      String.toList_append]
    exact htrim
  · rw [hrest, hblank]

theorem isComment_commentLine (h : IsMarker marker) (text : String) :
  isComment marker (commentLine marker text) = true
  := by
  obtain ⟨rest, htrim, -⟩ := exists_trim_commentLine h text
  rw [isComment, htrim, List.isPrefixOf_iff_prefix]
  apply List.prefix_append

/-- The text of a comment line is found again, trimmed. -/
theorem commentText_commentLine (h : IsMarker marker) (text : String) :
  commentText marker (commentLine marker text) = trim text
  := by
  obtain ⟨rest, htrim, hrest⟩ := exists_trim_commentLine h text
  rw [← String.toList_inj, commentText, afterMarker, htrim, List.drop_left, toList_trim,
    String.toList_ofList, hrest, toList_trim]

theorem isLine_commentLine (h : IsMarker marker) {text : String} (htext : IsLine text) :
  IsLine (commentLine marker text)
  := by
  apply isLine_append
  · apply isLine_append h.isLine
    simp [IsLine]
  · exact htext

theorem isComment_empty (h : IsMarker marker) :
  isComment marker "" = false
  := isComment_of_isBlank h.ne_empty rfl

/-! ### Printed segments -/

theorem joinLines_codeLines (s : Segment) :
  joinLines s.codeLines = s.code
  := by
  by_cases h : s.code = ""
  · rw [Segment.codeLines, if_pos h, h]
    rfl
  · rw [Segment.codeLines, if_neg h, joinLines_lines]

theorem isLine_of_mem_codePart {s : Segment} {l : String} (h : l ∈ s.codePart) :
  IsLine l
  := by
  obtain h | h := List.mem_append.mp h
  · rw [Segment.codeLines] at h
    split at h
    · cases h
    · apply isLine_of_mem_lines h
  · obtain rfl : l = "" := by
      simpa using (List.mem_ite_nil_right.mp h).2
    simp [IsLine]

/-- The block that a printed segment is. -/
def Segment.block (s : Segment) : Block :=
  ⟨[trim s.docs], s.codePart⟩

namespace Segment.Tidy

variable {s : Segment}

theorem not_isComment_codePart (hm : IsMarker marker) (hs : s.Tidy marker) :
  ∀ l ∈ s.codePart, isComment marker l = false
  := by
  intro l hl
  obtain hl | hl := List.mem_append.mp hl
  · apply hs.not_isComment l hl
  · obtain rfl : l = "" := by
      simpa using (List.mem_ite_nil_right.mp hl).2
    apply isComment_empty hm

theorem stripBlankLines_codePart (hs : s.Tidy marker) :
  stripBlankLines s.codePart = s.codeLines
  := by
  rw [stripBlankLines, Segment.codePart, strip_append_right]
  · exact hs.stripBlankLines_code
  · intro l hl
    obtain rfl : l = "" := by
      simpa using (List.mem_ite_nil_right.mp hl).2
    rfl

/-- The first line of a segment's code is a line of code. -/
theorem isCode_of_head? (hs : s.Tidy marker) :
  ∀ l ∈ s.codeLines.head?, isCode marker l = true
  := by
  intro l hl
  rw [isCode_iff]
  constructor
  · apply hs.not_isComment
    apply List.mem_of_mem_head? hl
  · rw [← hs.stripBlankLines_code] at hl
    apply head?_strip Text.isBlank s.codeLines l hl

theorem not_blank_codePart (hs : s.Tidy marker) (hcode : s.codeLines ≠ []) :
  s.codePart.all Text.isBlank = false
  := by
  obtain ⟨l, ls, hlines⟩ := List.exists_cons_of_ne_nil hcode
  have hl : isCode marker l = true := by
    apply hs.isCode_of_head?
    rw [hlines]
    rfl
  simp [Segment.codePart, hlines, (isCode_iff.mp hl).2]

/-- A printed segment that is not the last shows whether it is spaced. -/
theorem innerBlank_codePart (hcode : s.codeLines ≠ [])
    (hspaced : innerBlank s.codeLines = true → s.spaced = true) :
  innerBlank s.codePart = s.spaced
  := by
  cases h : s.spaced with
  | true =>
    have hempty : Text.isBlank "" = true := rfl
    obtain ⟨l, ls, hlines⟩ := List.exists_cons_of_ne_nil hcode
    simp [innerBlank, Segment.codePart, h, hlines, hempty]
  | false =>
    rw [h] at hspaced
    simpa [Segment.codePart, h] using hspaced

/-- A printed segment is read as the segment with trimmed documentation. -/
theorem segment_block (hs : s.Tidy marker) :
  s.block.segment s.spaced = s.trimDocs
  := by
  rw [Block.segment, Segment.block, hs.stripBlankLines_codePart, joinLines_codeLines]
  simp [joinWords, Segment.trimDocs]

end Segment.Tidy

/-! ### Printed files -/

theorem TidySegments.of_cons {s : Segment} {ss : List Segment}
    (h : TidySegments marker (s :: ss)) :
  s.Tidy marker ∧ TidySegments marker ss
  := by
  cases h with
  | last hs hspaced => exact ⟨hs, .nil⟩
  | cons hs hcode hspaced hne hss => exact ⟨hs, hss⟩

theorem isComment_head?_printLines (hm : IsMarker marker) (ss : List Segment) :
  ∀ l ∈ (ss.flatMap (Segment.printLines marker)).head?, isComment marker l = true
  := by
  intro l hl
  cases ss with
  | nil => cases hl
  | cons s ss =>
    obtain rfl : commentLine marker s.docs = l := by
      simpa [Segment.printLines] using hl
    apply isComment_commentLine hm

/-- Every printed segment is a block. -/
theorem blocks_printLines (hm : IsMarker marker) {ss : List Segment}
    (h : TidySegments marker ss) :
  blocks marker (ss.flatMap (Segment.printLines marker)) = ss.map Segment.block
  := by
  have hcons : ∀ (s : Segment) (ss : List Segment), s.Tidy marker → ss = [] ∨ s.codeLines ≠ [] →
      blocks marker ((s :: ss).flatMap (Segment.printLines marker))
        = s.block :: blocks marker (ss.flatMap (Segment.printLines marker)) := by
    intro s ss hs hne
    rw [List.flatMap_cons, Segment.printLines, List.cons_append,
      blocks_comment_cons (isComment_commentLine hm _) (hs.not_isComment_codePart hm)
        (isComment_head?_printLines hm ss), commentText_commentLine hm]
    · rfl
    · obtain rfl | hcode := hne
      · left
        rfl
      · right
        simp [Segment.codePart, hcode]
  induction h with
  | nil => simp [blocks]
  | @last s hs hspaced =>
    rw [hcons s [] hs (Or.inl rfl)]
    simp [blocks]
  | @cons s ss hs hcode hspaced hne hss ih =>
    rw [hcons s ss hs (Or.inr hcode), ih]
    rfl

theorem joinBlank_map_block {ss : List Segment} (h : TidySegments marker ss) :
  joinBlank (ss.map Segment.block) = ss.map Segment.block
  := by
  induction h with
  | nil => rfl
  | last hs hspaced => rfl
  | cons hs hcode hspaced hne hss ih =>
    rw [List.map_cons, joinBlank_cons_of_not_blank (hs.not_blank_codePart hcode), ih]

theorem segmentsOf_map_block {ss : List Segment} (h : TidySegments marker ss) :
  segmentsOf (ss.map Segment.block) = ss.map Segment.trimDocs
  := by
  induction h with
  | nil => rfl
  | @last s hs hspaced =>
    rw [List.map_singleton, List.map_singleton, ← hs.segment_block, hspaced]
    rfl
  | @cons s ss hs hcode hspaced hne hss ih =>
    rw [List.map_cons, List.map_cons, segmentsOf_cons (by simpa using hne), ih,
      ← hs.segment_block]
    apply congrArg (· :: _)
    apply congrArg s.block.segment
    apply Segment.Tidy.innerBlank_codePart hcode hspaced

theorem segmentsOf_cons_congr {a b : Block} (h : ∀ spaced, a.segment spaced = b.segment spaced)
    (hcode : a.code = b.code) (bs : List Block) :
  segmentsOf (a :: bs) = segmentsOf (b :: bs)
  := by
  cases bs with
  | nil => simp [segmentsOf, h]
  | cons next bs => simp [segmentsOf, h, hcode]

/-- Printed segments are read as the same segments with trimmed documentation. -/
theorem segmentsOf_printSegments (hm : IsMarker marker) {ss : List Segment}
    (h : TidySegments marker ss) (hfirst : ∀ s ∈ ss.head?, s.docs = "" ∧ s.codeLines ≠ []) :
  segmentsOf (joinBlank (blocks marker (printSegments marker ss))) = ss.map Segment.trimDocs
  := by
  cases ss with
  | nil => simp [printSegments, blocks, joinBlank, segmentsOf]
  | cons first rest =>
    obtain ⟨hdocs, hcode⟩ := hfirst first rfl
    obtain ⟨htidy, hrest⟩ := h.of_cons
    obtain ⟨l, ls, hlines⟩ := List.exists_cons_of_ne_nil hcode
    have hl : isCode marker l = true := by
      apply htidy.isCode_of_head?
      rw [hlines]
      rfl
    obtain ⟨code, hpart⟩ : ∃ code, first.codePart = l :: code := by
      rw [Segment.codePart, hlines]
      exact ⟨_, rfl⟩
    have hblocks : blocks marker (printSegments marker (first :: rest))
        = ⟨[], first.codePart⟩ :: rest.map Segment.block := by
      have hcomment := htidy.not_isComment_codePart hm
      rw [hpart] at hcomment ⊢
      rw [printSegments, hpart,
        blocks_code_append hl hcomment (isComment_head?_printLines hm rest),
        blocks_printLines hm hrest]
    have hsegment : ∀ spaced, Block.segment ⟨[], first.codePart⟩ spaced
        = first.block.segment spaced := by
      intro spaced
      simp [Block.segment, Segment.block, hdocs, joinWords, trim, strip]
    rw [hblocks, joinBlank_cons_of_not_blank (htidy.not_blank_codePart hcode),
      joinBlank_map_block hrest, segmentsOf_cons_congr hsegment rfl]
    apply segmentsOf_map_block h

theorem isCode_head?_printSegments {ss : List Segment} (h : TidySegments marker ss)
    (hfirst : ∀ s ∈ ss.head?, s.docs = "" ∧ s.codeLines ≠ []) :
  ∀ l ∈ (printSegments marker ss).head?, isCode marker l = true
  := by
  intro l hl
  cases ss with
  | nil => cases hl
  | cons first rest =>
    obtain ⟨-, hcode⟩ := hfirst first rfl
    apply h.of_cons.1.isCode_of_head?
    obtain ⟨c, cs, hlines⟩ := List.exists_cons_of_ne_nil hcode
    simpa [printSegments, Segment.codePart, hlines] using hl

theorem isLine_of_mem_printSegments (hm : IsMarker marker) {ss : List Segment}
    (h : TidySegments marker ss) :
  ∀ l ∈ printSegments marker ss, IsLine l
  := by
  have hrest : ∀ ss : List Segment, TidySegments marker ss →
      ∀ l ∈ ss.flatMap (Segment.printLines marker), IsLine l := by
    intro ss hss
    induction ss with
    | nil => simp
    | cons s ss ih =>
      obtain ⟨hs, hss⟩ := hss.of_cons
      intro l hl
      rw [List.flatMap_cons, Segment.printLines, List.cons_append] at hl
      obtain rfl | hl := List.mem_cons.mp hl
      · apply isLine_commentLine hm hs.isLine_docs
      · obtain hl | hl := List.mem_append.mp hl
        · apply isLine_of_mem_codePart hl
        · apply ih hss l hl
  cases ss with
  | nil => simp [printSegments]
  | cons first rest =>
    intro l hl
    obtain hl | hl := List.mem_append.mp hl
    · apply isLine_of_mem_codePart hl
    · apply hrest rest h.of_cons.2 l hl

/-- The lines of a printed file are those of its segments after lines that give its header. -/
theorem exists_lines_print (hm : IsMarker marker) {f : File} (h : f.Tidy marker) :
  ∃ hs, lines (f.print marker) = hs ++ printSegments marker f.segments
    ∧ (∀ l ∈ hs, isCode marker l = false)
    ∧ trim (joinWords ((hs.filter (isComment marker)).map (commentText marker))) = f.header
  := by
  by_cases hnil : f.headerLines marker ++ printSegments marker f.segments = []
  · obtain ⟨hheader, hsegments⟩ := List.append_eq_nil_iff.mp hnil
    have hempty : f.header = "" := by
      simpa [File.headerLines] using hheader
    use [""]
    rw [File.print, hnil, hsegments, hempty]
    constructor
    · rfl
    · have hblank : isBlank "" = true := rfl
      simp [isCode, isComment_empty hm, hblank, joinWords, trim, strip]
  · use f.headerLines marker
    constructor
    · apply lines_joinLines _ hnil
      intro l hl
      obtain hl | hl := List.mem_append.mp hl
      · obtain rfl : l = commentLine marker f.header := by
          simpa using (List.mem_ite_nil_left.mp hl).2
        apply isLine_commentLine hm h.isLine_header
      · apply isLine_of_mem_printSegments hm h.segments l hl
    · by_cases hempty : f.header = ""
      · simp [File.headerLines, hempty, joinWords, trim, strip]
      · simp [File.headerLines, hempty, isCode, isComment_commentLine hm,
          commentText_commentLine hm, joinWords, h.trim_header]

/-- A tidy file that is printed and read again is the same with trimmed documentation. -/
theorem ofText_print (hm : IsMarker marker) {f : File} (h : f.Tidy marker) :
  File.ofText marker (f.print marker) = f.trimDocs
  := by
  obtain ⟨hs, hlines, hcode, hheader⟩ := exists_lines_print hm h
  obtain ⟨hleading, hbody⟩ := leading_append hcode (isCode_head?_printSegments h.segments h.first)
  apply File.ext
  · rw [header_ofText, hlines, headerTexts, hleading]
    exact hheader
  · rw [segments_ofText, hlines, hbody]
    apply segmentsOf_printSegments hm h.segments h.first

/-- A file that has been read can be printed and read again: nothing changes but the white space
at the ends of its documentation. -/
theorem ofText_print_ofText (hm : IsMarker marker) (text : String) :
  File.ofText marker ((File.ofText marker text).print marker)
    = (File.ofText marker text).trimDocs
  := ofText_print hm (tidy_ofText marker text)

/-- An empty comment line, a comment interrupted by a blank line, and a spaced segment. -/
theorem ofText_print_ofText_slashes :
  IsMarker "//"
    ∧ (File.ofText "//" "// T\n\nx\n\n//\n\n// a\ny\n").print "//" = "// T\nx\n\n//  a\ny"
    ∧ File.ofText "//" ((File.ofText "//" "// T\n\nx\n\n//\n\n// a\ny\n").print "//")
      = ⟨"T", [⟨"", "x", true⟩, ⟨"a", "y", false⟩]⟩
  := by
  have hm : IsMarker "//" := by
    constructor
    · decide
    · unfold IsLine
      decide
    · decide +kernel
  constructor
  · exact hm
  · constructor
    · decide +kernel
    · apply Eq.trans (ofText_print_ofText hm "// T\n\nx\n\n//\n\n// a\ny\n")
      decide +kernel

end

end Gallery.Annotated
