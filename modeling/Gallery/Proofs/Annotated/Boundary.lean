import Gallery.Proofs.Annotated.OpenCode
import Gallery.Proofs.Text.Lines

/-!
# Boundaries

A boundary of an annotated file is where a comment line follows code, possibly with blank lines
between them.  There the segment is closed (`segments_finish_boundary`), and a reader has nothing
left of it.  So a file that is cut at a boundary is read piece by piece (`ofText_boundary`): what is
written after the boundary does not change the segments before it, apart from the room after the
last of them, and what is written before it does not change the segments after it.
-/

namespace Gallery.Annotated

open Gallery.Text Reader

variable {marker l : String}

/-! ### The open block at a boundary -/

theorem body_ne_nil_of_mem {ls : List String} (hl : isCode marker l = true) (hmem : l ∈ ls) :
  body marker ls ≠ []
  := by
  rw [body, ne_eq, List.dropWhile_eq_nil_iff]
  intro h
  have hnot := h l hmem
  rw [hl] at hnot
  cases hnot

/-- A line of code with no comment line behind it is in the open block. -/
theorem mem_openCode {front back : List String} (hl : isCode marker l = true)
    (hback : ∀ o ∈ back, isComment marker o = false) :
  l ∈ openCode marker (front ++ l :: back)
  := by
  induction back using List.reverseRecOn with
  | nil =>
    by_cases hfront : body marker front = []
    · rw [openCode_concat_of_isCode hfront hl]
      simp
    · rw [openCode_concat_of_not_isComment hfront (isCode_iff.mp hl).1]
      simp
  | append_singleton back o ih =>
    have hbody : body marker (front ++ l :: back) ≠ [] := body_ne_nil_of_mem hl (by simp)
    rw [← List.cons_append, ← List.append_assoc,
      openCode_concat_of_not_isComment hbody (hback o (by simp))]
    apply List.mem_append_left
    apply ih
    exact fun p hp => hback p (by simp [hp])

/-- When the last line that is not blank is code, it is in the open block. -/
theorem mem_openCode_of_getLast? {ls : List String} (hl : isCode marker l = true)
    (hlast : (ls.filter fun o => !isBlank o).getLast? = some l) :
  l ∈ openCode marker ls
  := by
  obtain ⟨init, hfilter⟩ := List.getLast?_eq_some_iff.mp hlast
  obtain ⟨front, rest, rfl, -, hrest⟩ := List.filter_eq_append_iff.mp hfilter
  obtain ⟨middle, back, rfl, -, -, hback⟩ := List.filter_eq_cons_iff.mp hrest
  rw [← List.append_assoc]
  apply mem_openCode hl
  intro o ho
  apply isComment_of_isBlank (ne_empty_of_isCode hl)
  have hnone := List.filter_eq_nil_iff.mp hback o ho
  simpa using hnone

/-! ### Reading on from a boundary -/

/-- At the end of the file the open segment is closed without room after it. -/
theorem segments_finish_of_code {r : Reader} (h : r.code ≠ []) :
  r.finish.segments = r.segments ++ [⟨joinWords r.docs, codeText r.code, false⟩]
  := by
  rw [finish]
  simp [h]

/-- At a boundary the open segment is closed as it is, and what comes after it are the segments of
the lines that are left. -/
theorem segments_finish_boundary {r : Reader} {ls : List String} (hphase : r.phase ≠ .header)
    (hspaced : r.spaced = innerBlank r.code) (hcode : r.code.all isBlank = false)
    (hls : ∀ o ∈ ls.head?, isComment marker o = true) (hne : ls ≠ []) :
  (r.readLines marker ls).finish.segments
    = r.segments ++ [⟨joinWords r.docs, codeText r.code, r.spaced⟩]
      ++ segmentsOf (joinBlank (blocks marker ls))
  := by
  have hopen : r.code ≠ [] := by
    intro hnil
    rw [hnil] at hcode
    cases hcode
  obtain ⟨first, rest, rfl⟩ := List.exists_cons_of_ne_nil hne
  have hblocks : joinBlank (blocks marker (first :: rest)) ≠ [] := by
    rw [blocks]
    apply joinBlank_ne_nil
  rw [segments_finish_readLines hls hphase hspaced (.inl hopen),
    joinBlank_cons_of_not_blank hcode, segmentsOf_cons hblocks, hspaced]
  simp [Block.segment, codeText]

/-- A text that ends with code is read before a boundary as at the end of a file, apart from the
room after its last segment.  Then come the segments of the lines after the boundary. -/
theorem ofText_append_boundary {c d : String} (hl : isCode marker l = true)
    (hlast : ((lines c).filter fun o => !isBlank o).getLast? = some l)
    (hd : ∀ first ∈ (lines d).head?, isComment marker first = true) :
  (File.ofText marker (c ++ "\n" ++ d)).header = (File.ofText marker c).header
    ∧ ∃ before last spaced, (File.ofText marker c).segments = before ++ [last]
      ∧ (File.ofText marker (c ++ "\n" ++ d)).segments
        = before ++ [{ last with spaced := spaced }]
          ++ segmentsOf (joinBlank (blocks marker (lines d)))
  := by
  have hread := hasRead_readLines marker (lines c)
  have hmem := mem_openCode_of_getLast? hl hlast
  rw [ofText_eq_readLines, ofText_eq_readLines, lines_append, readLines_append]
  generalize start.readLines marker (lines c) = r at hread ⊢
  rw [← hread.code] at hmem
  have hphase : r.phase ≠ .header := by
    intro hheader
    rw [hread.code, openCode_of_body_eq_nil (hread.phase.mp hheader)] at hmem
    cases hmem
  have hcode : r.code.all isBlank = false := by
    rw [List.all_eq_false]
    use l, hmem
    simp [(isCode_iff.mp hl).2]
  constructor
  · rw [finish, finish, header_readLines hphase]
  · use r.segments, ⟨joinWords r.docs, codeText r.code, false⟩, r.spaced
    constructor
    · apply segments_finish_of_code (List.ne_nil_of_mem hmem)
    · apply segments_finish_boundary hphase hread.spaced hcode hd (lines_ne_nil d)

/-- A line of code alone is a single segment. -/
theorem segments_ofText_line (hl : isCode marker l = true) (hline : IsLine l) :
  (File.ofText marker l).segments = [⟨"", codeText [l], false⟩]
  := by
  rw [ofText_eq_readLines, lines_of_isLine hline, readLines_cons, classify_of_isCode hl]
  rfl

/-- When the last line of a text that is not blank is a line of code and a text is appended that
starts with a comment line, the file consists of the file before this boundary, apart from the room
at its end, and of the segments after it.  These are read in the same way when that line of code is
all that stands before them. -/
theorem ofText_boundary {c d : String}
    (hlast : ((lines c).filter fun o => !isBlank o).getLast? = some l)
    (hl : isCode marker l = true) (hd : ∀ first ∈ (lines d).head?, isComment marker first = true) :
  (File.ofText marker (c ++ "\n" ++ d)).header = (File.ofText marker c).header
    ∧ ∃ before last spaced first after,
      (File.ofText marker c).segments = before ++ [last]
      ∧ (File.ofText marker (l ++ "\n" ++ d)).segments = first :: after
      ∧ (File.ofText marker (c ++ "\n" ++ d)).segments
        = before ++ [{ last with spaced := spaced }] ++ after
  := by
  have hline : IsLine l :=
    isLine_of_mem_lines (List.mem_of_mem_filter (List.mem_of_getLast? hlast))
  have hlast' : ((lines l).filter fun o => !isBlank o).getLast? = some l := by
    simp [lines_of_isLine hline, (isCode_iff.mp hl).2]
  obtain ⟨hheader, before, last, spaced, hc, hcd⟩ := ofText_append_boundary hl hlast hd
  obtain ⟨-, earlier, first, spaced', hone, hld⟩ := ofText_append_boundary hl hlast' hd
  obtain ⟨rfl, -⟩ : earlier = [] ∧ _ := by
    rw [segments_ofText_line hl hline] at hone
    simpa [List.cons_eq_append_iff] using hone
  use hheader, before, last, spaced, { first with spaced := spaced' },
    segmentsOf (joinBlank (blocks marker (lines d)))
  exact ⟨hc, hld, hcd⟩

/-- A boundary after code that has documentation of its own, with a blank line before it. -/
theorem ofText_boundary_documented :
  ∃ spaced, File.ofText "//" ("// H\na\n\n// b\n  b\n" ++ "\n" ++ "// c\nc")
    = ⟨"H", [⟨"", "a", true⟩, ⟨"b", "  b", spaced⟩, ⟨"c", "c", false⟩]⟩
  := by
  have hlast : ((lines "// H\na\n\n// b\n  b\n").filter fun o => !isBlank o).getLast?
      = some "  b" := by
    decide +kernel
  have hl : isCode "//" "  b" = true := by decide +kernel
  have hd : ∀ first ∈ (lines "// c\nc").head?, isComment "//" first = true := by decide +kernel
  have hbefore : File.ofText "//" "// H\na\n\n// b\n  b\n"
      = ⟨"H", [⟨"", "a", true⟩, ⟨"b", "  b", false⟩]⟩ := by
    decide +kernel
  have hafter : (File.ofText "//" ("  b" ++ "\n" ++ "// c\nc")).segments
      = [⟨"", "  b", false⟩, ⟨"c", "c", false⟩] := by
    decide +kernel
  obtain ⟨hheader, before, last, spaced, first, after, hc, hld, hcd⟩ :=
    ofText_boundary hlast hl hd
  rw [hbefore] at hheader hc
  rw [hafter] at hld
  obtain ⟨rfl, hsingle⟩ : [⟨"", "a", true⟩] = before ∧ [⟨"b", "  b", false⟩] = [last] :=
    List.append_inj' hc rfl
  obtain rfl := List.singleton_inj.mp hsingle
  obtain ⟨-, rfl⟩ := List.cons_eq_cons.mp hld
  use spaced
  apply File.ext
  · exact hheader
  · exact hcd

end Gallery.Annotated
