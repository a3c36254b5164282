import Gallery.Proofs.Annotated.OpenCode
import Gallery.Proofs.Annotated.Tidy

/-!
# Room after segments

Every segment but the last ends at a comment line, which closes it (`ClosedAt`).  Room is left after
it if a blank line stands right before that comment line; but also if there is a blank line within
its code, and if there are two blank lines or more in front of the code (`spaced_iff`).
-/

namespace Gallery.Annotated

open Gallery.Text Reader

variable {marker text : String} {i : Nat} {before after : List String} {closing : String}

/-! ### Where segments end -/

/-- The segment number `i` of a file ends at the comment line `closing`: when the lines before it
have been read, `i` segments are closed, and with it one more. -/
structure ClosedAt (marker text : String) (i : Nat) (before : List String) (closing : String)
    (after : List String) : Prop where
  lines_eq : lines text = before ++ closing :: after
  isComment_closing : isComment marker closing = true
  segments_before : (start.readLines marker before).segments
    = (File.ofText marker text).segments.take i
  segments_closed : (start.readLines marker (before ++ [closing])).segments
    = (File.ofText marker text).segments.take (i + 1)

/-- The end of a file closes one segment at most. -/
theorem segments_finish (r : Reader) :
  r.segments <+: r.finish.segments ∧ r.finish.segments.length ≤ r.segments.length + 1
  := by
  rw [finish]
  dsimp only
  split
  · exact ⟨List.prefix_refl _, Nat.le_succ _⟩
  · exact ⟨List.prefix_append _ _, by simp⟩

theorem segments_prefix_ofText (h : lines text = before ++ after) :
  (start.readLines marker before).segments <+: (File.ofText marker text).segments
  := by
  rw [ofText_eq_readLines, h, readLines_append]
  exact (extends_readLines _ _).segments.trans (segments_finish _).1

/-- Every segment but the last is closed at a comment line. -/
theorem exists_closedAt (hi : i + 1 < (File.ofText marker text).segments.length) :
  ∃ before closing after, ClosedAt marker text i before closing after
  := by
  have hclosed : i < (start.readLines marker (lines text)).segments.length := by
    have hle := (segments_finish (start.readLines marker (lines text))).2
    rw [← ofText_eq_readLines] at hle
    omega
  obtain ⟨before, closing, after, hlines, hbefore, hone⟩ := exists_closing hclosed
  have hlines' : lines text = before ++ [closing] ++ after := by
    simpa using hlines
  use before, closing, after, hlines
  · obtain hsame | ⟨hcomment, -⟩ :=
      segments_step_cases marker (start.readLines marker before) closing
    · rw [readLines_concat, hsame] at hone
      omega
    · exact hcomment
  · rw [← hbefore, ← List.prefix_iff_eq_take]
    apply segments_prefix_ofText hlines
  · rw [← hone, ← List.prefix_iff_eq_take]
    apply segments_prefix_ofText hlines'

/-- The segment that a comment line closes has the block before it as its code. -/
theorem exists_segment_of_closedAt (h : ClosedAt marker text i before closing after)
    (hi : i < (File.ofText marker text).segments.length) :
  (openCode marker before).all isBlank = false
    ∧ ∃ docs, (File.ofText marker text).segments[i]?
      = some ⟨docs, codeText (openCode marker before), innerBlank (openCode marker before)⟩
  := by
  have hread := hasRead_readLines marker before
  have htaken := h.segments_closed
  rw [readLines_concat] at htaken
  obtain hsame | ⟨-, -, hblank, hclosed⟩ :=
    segments_step_cases marker (start.readLines marker before) closing
  · rw [hsame, h.segments_before] at htaken
    have hlength := congrArg List.length htaken
    rw [List.length_take, List.length_take] at hlength
    omega
  · rw [hclosed, h.segments_before, List.take_add_one, hread.spaced, hread.code] at htaken
    constructor
    · rw [← hread.code]
      exact hblank
    · use joinWords (start.readLines marker before).docs
      have hlast := List.append_cancel_left htaken
      rw [List.getElem?_eq_getElem hi] at hlast ⊢
      exact congrArg List.head? hlast.symm

/-! ### Blank lines in a block -/

section

variable {front code back : List String} (hfront : ∀ l ∈ front, isBlank l = true)
  (hback : ∀ l ∈ back, isBlank l = true) (hne : code ≠ [])

include hback hne

/-- The last line of a block is blank when there are blank lines behind the code. -/
theorem isBlank_getLast?_block (hlast : ∀ l ∈ code.getLast?, isBlank l = false) {previous : String}
    (h : (front ++ code ++ back).getLast? = some previous) :
  isBlank previous = true ↔ back ≠ []
  := by
  by_cases hnil : back = []
  · rw [hnil, List.append_nil, List.getLast?_append_of_ne_nil _ hne] at h
    simp [hnil, hlast previous h]
  · rw [List.getLast?_append_of_ne_nil _ hnil] at h
    simp [hnil, hback previous (List.mem_of_getLast? h)]

include hfront

/-- A blank line stands in a block after its first line when there are blank lines behind the code,
within it, or two of them in front of it. -/
theorem innerBlank_block_iff (hhead : ∀ l ∈ code.head?, isBlank l = false) :
  innerBlank (front ++ code ++ back) = true
    ↔ back ≠ [] ∨ (∃ l ∈ code, isBlank l = true) ∨ 2 ≤ front.length
  := by
  have hany : ∀ ls : List String, (∀ l ∈ ls, isBlank l = true) →
      ((∃ l ∈ ls, isBlank l = true) ↔ ls ≠ []) := by
    intro ls hls
    cases ls with
    | nil => simp
    | cons l ls => simp [hls l List.mem_cons_self]
  obtain ⟨c, cs, rfl⟩ := List.exists_cons_of_ne_nil hne
  have hc : isBlank c = false := hhead c rfl
  rw [innerBlank, List.any_eq_true]
  cases front with
  | nil =>
    rw [List.nil_append, List.cons_append, List.tail_cons]
    simp only [List.mem_append, List.mem_cons, or_and_right, exists_or, hany back hback,
      exists_eq_left, hc]
    simp [or_comm]
  | cons f fs =>
    obtain ⟨-, hfs⟩ := List.forall_mem_cons.mp hfront
    have hlength : 2 ≤ (f :: fs).length ↔ fs ≠ [] := by
      rw [← List.length_pos_iff, List.length_cons]
      omega
    rw [List.cons_append, List.cons_append, List.tail_cons, hlength, ← hany fs hfs,
      ← hany back hback]
    simp only [List.mem_append, or_and_right, exists_or]
    simp only [or_comm]

end

/-! ### What the room after a segment says -/

/-- Every segment but the last ends at a comment line, and the block before that line is the code of
the segment between blank lines.  Room is left after the segment exactly when the line right before
the comment line is blank, or a line within the code, or two lines or more in front of it. -/
theorem spaced_iff {s : Segment} (hs : (File.ofText marker text).segments[i]? = some s)
    (hlast : i + 1 < (File.ofText marker text).segments.length) :
  ∃ before closing after, ClosedAt marker text i before closing after
    ∧ ∃ front back previous, openCode marker before = front ++ s.codeLines ++ back
      ∧ (∀ l ∈ front, isBlank l = true) ∧ (∀ l ∈ back, isBlank l = true)
      ∧ before.getLast? = some previous
      ∧ (s.spaced = true
        ↔ isBlank previous = true ∨ (∃ l ∈ s.codeLines, isBlank l = true) ∨ 2 ≤ front.length)
  := by
  obtain ⟨before, closing, after, hclosed⟩ := exists_closedAt hlast
  obtain ⟨hblank, docs, hsegment⟩ := exists_segment_of_closedAt hclosed (Nat.lt_of_succ_lt hlast)
  obtain rfl : s = _ := Option.some.inj (hs.symm.trans hsegment)
  have hline : ∀ l ∈ openCode marker before, IsLine l := by
    intro l hl
    apply isLine_of_mem_lines
    rw [hclosed.lines_eq]
    apply List.mem_append_left
    apply (openCode_suffix marker before).subset hl
  rw [codeLines_codeText hline]
  obtain ⟨front, back, hblock, hfront, hback⟩ :=
    exists_eq_append_strip_append isBlank (openCode marker before)
  rw [← stripBlankLines] at hblock
  have hne := stripBlankLines_ne_nil hblank
  have hopen : openCode marker before ≠ [] := by
    intro hnil
    rw [hnil] at hne
    exact hne rfl
  have hsome : (openCode marker before).getLast? ≠ none := List.getLast?_eq_none_iff.not.mpr hopen
  obtain ⟨previous, hprevious⟩ := Option.ne_none_iff_exists'.mp hsome
  use before, closing, after, hclosed, front, back, previous, hblock, hfront, hback
  constructor
  · rw [getLast?_of_openCode_ne_nil hopen, hprevious]
  · rw [hblock] at hprevious
    rw [isBlank_getLast?_block hback hne (getLast?_strip isBlank _) hprevious]
    have hinner := innerBlank_block_iff hfront hback hne (head?_strip isBlank _)
    rw [← hblock] at hinner
    exact hinner

/-- A blank line within the code leaves room, though the line right before the comment line that
closes the segment is not blank. -/
theorem spaced_iff_within :
  (File.ofText "//" "a\n\nb\n// c").segments = [⟨"", "a\n\nb", true⟩, ⟨"c", "", false⟩]
    ∧ ClosedAt "//" "a\n\nb\n// c" 0 ["a", "", "b"] "// c" []
    ∧ isBlank "b" = false
    ∧ ∃ l ∈ Segment.codeLines ⟨"", "a\n\nb", true⟩, isBlank l = true
  := by
  have hsegments : (File.ofText "//" "a\n\nb\n// c").segments
      = [⟨"", "a\n\nb", true⟩, ⟨"c", "", false⟩] := by
    decide +kernel
  have hs : (File.ofText "//" "a\n\nb\n// c").segments[0]? = some ⟨"", "a\n\nb", true⟩ := by
    rw [hsegments]
    rfl
  have hlast : 0 + 1 < (File.ofText "//" "a\n\nb\n// c").segments.length := by
    rw [hsegments]
    decide
  obtain ⟨before, closing, after, hclosed, front, back, previous, hblock, -, -, hprevious, hiff⟩ :=
    spaced_iff hs hlast
  -- only the last line of the text is a comment
  have hbefore : before = ["a", "", "b"] ∧ closing = "// c" ∧ after = [] := by
    have hlines := hclosed.lines_eq
    have hcomment := hclosed.isComment_closing
    have htext : lines "a\n\nb\n// c" = ["a", "", "b", "// c"] := by
      decide +kernel
    have ha : isComment "//" "a" = false := by decide +kernel
    have hempty : isComment "//" "" = false := by decide +kernel
    have hb : isComment "//" "b" = false := by decide +kernel
    rw [htext] at hlines
    rcases before with _ | ⟨x, _ | ⟨y, _ | ⟨z, _ | ⟨w, before⟩⟩⟩⟩ <;> simp_all
  obtain ⟨rfl, rfl, rfl⟩ := hbefore
  obtain rfl : "b" = previous := Option.some.inj hprevious
  have hnot : isBlank "b" = false := by decide +kernel
  constructor
  · exact hsegments
  · use hclosed, hnot
    obtain hblank | hwithin | hfront := hiff.mp rfl
    · rw [hnot] at hblank
      cases hblank
    · exact hwithin
    · have hlength := congrArg List.length hblock
      have hopen : (openCode "//" ["a", "", "b"]).length = 3 := by decide +kernel
      have hcode : (Segment.codeLines ⟨"", "a\n\nb", true⟩).length = 3 := by decide +kernel
      rw [List.length_append, List.length_append] at hlength
      omega

end Gallery.Annotated
