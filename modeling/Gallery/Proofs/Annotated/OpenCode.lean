import Gallery.Proofs.Annotated.Grouping
import Mathlib.Data.List.DropRight
import Mathlib.Data.List.Induction

/-!
# The open block of code

What a reader holds besides the segments that are closed can be told from the lines that it has
read: its code is the run of lines other than comments with which they end, `openCode`, and it is
spaced when a blank line stands in this block after the first line (`hasRead_readLines`).  A segment
is closed by a comment line after an open block that is not blank, and by nothing else
(`segments_step_cases`).
-/

namespace Gallery.Annotated

open Gallery.Text

/-- The longest run of lines other than comments at the end of the lines, from the first line of
code on. -/
def openCode (marker : String) (ls : List String) : List String :=
  (body marker ls).rtakeWhile fun l => !isComment marker l

section

variable {marker l : String} {ls : List String}

/-! ### One more line -/

theorem body_concat_of_nil (h : body marker ls = []) :
  body marker (ls ++ [l]) = if isCode marker l then [l] else []
  := by
  rw [body] at h ⊢
  rw [List.dropWhile_append, h]
  cases hl : isCode marker l <;> simp [hl]

theorem body_concat_of_ne_nil (h : body marker ls ≠ []) :
  body marker (ls ++ [l]) = body marker ls ++ [l]
  := by
  rw [body] at h ⊢
  rw [List.dropWhile_append, if_neg (by simpa using h), body]

theorem openCode_of_body_eq_nil (h : body marker ls = []) :
  openCode marker ls = []
  := by
  rw [openCode, h]
  rfl

/-- The first line of code opens a block. -/
theorem openCode_concat_of_isCode (h : body marker ls = []) (hl : isCode marker l = true) :
  openCode marker (ls ++ [l]) = [l]
  := by
  have hcomment := (isCode_iff.mp hl).1
  rw [openCode, body_concat_of_nil h, if_pos hl]
  simp [List.rtakeWhile, hcomment]

/-- A comment line leaves no block open. -/
theorem openCode_concat_of_isComment (hl : isComment marker l = true) :
  openCode marker (ls ++ [l]) = []
  := by
  by_cases h : body marker ls = []
  · have hcode : isCode marker l = false := by
      simp [isCode, hl]
    apply openCode_of_body_eq_nil
    rw [body_concat_of_nil h, hcode]
    rfl
  · rw [openCode, body_concat_of_ne_nil h, List.rtakeWhile_concat_neg]
    simp [hl]

/-- After the header any other line belongs to the open block. -/
theorem openCode_concat_of_not_isComment (h : body marker ls ≠ [])
    (hl : isComment marker l = false) :
  openCode marker (ls ++ [l]) = openCode marker ls ++ [l]
  := by
  rw [openCode, body_concat_of_ne_nil h, List.rtakeWhile_concat_pos, openCode]
  simp [hl]

/-- The open block is the end of the lines. -/
theorem openCode_suffix (marker : String) (ls : List String) :
  openCode marker ls <:+ ls
  := by
  apply List.IsSuffix.trans
  · apply List.rtakeWhile_suffix
  · apply List.dropWhile_suffix

theorem getLast?_of_openCode_ne_nil (h : openCode marker ls ≠ []) :
  ls.getLast? = (openCode marker ls).getLast?
  := by
  obtain ⟨front, hfront⟩ := openCode_suffix marker ls
  rw [← List.getLast?_append_of_ne_nil front h, hfront]

end

namespace Reader

/-! ### What a reader holds -/

/-- What a reader holds when it has read the lines `ls`. -/
structure HasRead (marker : String) (ls : List String) (r : Reader) : Prop where
  /-- The header ends with the first line of code. -/
  phase : r.phase = .header ↔ body marker ls = []
  code : r.code = openCode marker ls
  spaced : r.spaced = innerBlank r.code

theorem hasRead_start (marker : String) :
  HasRead marker [] start
  := by
  constructor
  · simp [start, body]
  · rfl
  · rfl

section

variable {marker l : String} {ls : List String} {r : Reader}

/-- Before the first line of code a reader holds no code. -/
theorem hasRead_step_header (h : HasRead marker ls r) (hphase : r.phase = .header) :
  HasRead marker (ls ++ [l]) (r.step (Line.classify marker l))
  := by
  have hbody := h.phase.mp hphase
  have hempty : r.code = [] := by
    rw [h.code, openCode_of_body_eq_nil hbody]
  have hspaced : r.spaced = false := by
    rw [h.spaced, hempty]
    rfl
  obtain ⟨phase, header, docs, code, spaced, segments⟩ := r
  obtain rfl : phase = .header := hphase
  obtain rfl : code = [] := hempty
  obtain rfl : spaced = false := hspaced
  by_cases hcode : isCode marker l = true
  · rw [classify_of_isCode hcode]
    constructor
    · simp [step, takeCode, body_concat_of_nil hbody, hcode]
    · rw [openCode_concat_of_isCode hbody hcode]
      rfl
    · rfl
  · have hstays : body marker (ls ++ [l]) = [] := by
      rw [body_concat_of_nil hbody, if_neg hcode]
    have hopen := openCode_of_body_eq_nil hstays
    obtain hcomment | ⟨hcomment, hblank⟩ | hcode' := kind_cases marker l
    · rw [classify_of_isComment hcomment]
      exact ⟨by simp [step, takeComment, hstays], hopen.symm, rfl⟩
    · rw [classify_of_isBlank hcomment hblank]
      exact ⟨by simp [step, takeBlank, hstays], hopen.symm, rfl⟩
    · exact absurd hcode' hcode

/-- After the header a comment line closes the open block, and any other line belongs to it. -/
theorem hasRead_step_body (h : HasRead marker ls r) (hphase : r.phase ≠ .header) :
  HasRead marker (ls ++ [l]) (r.step (Line.classify marker l))
  := by
  have hbody : body marker ls ≠ [] := fun hnil => hphase (h.phase.mpr hnil)
  have hgoes : body marker (ls ++ [l]) ≠ [] := by
    rw [body_concat_of_ne_nil hbody]
    simp
  cases hl : isComment marker l with
  | true =>
    rw [classify_of_isComment hl, step_comment hphase]
    constructor
    · simp [hgoes]
    · rw [openCode_concat_of_isComment hl]
      apply code_close
    · change r.close.spaced = innerBlank r.close.code
      rw [code_close, spaced_close]
      rfl
  | false =>
    rw [step_other hphase h.spaced hl]
    constructor
    · simp [hgoes]
    · rw [openCode_concat_of_not_isComment hbody hl, h.code]
    · rfl

theorem hasRead_step (h : HasRead marker ls r) :
  HasRead marker (ls ++ [l]) (r.step (Line.classify marker l))
  := by
  by_cases hphase : r.phase = .header
  · apply hasRead_step_header h hphase
  · apply hasRead_step_body h hphase

theorem readLines_concat (ls : List String) (l : String) :
  r.readLines marker (ls ++ [l]) = (r.readLines marker ls).step (Line.classify marker l)
  := readLines_append ls [l]

end

/-- The code that a reader holds is the open block of the lines that it has read. -/
theorem hasRead_readLines (marker : String) (ls : List String) :
  HasRead marker ls (start.readLines marker ls)
  := by
  induction ls using List.reverseRecOn with
  | nil => apply hasRead_start
  | append_singleton ls l ih =>
    rw [readLines_concat]
    apply hasRead_step ih

/-! ### Closed segments -/

/-- A line either leaves the closed segments as they are, or it is a comment line after some code
and closes one more. -/
theorem segments_step_cases (marker : String) (r : Reader) (l : String) :
  (r.step (Line.classify marker l)).segments = r.segments
    ∨ isComment marker l = true ∧ r.phase ≠ .header ∧ r.code.all isBlank = false
      ∧ (r.step (Line.classify marker l)).segments
        = r.segments ++ [⟨joinWords r.docs, codeText r.code, r.spaced⟩]
  := by
  obtain hcomment | ⟨hcomment, hblank⟩ | hcode := kind_cases marker l
  · rw [classify_of_isComment hcomment]
    by_cases hphase : r.phase = .header
    · left
      simp [step, takeComment, hphase]
    · rw [step_comment hphase]
      cases hcode : r.code.all isBlank with
      | true =>
        left
        rw [close_of_blank hcode]
      | false =>
        right
        rw [close_of_not_blank hcode]
        exact ⟨hcomment, hphase, rfl, rfl⟩
  · left
    rw [classify_of_isBlank hcomment hblank]
    obtain ⟨phase, header, docs, code, spaced, segments⟩ := r
    cases phase <;> rfl
  · left
    rw [classify_of_isCode hcode]
    rfl

section

variable {marker : String}

/-- Closed segments stay, and others are added behind them. -/
theorem segments_prefix_step (r : Reader) (l : String) :
  r.segments <+: (r.step (Line.classify marker l)).segments
  := by
  obtain hsame | ⟨-, -, -, hclosed⟩ := segments_step_cases marker r l
  · simp [hsame]
  · simp [hclosed]

/-- The texts of the header stay, and others are added behind them. -/
theorem header_prefix_step (r : Reader) (l : Line) :
  r.header <+: (r.step l).header
  := by
  by_cases hphase : r.phase = .header
  · cases l with
    | comment text => simp [step, takeComment, hphase]
    | blank raw => simp [step, takeBlank, hphase]
    | code raw => simp [step, takeCode]
  · simp [(header_step hphase l).1]

/-- The second reader holds all that the first one is done with, and what it holds besides comes
behind it; when the first one has left the header, then so has the second. -/
structure Extends (r r' : Reader) : Prop where
  header : r.header <+: r'.header
  segments : r.segments <+: r'.segments
  phase : r.phase ≠ .header → r'.phase ≠ .header

theorem Extends.refl (r : Reader) :
  r.Extends r
  := ⟨List.prefix_refl _, List.prefix_refl _, id⟩

theorem Extends.trans {r r' r'' : Reader} (h : r.Extends r') (h' : r'.Extends r'') :
  r.Extends r''
  := ⟨h.header.trans h'.header, h.segments.trans h'.segments, fun hphase => h'.phase (h.phase hphase)⟩

theorem extends_step (marker : String) (r : Reader) (l : String) :
  r.Extends (r.step (Line.classify marker l))
  := by
  constructor
  · apply header_prefix_step
  · apply segments_prefix_step
  · intro hphase
    exact (header_step hphase _).2

/-- Reading on leaves the header and the closed segments, and adds to them at most. -/
theorem extends_readLines (r : Reader) (ls : List String) :
  r.Extends (r.readLines marker ls)
  := by
  induction ls generalizing r with
  | nil => apply Extends.refl
  | cons l ls ih =>
    rw [readLines_cons]
    apply (extends_step marker r l).trans (ih _)

/-- Every closed segment was closed at a comment line. -/
theorem exists_closing {ls : List String} {i : Nat}
    (hi : i < (start.readLines marker ls).segments.length) :
  ∃ before closing after, ls = before ++ closing :: after
    ∧ (start.readLines marker before).segments.length = i
    ∧ (start.readLines marker (before ++ [closing])).segments.length = i + 1
  := by
  induction ls using List.reverseRecOn with
  | nil => simp [start] at hi
  | append_singleton ls l ih =>
    by_cases hearlier : i < (start.readLines marker ls).segments.length
    · obtain ⟨before, closing, after, rfl, hbefore, hclosed⟩ := ih hearlier
      use before, closing, after ++ [l]
      simp [hbefore, hclosed]
    · rw [readLines_concat] at hi
      obtain hsame | ⟨-, -, -, hclosed⟩ :=
        segments_step_cases marker (start.readLines marker ls) l
      · rw [hsame] at hi
        exact absurd hi hearlier
      · have hlength : (start.readLines marker (ls ++ [l])).segments.length
            = (start.readLines marker ls).segments.length + 1 := by
          rw [readLines_concat, hclosed, List.length_append, List.length_singleton]
        rw [← readLines_concat] at hi
        use ls, l, []
        exact ⟨rfl, by omega, by omega⟩

end

end Reader

end Gallery.Annotated
