import Gallery.Annotated
import Gallery.Proofs.Annotated.Comment

/-!
# Runs of lines

What a reader does with a run of lines of one kind.  A run of comment lines closes the current
segment once and adds all its texts to the documentation (`readLines_comments`); a run of other
lines is added to the code as it is (`readLines_others`).  Before the code of a file only comment
lines count (`readLines_leading`), and after it the header stays as it is
(`header_readLines`).
-/

namespace Gallery.Annotated

open Gallery.Text

/-- A blank line stands in a block of code, after its first line. -/
def innerBlank (code : List String) : Bool :=
  code.tail.any isBlank

namespace Reader

/-- The reader after some more lines of a file whose comment lines start with `marker`. -/
def readLines (marker : String) (r : Reader) (ls : List String) : Reader :=
  (ls.map (Line.classify marker)).foldl step r

section

variable {marker : String} {r : Reader}

@[simp]
theorem readLines_nil :
  r.readLines marker [] = r
  := rfl

theorem readLines_cons (l : String) (ls : List String) :
  r.readLines marker (l :: ls) = (r.step (Line.classify marker l)).readLines marker ls
  := rfl

theorem readLines_append (ls ms : List String) :
  r.readLines marker (ls ++ ms) = (r.readLines marker ls).readLines marker ms
  := by
  rw [readLines, List.map_append, List.foldl_append]
  rfl

end

/-- The file read from a text, in terms of its raw lines. -/
theorem ofText_eq_readLines (marker text : String) :
  File.ofText marker text = (start.readLines marker (lines text)).finish
  := rfl

/-! ### Closing a segment -/

section

variable {r : Reader}

theorem close_of_blank (h : r.code.all isBlank = true) :
  r.close = { r with code := [], spaced := false }
  := if_pos h

theorem close_of_not_blank (h : r.code.all isBlank = false) :
  r.close = { r with
    docs := [], code := [], spaced := false
    segments := r.segments ++ [⟨joinWords r.docs, codeText r.code, r.spaced⟩] }
  := by
  rw [close, h]
  rfl

theorem code_close (r : Reader) :
  r.close.code = []
  := by
  rw [close]
  split <;> rfl

theorem spaced_close (r : Reader) :
  r.close.spaced = false
  := by
  rw [close]
  split <;> rfl

end

/-! ### Runs of comment lines -/

/-- A comment line after the header closes the segment. -/
theorem step_comment {r : Reader} (hphase : r.phase ≠ .header) (text : String) :
  r.step (.comment text) = { r.close with phase := .docs, docs := r.close.docs ++ [text] }
  := by
  obtain ⟨phase, header, docs, code, spaced, segments⟩ := r
  cases phase with
  | header => exact absurd rfl hphase
  | docs => rfl
  | code => rfl

private theorem readLines_comments_docs {marker : String} {ls : List String}
    (hls : ∀ l ∈ ls, isComment marker l = true) (header docs : List String)
    (segments : List Segment) :
  readLines marker ⟨.docs, header, docs, [], false, segments⟩ ls
    = ⟨.docs, header, docs ++ ls.map (commentText marker), [], false, segments⟩
  := by
  induction ls generalizing docs with
  | nil => simp
  | cons l ls ih =>
    obtain ⟨hl, hls⟩ := List.forall_mem_cons.mp hls
    rw [readLines_cons, classify_of_isComment hl]
    apply Eq.trans (ih hls (docs ++ [commentText marker l]))
    simp

/-- A run of comment lines closes the current segment and adds its texts to the
documentation. -/
theorem readLines_comments {marker : String} {r : Reader} {ls : List String}
    (hphase : r.phase ≠ .header) (hls : ∀ l ∈ ls, isComment marker l = true) (hne : ls ≠ []) :
  r.readLines marker ls
    = { r.close with phase := .docs, docs := r.close.docs ++ ls.map (commentText marker) }
  := by
  obtain ⟨l, ls, rfl⟩ := List.exists_cons_of_ne_nil hne
  obtain ⟨hl, hls⟩ := List.forall_mem_cons.mp hls
  rw [readLines_cons, classify_of_isComment hl, step_comment hphase]
  have hcode : r.close.code = [] := code_close r
  have hspaced : r.close.spaced = false := spaced_close r
  generalize r.close = closed at hcode hspaced ⊢
  obtain ⟨phase, header, docs, code, spaced, segments⟩ := closed
  obtain rfl : code = [] := hcode
  obtain rfl : spaced = false := hspaced
  apply Eq.trans (readLines_comments_docs hls header (docs ++ [commentText marker l]) segments)
  simp

/-! ### Runs of other lines -/

/-- A line of code, or a blank line after the header, is added to the code. -/
theorem step_other {marker : String} {r : Reader} {l : String}
    (hphase : r.phase ≠ .header) (hspaced : r.spaced = innerBlank r.code)
    (hl : isComment marker l = false) :
  r.step (Line.classify marker l)
    = { r with phase := .code, code := r.code ++ [l], spaced := innerBlank (r.code ++ [l]) }
  := by
  obtain ⟨phase, header, docs, code, spaced, segments⟩ := r
  obtain rfl : spaced = innerBlank code := hspaced
  obtain hcomment | ⟨-, hblank⟩ | hcode := kind_cases marker l
  · rw [hl] at hcomment
    cases hcomment
  · rw [classify_of_isBlank hl hblank]
    have hblanked : innerBlank (code ++ [l]) = !code.isEmpty := by
      cases code with
      | nil => rfl
      | cons first rest => simp [innerBlank, hblank]
    rw [hblanked]
    cases phase with
    | header => exact absurd rfl hphase
    | docs => rfl
    | code => rfl
  · rw [classify_of_isCode hcode]
    have hkept : innerBlank (code ++ [l]) = innerBlank code := by
      cases code with
      | nil => rfl
      | cons first rest => simp [innerBlank, (isCode_iff.mp hcode).2]
    rw [hkept]
    rfl

/-- A run of lines that are not comments is added to the code. -/
theorem readLines_others {marker : String} {r : Reader} {ls : List String}
    (hphase : r.phase ≠ .header) (hspaced : r.spaced = innerBlank r.code)
    (hls : ∀ l ∈ ls, isComment marker l = false) (hne : ls ≠ []) :
  r.readLines marker ls
    = { r with phase := .code, code := r.code ++ ls, spaced := innerBlank (r.code ++ ls) }
  := by
  induction ls generalizing r with
  | nil => exact absurd rfl hne
  | cons l ls ih =>
    obtain ⟨hl, hls⟩ := List.forall_mem_cons.mp hls
    rw [readLines_cons, step_other hphase hspaced hl]
    by_cases hrest : ls = []
    · subst hrest
      rfl
    · rw [ih (by simp) rfl hls hrest]
      simp

/-- A run of comment lines and a run of other lines after it are a new block: they close the
current segment and become its documentation and its code. -/
theorem readLines_block {marker : String} {r : Reader} {comments others : List String}
    (hphase : r.phase ≠ .header) (hcomments : ∀ l ∈ comments, isComment marker l = true)
    (hne : comments ≠ []) (hothers : ∀ l ∈ others, isComment marker l = false) :
  r.readLines marker (comments ++ others) = { r.close with
    phase := if others = [] then .docs else .code
    docs := r.close.docs ++ comments.map (commentText marker)
    code := others, spaced := innerBlank others }
  := by
  have hcode := code_close r
  have hspaced := spaced_close r
  rw [readLines_append, readLines_comments hphase hcomments hne]
  generalize r.close = closed at hcode hspaced ⊢
  obtain ⟨phase, header, docs, code, spaced, segments⟩ := closed
  obtain rfl : code = [] := hcode
  obtain rfl : spaced = false := hspaced
  by_cases hnil : others = []
  · subst hnil
    rfl
  · rw [readLines_others (by simp) rfl hothers hnil]
    simp [hnil]

/-! ### The header -/

/-- Before the code only the texts of comment lines are kept. -/
theorem readLines_leading {marker : String} {r : Reader} {ls : List String}
    (hphase : r.phase = .header) (hls : ∀ l ∈ ls, isCode marker l = false) :
  r.readLines marker ls
    = { r with header :=
        r.header ++ (ls.filter (isComment marker)).map (commentText marker) }
  := by
  induction ls generalizing r with
  | nil => simp
  | cons l ls ih =>
    obtain ⟨hl, hls⟩ := List.forall_mem_cons.mp hls
    obtain ⟨phase, header, docs, code, spaced, segments⟩ := r
    subst hphase
    rw [readLines_cons]
    obtain hcomment | ⟨hcomment, hblank⟩ | hcode := kind_cases marker l
    · rw [classify_of_isComment hcomment]
      apply Eq.trans (ih rfl hls)
      simp [step, takeComment, hcomment]
    · rw [classify_of_isBlank hcomment hblank]
      apply Eq.trans (ih rfl hls)
      simp [step, takeBlank, hcomment]
    · rw [hl] at hcode
      cases hcode

/-- A line of code ends the header, and is read as after the header. -/
theorem readLines_code_cons {marker : String} (r : Reader) {l : String} (ls : List String)
    (hl : isCode marker l = true) :
  r.readLines marker (l :: ls) = readLines marker { r with phase := .docs } (l :: ls)
  := by
  rw [readLines_cons, readLines_cons, classify_of_isCode hl]
  rfl

/-- A run of lines other than comments that starts with a line of code is the code of the first
segment. -/
theorem readLines_first {marker l : String} {ls : List String} {r : Reader}
    (hcode : r.code = []) (hspaced : r.spaced = false) (hl : isCode marker l = true)
    (hls : ∀ o ∈ l :: ls, isComment marker o = false) :
  r.readLines marker (l :: ls)
    = { r with phase := .code, code := l :: ls, spaced := innerBlank (l :: ls) }
  := by
  obtain ⟨phase, header, docs, code, spaced, segments⟩ := r
  obtain rfl : code = [] := hcode
  obtain rfl : spaced = false := hspaced
  rw [readLines_code_cons _ ls hl]
  apply readLines_others
  · simp
  · rfl
  · exact hls
  · simp

theorem header_close (r : Reader) :
  r.close.header = r.header
  := by
  rw [close]
  split <;> rfl

/-- After the header no line changes the header, nor goes back to it. -/
theorem header_step {r : Reader} (hphase : r.phase ≠ .header) (l : Line) :
  (r.step l).header = r.header ∧ (r.step l).phase ≠ .header
  := by
  cases l with
  | comment text =>
    rw [step_comment hphase]
    constructor
    · apply header_close
    · simp
  | blank raw =>
    obtain ⟨phase, header, docs, code, spaced, segments⟩ := r
    cases phase with
    | header => exact absurd rfl hphase
    | docs => simp [step, takeBlank]
    | code => simp [step, takeBlank]
  | code raw => simp [step, takeCode]

/-- After the header the header stays as it is. -/
theorem header_readLines {marker : String} {r : Reader} (hphase : r.phase ≠ .header)
    (ls : List String) :
  (r.readLines marker ls).header = r.header
  := by
  induction ls generalizing r with
  | nil => rfl
  | cons l ls ih =>
    obtain ⟨hheader, hphase'⟩ := header_step hphase (Line.classify marker l)
    rw [readLines_cons, ih hphase', hheader]

end Reader

end Gallery.Annotated
