import Gallery.Proofs.Annotated.CodeText
import Gallery.Proofs.Annotated.Reachable
import Mathlib.Logic.Relation

/-!
# Blank lines outside of the code

Blank lines have no part in a file before its first line of code, between two comment lines that
they alone separate, and at its end.  A reader that is before the code, or has just read a comment
line, goes on from blank lines as if they were not there, unless code follows
(`readLines_blanks_comment`), and at the end of the file it drops them (`finish_readLines_blanks`).
So texts that can be changed into one another by adding and removing such lines are read as the same
file (`ofText_eq_of_blankChanges`).
-/

namespace Gallery.Annotated

open Gallery.Text

variable {marker : String}

/-! ### Places outside of the code -/

/-- Blank lines between the lines `front` and the lines `back` are outside of the code. -/
inductive OutsideCode (marker : String) : List String → List String → Prop where
  /-- No line of code stands before them. -/
  | beforeCode {front back : List String} (hfront : ∀ l ∈ front, isCode marker l = false) :
    OutsideCode marker front back
  /-- They stand between two comment lines. -/
  | betweenComments {front back : List String} {above below : String}
    (habove : isComment marker above = true) (hbelow : isComment marker below = true) :
    OutsideCode marker (front ++ [above]) (below :: back)
  /-- They stand at the end. -/
  | atEnd {front : List String} : OutsideCode marker front []

/-- The lines are the same, but for a run of blank lines at a place outside of the code. -/
inductive BlankChange (marker : String) : List String → List String → Prop where
  | replace {front old new back : List String} (hplace : OutsideCode marker front back)
    (hold : ∀ l ∈ old, isBlank l = true) (hnew : ∀ l ∈ new, isBlank l = true) :
    BlankChange marker (front ++ old ++ back) (front ++ new ++ back)

namespace Reader

variable {r : Reader} {blanks : List String} (hmarker : marker ≠ "")
  (hblanks : ∀ l ∈ blanks, isBlank l = true)

/-! ### Blank lines and readers -/

include hmarker hblanks

/-- Before the code a reader passes over blank lines. -/
theorem readLines_blanks_header (hphase : r.phase = .header) :
  r.readLines marker blanks = r
  := by
  induction blanks with
  | nil => rfl
  | cons l ls ih =>
    obtain ⟨hl, hls⟩ := List.forall_mem_cons.mp hblanks
    have hstep : r.step (.blank l) = r := by
      simp [step, takeBlank, hphase]
    rw [readLines_cons, classify_of_isBlank (isComment_of_isBlank hmarker hl) hl, hstep]
    apply ih hls

/-- After the header blank lines are added to the code. -/
theorem readLines_blanks (hphase : r.phase ≠ .header) (hspaced : r.spaced = innerBlank r.code)
    (hne : blanks ≠ []) :
  r.readLines marker blanks
    = { r with phase := .code, code := r.code ++ blanks, spaced := innerBlank (r.code ++ blanks) }
  := readLines_others hphase hspaced
    (fun l hl => isComment_of_isBlank hmarker (hblanks l hl)) hne

/-- A comment line drops the blank lines above it when no code is open. -/
theorem readLines_blanks_comment {comment : String} (hcomment : isComment marker comment = true)
    (hcode : r.code = []) (hspaced : r.spaced = false) :
  r.readLines marker (blanks ++ [comment]) = r.readLines marker [comment]
  := by
  rw [readLines_append]
  by_cases hphase : r.phase = .header
  · rw [readLines_blanks_header hmarker hblanks hphase]
  · by_cases hnil : blanks = []
    · rw [hnil, readLines_nil]
    · obtain ⟨phase, header, docs, code, spaced, segments⟩ := r
      obtain rfl : code = [] := hcode
      obtain rfl : spaced = false := hspaced
      have hall : blanks.all isBlank = true := List.all_eq_true.mpr hblanks
      rw [readLines_blanks hmarker hblanks hphase rfl hnil, readLines_cons, readLines_cons,
        classify_of_isComment hcomment, step_comment hphase, step_comment (by simp),
        close_of_blank hall, close_of_blank rfl]

/-- At the end of the file a reader drops blank lines. -/
theorem finish_readLines_blanks (hspaced : r.spaced = innerBlank r.code)
    (hopen : r.phase ≠ .header → r.code ≠ [] ∨ r.docs ≠ []) :
  (r.readLines marker blanks).finish = r.finish
  := by
  by_cases hphase : r.phase = .header
  · rw [readLines_blanks_header hmarker hblanks hphase]
  · by_cases hnil : blanks = []
    · rw [hnil, readLines_nil]
    · have hone : (r.code.isEmpty && r.docs.isEmpty) = false := by
        simpa [← not_and_or] using hopen hphase
      rw [readLines_blanks hmarker hblanks hphase hspaced hnil, finish, finish]
      simp [codeText_append_right hblanks, hone, hnil]

end Reader

open Reader

/-! ### Texts with other blank lines -/

section

variable (hmarker : marker ≠ "")

include hmarker

/-- Blank lines outside of the code can be left out. -/
theorem finish_readLines_outsideCode {front blanks back : List String}
    (hplace : OutsideCode marker front back) (hblanks : ∀ l ∈ blanks, isBlank l = true) :
  (start.readLines marker (front ++ blanks ++ back)).finish
    = (start.readLines marker (front ++ back)).finish
  := by
  have hread := hasRead_readLines marker front
  cases hplace with
  | beforeCode hfront =>
    have hphase : (start.readLines marker front).phase = .header := by
      rw [hread.phase, body, List.dropWhile_eq_nil_iff]
      simpa using hfront
    rw [readLines_append, readLines_append, readLines_blanks_header hmarker hblanks hphase,
      readLines_append]
  | @betweenComments front back above below habove hbelow =>
    have hcode : (start.readLines marker (front ++ [above])).code = [] := by
      rw [hread.code, openCode_concat_of_isComment habove]
    have hspaced : (start.readLines marker (front ++ [above])).spaced = false := by
      rw [hread.spaced, hcode]
      rfl
    calc (start.readLines marker (front ++ [above] ++ blanks ++ below :: back)).finish
      _ = (((start.readLines marker (front ++ [above])).readLines marker
            (blanks ++ [below])).readLines marker back).finish := by
        rw [← readLines_append, ← readLines_append]
        simp
      _ = (((start.readLines marker (front ++ [above])).readLines marker [below]).readLines
            marker back).finish := by
        rw [readLines_blanks_comment hmarker hblanks hbelow hcode hspaced]
      _ = (start.readLines marker (front ++ [above] ++ below :: back)).finish := by
        rw [← readLines_append, ← readLines_append]
        simp
  | atEnd =>
    rw [List.append_nil, List.append_nil, readLines_append]
    apply finish_readLines_blanks hmarker hblanks hread.spaced
    apply (wellFormed_readLines (wellFormed_start marker) front).code_or_docs_ne_nil

theorem finish_readLines_of_blankChange {ls ms : List String} (h : BlankChange marker ls ms) :
  (start.readLines marker ls).finish = (start.readLines marker ms).finish
  := by
  cases h with
  | replace hplace hold hnew =>
    rw [finish_readLines_outsideCode hmarker hplace hold,
      finish_readLines_outsideCode hmarker hplace hnew]

theorem finish_readLines_of_blankChanges {ls ms : List String}
    (h : Relation.ReflTransGen (BlankChange marker) ls ms) :
  (start.readLines marker ls).finish = (start.readLines marker ms).finish
  := by
  induction h with
  | refl => rfl
  | tail _ hchange ih => rw [ih, finish_readLines_of_blankChange hmarker hchange]

/-- Blank lines have no part in a file before its first line of code, between two comment lines that
they alone separate, and at its end: texts whose lines can be changed into one another by adding and
removing such lines are read as the same file. -/
theorem ofText_eq_of_blankChanges {a b : String}
    (h : Relation.ReflTransGen (BlankChange marker) (lines a) (lines b)) :
  File.ofText marker a = File.ofText marker b
  := by
  rw [ofText_eq_readLines, ofText_eq_readLines]
  apply finish_readLines_of_blankChanges hmarker h

end

/-- A text with blank lines at all these places, and the text without them. -/
theorem ofText_eq_of_blankChanges_slashes :
  "//" ≠ ""
    ∧ Relation.ReflTransGen (BlankChange "//")
      (lines "\n// H\n \n// h\nx\n\n// a\n\n\n// b\ny\n// c\n\n")
      (lines "// H\n// h\nx\n\n// a\n// b\ny\n// c")
    ∧ File.ofText "//" "\n// H\n \n// h\nx\n\n// a\n\n\n// b\ny\n// c\n\n"
      = ⟨"H h", [⟨"", "x", true⟩, ⟨"a b", "y", false⟩, ⟨"c", "", false⟩]⟩
  := by
  have hlines : lines "\n// H\n \n// h\nx\n\n// a\n\n\n// b\ny\n// c\n\n"
      = ["", "// H", " ", "// h", "x", "", "// a", "", "", "// b", "y", "// c", "", ""] := by
    decide +kernel
  have hlines' : lines "// H\n// h\nx\n\n// a\n// b\ny\n// c"
      = ["// H", "// h", "x", "", "// a", "// b", "y", "// c"] := by
    decide +kernel
  have hchanges : Relation.ReflTransGen (BlankChange "//")
      (lines "\n// H\n \n// h\nx\n\n// a\n\n\n// b\ny\n// c\n\n")
      (lines "// H\n// h\nx\n\n// a\n// b\ny\n// c") := by
    rw [hlines, hlines']
    have htop := @BlankChange.replace "//" [] [""] []
      ["// H", " ", "// h", "x", "", "// a", "", "", "// b", "y", "// c", "", ""]
      (.beforeCode (by simp)) (by decide +kernel) (by simp)
    have hheader := @BlankChange.replace "//" ["// H"] [" "] []
      ["// h", "x", "", "// a", "", "", "// b", "y", "// c", "", ""]
      (.beforeCode (by decide +kernel)) (by decide +kernel) (by simp)
    have hdocs := @BlankChange.replace "//" ["// H", "// h", "x", "", "// a"] ["", ""] []
      ["// b", "y", "// c", "", ""]
      (@OutsideCode.betweenComments "//" ["// H", "// h", "x", ""] _ _ _ (by decide +kernel)
        (by decide +kernel)) (by decide +kernel) (by simp)
    have hend := @BlankChange.replace "//" ["// H", "// h", "x", "", "// a", "// b", "y", "// c"]
      ["", ""] [] [] .atEnd (by decide +kernel) (by simp)
    exact .tail (.tail (.tail (.single htop) hheader) hdocs) hend
  constructor
  · decide
  · use hchanges
    rw [ofText_eq_of_blankChanges (by decide) hchanges]
    decide +kernel

end Gallery.Annotated
