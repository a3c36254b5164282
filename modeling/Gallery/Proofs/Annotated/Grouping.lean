import Gallery.Proofs.Annotated.Run
import Gallery.Proofs.Text.Strip
import Mathlib.Data.List.TakeWhile

/-!
# Grouping of lines

The content of an annotated file without a reader.  The lines from the first line of code on are
cut into blocks, each a run of comment lines and the run of other lines after it; the first block
has no comments.  A block whose other lines are all blank joins the next one.  Each block that is
left is a segment.  The header is made of the comment lines before the first line of code.

`ofText_eq_grouped` says that a reader finds this file.
-/

namespace Gallery.Annotated

open Gallery.Text

/-- A run of comment lines and the run of other lines that follows it. -/
structure Block where
  /-- The texts of the comment lines. -/
  comments : List String
  /-- The other lines. -/
  code : List String

/-- The lines without the longest run of comment lines at their start. -/
def afterComments (marker : String) (ls : List String) : List String :=
  ls.dropWhile (isComment marker)

/-- The longest run of lines other than comments at the start of the lines. -/
def others (marker : String) (ls : List String) : List String :=
  ls.takeWhile fun l => !isComment marker l

/-- The lines without the longest run of lines other than comments at their start. -/
def afterOthers (marker : String) (ls : List String) : List String :=
  ls.dropWhile fun l => !isComment marker l

/-- The lines cut into alternating runs, as long as possible, of comment lines and of others: a
block for every two of them. -/
def blocks (marker : String) : List String → List Block
  | [] => []
  | l :: ls =>
    ⟨((l :: ls).takeWhile (isComment marker)).map (commentText marker),
        others marker (afterComments marker (l :: ls))⟩
      :: blocks marker (afterOthers marker (afterComments marker (l :: ls)))
termination_by ls => ls.length
decreasing_by
  rw [afterComments, afterOthers]
  cases h : isComment marker l with
  | true =>
    have hle := (List.dropWhile_sublist (isComment marker) (l := ls)).length_le
    have hle' := (List.dropWhile_sublist (fun l => !isComment marker l)
      (l := ls.dropWhile (isComment marker))).length_le
    simp only [List.dropWhile_cons_of_pos h, List.length_cons]
    omega
  | false =>
    have hle := (List.dropWhile_sublist (fun l => !isComment marker l) (l := ls)).length_le
    simp only [List.dropWhile_cons, h, Bool.not_false, if_true, List.length_cons,
      Bool.false_eq_true, if_false]
    omega

/-- The blocks in which every block with only blank lines beside its comments has joined the next
block: the blank lines are dropped. -/
def joinBlank : List Block → List Block
  | [] => []
  | b :: bs =>
    match joinBlank bs with
    | [] => [b]
    | next :: rest =>
      if b.code.all isBlank then ⟨b.comments ++ next.comments, next.code⟩ :: rest
      else b :: next :: rest

/-- The segment of a block. -/
def Block.segment (b : Block) (spaced : Bool) : Segment :=
  ⟨joinWords b.comments, joinLines (stripBlankLines b.code), spaced⟩

/-- The segments of blocks.  Room is left after a block that is not the last and has a blank line
after the first line of its code. -/
def segmentsOf : List Block → List Segment
  | [] => []
  | [b] => [b.segment false]
  | b :: next :: bs => b.segment (innerBlank b.code) :: segmentsOf (next :: bs)

/-- The lines before the first line of code. -/
def leading (marker : String) (ls : List String) : List String :=
  ls.takeWhile fun l => !isCode marker l

/-- The lines from the first line of code on. -/
def body (marker : String) (ls : List String) : List String :=
  ls.dropWhile fun l => !isCode marker l

/-- The texts of the comment lines before the first line of code. -/
def headerTexts (marker : String) (ls : List String) : List String :=
  ((leading marker ls).filter (isComment marker)).map (commentText marker)

/-- The annotated file that a text holds, by the grouping of its lines. -/
def File.grouped (marker text : String) : File where
  header := trim (joinWords (headerTexts marker (lines text)))
  segments := segmentsOf (joinBlank (blocks marker (body marker (lines text))))

/-! ### Cutting lines -/

theorem isComment_eq_false_of_mem_others {marker l : String} {ls : List String}
    (h : l ∈ others marker ls) :
  isComment marker l = false
  := by
  simpa using List.mem_takeWhile_imp h

theorem others_cons {marker l : String} (h : isComment marker l = false) (ls : List String) :
  others marker (l :: ls) = l :: others marker ls
  := List.takeWhile_cons_of_pos (by simp [h])

theorem isComment_of_head?_afterOthers {marker : String} (ls : List String) :
  ∀ l ∈ (afterOthers marker ls).head?, isComment marker l = true
  := by
  intro l hl
  have h := List.head?_dropWhile_not (fun l => !isComment marker l) ls
  rw [afterOthers] at hl
  rw [hl] at h
  simpa using h

theorem others_append_afterOthers (marker : String) (ls : List String) :
  others marker ls ++ afterOthers marker ls = ls
  := List.takeWhile_append_dropWhile

/-! ### Joining blocks -/

theorem joinBlank_ne_nil (b : Block) (bs : List Block) :
  joinBlank (b :: bs) ≠ []
  := by
  rw [joinBlank]
  split
  · simp
  · split <;> simp

/-- A block with a line of code stays when blocks are joined. -/
theorem joinBlank_cons_of_not_blank {b : Block} (h : b.code.all isBlank = false)
    (bs : List Block) :
  joinBlank (b :: bs) = b :: joinBlank bs
  := by
  rw [joinBlank]
  rcases joinBlank bs with _ | ⟨next, rest⟩
  · rfl
  · simp [h]

/-- Blocks may also be joined from the left. -/
theorem joinBlank_cons_cons (a b : Block) (bs : List Block) :
  joinBlank (a :: b :: bs)
    = if a.code.all isBlank then joinBlank (⟨a.comments ++ b.comments, b.code⟩ :: bs)
      else a :: joinBlank (b :: bs)
  := by
  by_cases ha : a.code.all isBlank = true
  · simp only [joinBlank]
    rcases joinBlank bs with _ | ⟨next, rest⟩
    · simp [ha]
    · by_cases hb : b.code.all isBlank = true
      · simp [ha, hb]
      · simp [ha, hb]
  · obtain ⟨next, rest, h⟩ := List.exists_cons_of_ne_nil (joinBlank_ne_nil b bs)
    rw [joinBlank, h]
    simp [ha]

/-- The first of several blocks gives the first segment. -/
theorem segmentsOf_cons {b : Block} {bs : List Block} (hne : bs ≠ []) :
  segmentsOf (b :: bs) = b.segment (innerBlank b.code) :: segmentsOf bs
  := by
  obtain ⟨next, rest, rfl⟩ := List.exists_cons_of_ne_nil hne
  rfl

/-- A run of lines other than comments ends where a comment line follows. -/
theorem others_append {marker : String} {code ls : List String}
    (hcode : ∀ l ∈ code, isComment marker l = false)
    (hls : ∀ l ∈ ls.head?, isComment marker l = true) :
  others marker (code ++ ls) = code ∧ afterOthers marker (code ++ ls) = ls
  := by
  have hcode' : ∀ l ∈ code, (!isComment marker l) = true := by
    simpa using hcode
  have hls' : ∀ l ∈ ls.head?, (!isComment marker l) = false := by
    simpa using hls
  constructor
  · rw [others, List.takeWhile_append_of_pos hcode', takeWhile_eq_nil_of_head? hls',
      List.append_nil]
  · rw [afterOthers, List.dropWhile_append_of_pos hcode', dropWhile_eq_self_of_head? hls']

/-- A comment line and a run of other lines make a block, if the next line is a comment. -/
theorem blocks_comment_cons {marker c : String} {code ls : List String}
    (hc : isComment marker c = true) (hcode : ∀ l ∈ code, isComment marker l = false)
    (hls : ∀ l ∈ ls.head?, isComment marker l = true) (hne : ls = [] ∨ code ≠ []) :
  blocks marker (c :: (code ++ ls)) = ⟨[commentText marker c], code⟩ :: blocks marker ls
  := by
  have hhead : ∀ l ∈ (code ++ ls).head?, isComment marker l = false := by
    intro l hl
    cases code with
    | nil =>
      obtain rfl : ls = [] := by
        simpa using hne
      cases hl
    | cons first code =>
      apply hcode
      obtain rfl : first = l := by
        simpa using hl
      simp
  obtain ⟨hothers, hafter⟩ := others_append hcode hls
  rw [blocks, afterComments, List.takeWhile_cons_of_pos hc, List.dropWhile_cons_of_pos hc,
    takeWhile_eq_nil_of_head? hhead, dropWhile_eq_self_of_head? hhead, hothers, hafter]
  rfl

namespace Reader

/-! ### The segments that a reader finds -/

/-- What a reader finds in lines that start with a comment: the segments of their blocks, after
the one that is open. -/
theorem segments_finish_readLines {marker : String} {ls : List String} {r : Reader}
    (hls : ∀ l ∈ ls.head?, isComment marker l = true) (hphase : r.phase ≠ .header)
    (hspaced : r.spaced = innerBlank r.code) (hne : r.code ≠ [] ∨ r.docs ≠ []) :
  (r.readLines marker ls).finish.segments
    = r.segments ++ segmentsOf (joinBlank (⟨r.docs, r.code⟩ :: blocks marker ls))
  := by
  fun_induction blocks marker ls generalizing r with
  | case1 =>
    have hempty : (r.code.isEmpty && r.docs.isEmpty) = false := by
      simpa [← not_and_or] using hne
    simp [finish, hempty, joinBlank, segmentsOf, Block.segment, codeText]
  | case2 l ls ih =>
    have hl : isComment marker l = true := hls l rfl
    let comments := (l :: ls).takeWhile (isComment marker)
    have hcomments : ∀ c ∈ comments, isComment marker c = true :=
      fun _ h => List.mem_takeWhile_imp h
    have hcomments_ne : comments ≠ [] := by
      simp [comments, hl]
    have hread : r.readLines marker (l :: ls)
        = (r.readLines marker (comments ++ others marker (afterComments marker (l :: ls)))).readLines
          marker (afterOthers marker (afterComments marker (l :: ls))) := by
      rw [← readLines_append, List.append_assoc, others_append_afterOthers]
      exact congrArg (r.readLines marker) List.takeWhile_append_dropWhile.symm
    rw [hread, readLines_block hphase hcomments hcomments_ne
      (fun _ => isComment_eq_false_of_mem_others)]
    apply Eq.trans (ih (isComment_of_head?_afterOthers _) (by simp; split <;> simp) rfl
      (Or.inr (by simpa using fun _ => hcomments_ne)))
    rw [joinBlank_cons_cons]
    by_cases hblank : r.code.all isBlank = true
    · rw [if_pos hblank, close_of_blank hblank]
    · rw [if_neg hblank, close_of_not_blank (by simpa using hblank),
        segmentsOf_cons (joinBlank_ne_nil _ _)]
      simp [Block.segment, codeText, hspaced, comments]

end Reader

/-! ### The file that a reader finds -/

open Reader

theorem leading_append_body (marker : String) (ls : List String) :
  leading marker ls ++ body marker ls = ls
  := List.takeWhile_append_dropWhile

theorem isCode_of_body_eq_cons {marker l : String} {ls rest : List String}
    (h : body marker ls = l :: rest) :
  isCode marker l = true
  := by
  have hhead := List.head?_dropWhile_not (fun l => !isCode marker l) ls
  rw [body] at h
  simpa [h] using hhead

/-- Lines that start with code have a first block without comments. -/
theorem blocks_of_isCode {marker l : String} (ls : List String) (h : isCode marker l = true) :
  blocks marker (l :: ls)
    = ⟨[], others marker (l :: ls)⟩ :: blocks marker (afterOthers marker (l :: ls))
  := by
  have hcomment : isComment marker l = false := (isCode_iff.mp h).1
  rw [blocks, afterComments, List.takeWhile_cons_of_neg (by simp [hcomment]),
    List.dropWhile_cons_of_neg (by simp [hcomment])]
  rfl

/-- A run of lines that starts with a line of code is the first block, if the next line is a
comment. -/
theorem blocks_code_append {marker l : String} {code ls : List String}
    (hl : isCode marker l = true) (hcode : ∀ o ∈ l :: code, isComment marker o = false)
    (hls : ∀ o ∈ ls.head?, isComment marker o = true) :
  blocks marker (l :: code ++ ls) = ⟨[], l :: code⟩ :: blocks marker ls
  := by
  obtain ⟨hothers, hafter⟩ := others_append hcode hls
  rw [List.cons_append] at hothers hafter ⊢
  rw [blocks_of_isCode _ hl, hothers, hafter]

theorem leading_append {marker : String} {hs ls : List String}
    (hhs : ∀ l ∈ hs, isCode marker l = false) (hls : ∀ l ∈ ls.head?, isCode marker l = true) :
  leading marker (hs ++ ls) = hs ∧ body marker (hs ++ ls) = ls
  := by
  have hhs' : ∀ l ∈ hs, (!isCode marker l) = true := by
    simpa using hhs
  have hls' : ∀ l ∈ ls.head?, (!isCode marker l) = false := by
    simpa using hls
  constructor
  · rw [leading, List.takeWhile_append_of_pos hhs', takeWhile_eq_nil_of_head? hls',
      List.append_nil]
  · rw [body, List.dropWhile_append_of_pos hhs', dropWhile_eq_self_of_head? hls']

/-- After the lines before the code a reader has the texts of their comments, and nothing else. -/
theorem start_readLines (marker : String) (ls : List String) :
  start.readLines marker ls
    = readLines marker { start with header := headerTexts marker ls } (body marker ls)
  := by
  have hleading : ∀ l ∈ leading marker ls, isCode marker l = false := by
    intro l hl
    simpa using List.mem_takeWhile_imp hl
  calc start.readLines marker ls
    _ = (start.readLines marker (leading marker ls)).readLines marker (body marker ls) := by
      rw [← readLines_append, leading_append_body]
    _ = readLines marker { start with header := headerTexts marker ls } (body marker ls) := by
      rw [readLines_leading rfl hleading]
      rfl

/-- The header is made of the comment lines before the first line of code. -/
theorem header_ofText (marker text : String) :
  (File.ofText marker text).header = trim (joinWords (headerTexts marker (lines text)))
  := by
  rw [ofText_eq_readLines, start_readLines, finish]
  apply congrArg (fun header => trim (joinWords header))
  cases hbody : body marker (lines text) with
  | nil => rfl
  | cons l rest =>
    rw [readLines_code_cons _ rest (isCode_of_body_eq_cons hbody)]
    apply header_readLines
    simp

/-- The segments are those of the joined blocks of the lines from the first line of code on. -/
theorem segments_ofText (marker text : String) :
  (File.ofText marker text).segments
    = segmentsOf (joinBlank (blocks marker (body marker (lines text))))
  := by
  rw [ofText_eq_readLines, start_readLines]
  cases hbody : body marker (lines text) with
  | nil => simp [finish, start, blocks, joinBlank, segmentsOf]
  | cons l rest =>
    have hl : isCode marker l = true := isCode_of_body_eq_cons hbody
    have hothers := others_cons (isCode_iff.mp hl).1 rest
    have hnone : ∀ o ∈ l :: others marker rest, isComment marker o = false := by
      rw [← hothers]
      exact fun _ => isComment_eq_false_of_mem_others
    have hread : ∀ r : Reader, r.readLines marker (l :: rest)
        = (r.readLines marker (l :: others marker rest)).readLines marker
          (afterOthers marker (l :: rest)) := by
      intro r
      rw [← readLines_append, ← hothers, others_append_afterOthers]
    rw [hread, readLines_first rfl rfl hl hnone, blocks_of_isCode rest hl, hothers]
    apply segments_finish_readLines
    · apply isComment_of_head?_afterOthers
    · simp
    · rfl
    · left
      simp

/-- A file is determined by its header and its segments. -/
theorem File.ext {f g : File} (hheader : f.header = g.header)
    (hsegments : f.segments = g.segments) :
  f = g
  := by
  obtain ⟨header, segments⟩ := f
  obtain ⟨header', segments'⟩ := g
  cases hheader
  cases hsegments
  rfl

/-- A reader finds the file that the grouping of the lines describes. -/
theorem File.ofText_eq_grouped (marker text : String) :
  File.ofText marker text = File.grouped marker text
  := by
  apply File.ext
  · apply header_ofText
  · apply segments_ofText

end Gallery.Annotated
