import Gallery.Proofs.Text.Strip

/-!
# Lines and texts

A line is a text without line feeds.  The lines of a text are lines, and lines that are joined are
found again (`lines_joinLines`).  The lines of two texts with a line feed between them are the lines
of both (`lines_append`).
-/

namespace Gallery.Text

/-- The text has no line feed. -/
def IsLine (s : String) : Prop :=
  '\n' ∉ s.toList

theorem not_mem_of_mem_splitOn {c : Char} {cs part : List Char} (h : part ∈ cs.splitOn c) :
  c ∉ part
  := by
  induction cs generalizing part with
  | nil =>
    obtain rfl : part = [] := by
      simpa using h
    simp
  | cons x cs ih =>
    rw [List.splitOn_cons_eq_if_modifyHead] at h
    by_cases hx : (x == c) = true
    · rw [if_pos hx] at h
      obtain rfl | h := List.mem_cons.mp h
      · simp
      · apply ih h
    · rw [if_neg hx] at h
      obtain ⟨first, rest, hsplit⟩ := List.exists_cons_of_ne_nil (List.splitOn_ne_nil c cs)
      rw [hsplit, List.modifyHead_cons] at h
      obtain rfl | h := List.mem_cons.mp h
      · have hfirst : c ∉ first := ih (by simp [hsplit])
        simp only [List.mem_cons, not_or]
        constructor
        · rintro rfl
          simp at hx
        · exact hfirst
      · apply ih
        simp [hsplit, h]

theorem isLine_of_mem_lines {l s : String} (h : l ∈ lines s) :
  IsLine l
  := by
  obtain ⟨part, hpart, rfl⟩ := List.mem_map.mp h
  rw [IsLine, String.toList_ofList]
  apply not_mem_of_mem_splitOn hpart

theorem isLine_trim {s : String} (h : IsLine s) :
  IsLine (trim s)
  := by
  rw [IsLine, toList_trim]
  intro hmem
  apply h (mem_of_mem_strip hmem)

theorem isLine_append {s t : String} (hs : IsLine s) (ht : IsLine t) :
  IsLine (s ++ t)
  := by
  rw [IsLine, String.toList_append, List.mem_append, not_or]
  exact ⟨hs, ht⟩

theorem isLine_joinWords {ws : List String} (h : ∀ w ∈ ws, IsLine w) :
  IsLine (joinWords ws)
  := by
  induction ws with
  | nil => simp [IsLine, joinWords]
  | cons w ws ih =>
    obtain ⟨hw, hws⟩ := List.forall_mem_cons.mp h
    by_cases hnil : ws = []
    · subst hnil
      simpa [joinWords] using hw
    · rw [joinWords, String.intercalate_cons_of_ne_nil hnil]
      apply isLine_append (isLine_append hw _) (ih hws)
      simp [IsLine]

/-! ### Lines of what is put together -/

/-- A separator between two texts splits them. -/
theorem splitOn_append (sep : Char) (s t : String) :
  splitOn sep (s ++ String.singleton sep ++ t) = splitOn sep s ++ splitOn sep t
  := by
  have happend : (s ++ String.singleton sep ++ t).toList = s.toList ++ sep :: t.toList := by
    simp
  rw [splitOn, happend, List.splitOn_append_cons_self, List.map_append]
  rfl

/-- A text without the separator is its only part. -/
theorem splitOn_of_not_mem {sep : Char} {s : String} (h : sep ∉ s.toList) :
  splitOn sep s = [s]
  := by
  rw [splitOn, List.splitOn_eq_singleton h]
  simp

theorem splitOn_ne_nil (sep : Char) (s : String) :
  splitOn sep s ≠ []
  := by
  rw [splitOn, ne_eq, List.map_eq_nil_iff]
  apply List.splitOn_ne_nil

theorem lines_ne_nil (s : String) :
  lines s ≠ []
  := splitOn_ne_nil '\n' s

theorem lines_append (s t : String) :
  lines (s ++ "\n" ++ t) = lines s ++ lines t
  := splitOn_append '\n' s t

theorem lines_of_isLine {s : String} (h : IsLine s) :
  lines s = [s]
  := splitOn_of_not_mem h

/-- Lines that are joined are the lines of the text. -/
theorem lines_joinLines {ls : List String} (h : ∀ l ∈ ls, IsLine l) (hne : ls ≠ []) :
  lines (joinLines ls) = ls
  := by
  have hsplit : ("\n".toList.intercalate (ls.map String.toList)).splitOn '\n'
      = ls.map String.toList := by
    apply List.splitOn_intercalate
    · intro part hpart
      obtain ⟨l, hl, rfl⟩ := List.mem_map.mp hpart
      apply h l hl
    · simpa using hne
  rw [lines, splitOn, joinLines, String.toList_intercalate, hsplit, List.map_map]
  simp [Function.comp_def]

/-- A text is its lines, joined. -/
@[simp]
theorem joinLines_lines (s : String) :
  joinLines (lines s) = s
  := by
  rw [← String.toList_inj, joinLines, String.toList_intercalate, lines, splitOn, List.map_map]
  simp only [Function.comp_def, String.toList_ofList, List.map_id']
  apply List.intercalate_splitOn

theorem lines_empty :
  lines "" = [""]
  := rfl

/-! ### Blank texts -/

theorem isBlank_append (s t : String) :
  isBlank (s ++ t) = (isBlank s && isBlank t)
  := by
  rw [isBlank, String.toList_append, List.all_append, isBlank, isBlank]

/-- A text is blank when all the lines that it is joined from are. -/
theorem isBlank_joinLines (ls : List String) :
  isBlank (joinLines ls) = ls.all isBlank
  := by
  induction ls with
  | nil => rfl
  | cons l ls ih =>
    by_cases hnil : ls = []
    · subst hnil
      simp [joinLines]
    · have hbreak : isBlank "\n" = true := by
        decide +kernel
      rw [joinLines] at ih
      rw [joinLines, String.intercalate_cons_of_ne_nil hnil, isBlank_append, isBlank_append, ih,
        hbreak, Bool.and_true, List.all_cons]

/-- A text with a line that is not blank is not blank. -/
theorem isBlank_eq_false_of_mem_lines {l s : String} (h : l ∈ lines s) (hl : isBlank l = false) :
  isBlank s = false
  := by
  rw [← joinLines_lines s, isBlank_joinLines, List.all_eq_false]
  use l, h
  simp [hl]

end Gallery.Text
