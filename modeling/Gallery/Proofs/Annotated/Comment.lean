import Gallery.Annotated
import Gallery.Proofs.Text.Strip

/-!
# Comment lines as texts

The kinds of lines, told from the raw line and the marker alone: a line is a comment when its
trim starts with the marker, and it is code when it is neither a comment nor blank.
`Line.classify` finds exactly these kinds.
-/

namespace Gallery.Annotated

open Gallery.Text

/-- The trim of the line starts with the marker. -/
def isComment (marker line : String) : Bool :=
  marker.toList.isPrefixOf (trim line).toList

/-- The trim of the line without one marker at its start. -/
def afterMarker (marker line : String) : String :=
  String.ofList ((trim line).toList.drop marker.toList.length)

/-- The text of a comment line. -/
def commentText (marker line : String) : String :=
  trim (afterMarker marker line)

/-- The line is neither a comment nor blank. -/
def isCode (marker line : String) : Bool :=
  !isComment marker line && !isBlank line

section

variable {marker line : String}

/-- A line is a comment exactly when its trim is the marker and something after it. -/
theorem isComment_iff_append :
  isComment marker line = true
    ↔ (trim line).toList = marker.toList ++ (afterMarker marker line).toList
  := by
  rw [isComment, List.isPrefixOf_iff_prefix, List.prefix_iff_eq_append, afterMarker,
    String.toList_ofList]
  exact eq_comm

theorem classify_of_isComment (h : isComment marker line = true) :
  Line.classify marker line = .comment (commentText marker line)
  := by
  have hafter : afterMarker? marker (trim line) = some (afterMarker marker line) := by
    rw [afterMarker?, List.isPrefixOf?_eq_some_iff_append_eq.mpr (isComment_iff_append.mp h).symm,
      Option.map_some, String.ofList_toList]
  rw [Line.classify, hafter]
  rfl

private theorem afterMarker?_of_not_isComment (h : isComment marker line = false) :
  afterMarker? marker (trim line) = none
  := by
  rw [afterMarker?, Option.map_eq_none_iff, Option.eq_none_iff_forall_ne_some]
  intro rest hrest
  have happend := List.isPrefixOf?_eq_some_iff_append_eq.mp hrest
  have hprefix : marker.toList <+: (trim line).toList := ⟨rest, happend⟩
  rw [isComment, List.isPrefixOf_iff_prefix.mpr hprefix] at h
  cases h

theorem classify_of_isBlank (h : isComment marker line = false) (hblank : isBlank line = true) :
  Line.classify marker line = .blank line
  := by
  rw [Line.classify, afterMarker?_of_not_isComment h]
  simp [hblank]

theorem isCode_iff :
  isCode marker line = true ↔ isComment marker line = false ∧ isBlank line = false
  := by
  simp [isCode]

theorem classify_of_isCode (h : isCode marker line = true) :
  Line.classify marker line = .code line
  := by
  obtain ⟨hcomment, hblank⟩ := isCode_iff.mp h
  rw [Line.classify, afterMarker?_of_not_isComment hcomment]
  simp [hblank]

/-- A blank line is no comment, unless all lines are. -/
theorem isComment_of_isBlank (hmarker : marker ≠ "") (hblank : isBlank line = true) :
  isComment marker line = false
  := by
  have hne : marker.toList ≠ [] := by
    simpa using hmarker
  obtain ⟨c, cs, hcons⟩ := List.exists_cons_of_ne_nil hne
  rw [isComment, (trim_eq_empty_iff line).mpr hblank, hcons]
  rfl

/-- Where there is code, comment lines have a marker. -/
theorem ne_empty_of_isCode (h : isCode marker line = true) :
  marker ≠ ""
  := by
  rintro rfl
  obtain ⟨hcomment, -⟩ := isCode_iff.mp h
  cases hcomment

/-- A line is a comment, blank, or code. -/
theorem kind_cases (marker line : String) :
  isComment marker line = true
    ∨ (isComment marker line = false ∧ isBlank line = true)
    ∨ isCode marker line = true
  := by
  rw [isCode_iff]
  cases isComment marker line
  · cases isBlank line
    · right; right
      constructor <;> rfl
    · right; left
      constructor <;> rfl
  · left
    rfl

end

end Gallery.Annotated
