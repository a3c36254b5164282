import Gallery.Proofs.Text.Strip

/-!
# Texts without white space

`withoutSpace s` are the characters of `s` that are not white space, in order.  It does not see
how words and lines are joined, nor what is taken away by trimming.
-/

namespace Gallery.Text

/-- The text without all its white space. -/
def withoutSpace (s : String) : String :=
  String.ofList (s.toList.filter fun c => !isSpace c)

theorem toList_withoutSpace (s : String) :
  (withoutSpace s).toList = s.toList.filter fun c => !isSpace c
  := String.toList_ofList

@[simp]
theorem withoutSpace_append (s t : String) :
  withoutSpace (s ++ t) = withoutSpace s ++ withoutSpace t
  := by
  rw [← String.toList_inj]
  simp [toList_withoutSpace]

theorem withoutSpace_of_isBlank {s : String} (h : isBlank s = true) :
  withoutSpace s = ""
  := by
  rw [← String.toList_inj, toList_withoutSpace, String.toList_empty, List.filter_eq_nil_iff]
  intro c hc
  simp [List.all_eq_true.mp h c hc]

@[simp]
theorem withoutSpace_empty :
  withoutSpace "" = ""
  := withoutSpace_of_isBlank rfl

@[simp]
theorem withoutSpace_trim (s : String) :
  withoutSpace (trim s) = withoutSpace s
  := by
  rw [← String.toList_inj, toList_withoutSpace, toList_withoutSpace, toList_trim, filter_strip]
  intro c hc
  simp [hc]

/-- A blank separator makes no difference. -/
theorem withoutSpace_intercalate {sep : String} (hsep : isBlank sep = true) (ss : List String) :
  withoutSpace (sep.intercalate ss) = withoutSpace (String.join ss)
  := by
  induction ss with
  | nil => rfl
  | cons s ss ih =>
    by_cases hss : ss = []
    · subst hss
      simp
    · rw [String.intercalate_cons_of_ne_nil hss]
      simp [ih, withoutSpace_of_isBlank hsep]

@[simp]
theorem withoutSpace_joinWords (ws : List String) :
  withoutSpace (joinWords ws) = withoutSpace (String.join ws)
  := withoutSpace_intercalate (by decide +kernel) ws

theorem withoutSpace_join_of_blank {ls : List String} (h : ∀ l ∈ ls, isBlank l = true) :
  withoutSpace (String.join ls) = ""
  := by
  induction ls with
  | nil => simp
  | cons l ls ih =>
    obtain ⟨hl, hls⟩ := List.forall_mem_cons.mp h
    simp [withoutSpace_of_isBlank hl, ih hls]

/-- A block of lines without its outer blank lines has the same text. -/
theorem withoutSpace_joinLines_stripBlankLines (ls : List String) :
  withoutSpace (joinLines (stripBlankLines ls)) = withoutSpace (String.join ls)
  := by
  obtain ⟨front, back, hls, hfront, hback⟩ := exists_eq_append_strip_append isBlank ls
  calc withoutSpace (joinLines (stripBlankLines ls))
    _ = withoutSpace (String.join (stripBlankLines ls)) :=
      withoutSpace_intercalate (by decide +kernel) _
    _ = withoutSpace (String.join (front ++ stripBlankLines ls ++ back)) := by
      simp [String.join_append, withoutSpace_join_of_blank hfront, withoutSpace_join_of_blank hback]
    _ = withoutSpace (String.join ls) := congrArg (fun ls => withoutSpace (String.join ls)) hls.symm

end Gallery.Text
