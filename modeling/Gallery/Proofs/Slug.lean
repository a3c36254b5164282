import Gallery.Proofs.Text.Entities
import Gallery.Proofs.Text.LowerCase
import Gallery.Proofs.Text.Strip
import Gallery.Site.Examples

/-!
# Clean ids

The element id of an example is clean, `Clean`: it is there, it consists of lower characters of
words and of hyphens, and it does not start or end with a hyphen.  The clean texts are those that
are their own ids (`ofName_eq_self_iff`), so making an id of an id changes nothing.  Since no
character of a word is blank or has a meaning in markup, an id is written as it is.  The characters
of words are all kept, in order (`filter_isWordChar_ofName`).
-/

namespace Gallery.Text

/-! ### Disjoint sets -/

/-- No interval of the one set meets an interval of the other. -/
def CharSet.apart (s t : CharSet) : Bool :=
  s.intervals.all fun (first, last) =>
    t.intervals.all fun (first', last') => last.blt first' || last'.blt first

theorem CharSet.contains_eq_false_of_apart {s t : CharSet} {c : Char} (h : s.apart t = true)
    (hc : s.contains c = true) :
  t.contains c = false
  := by
  obtain ⟨⟨first, last⟩, hmem, hin⟩ := List.any_eq_true.mp hc
  apply List.any_eq_false.mpr
  rintro ⟨first', last'⟩ hmem'
  have hapart := List.all_eq_true.mp (List.all_eq_true.mp h _ hmem) _ hmem'
  simp only [Bool.and_eq_true, Bool.or_eq_true, decide_eq_true_eq, Nat.blt_eq] at hin hapart ⊢
  omega

theorem isSpace_eq_false_of_isWordChar {c : Char} (h : isWordChar c = true) :
  isSpace c = false
  := by
  apply CharSet.contains_eq_false_of_apart _ h
  decide +kernel

end Gallery.Text

namespace Gallery.Slug

open Gallery.Text

/-- The texts that ids are: some kept characters, all of them lower, with no hyphen at the ends. -/
structure Clean (s : String) : Prop where
  ne_empty : s ≠ ""
  isKept : ∀ c ∈ s.toList, isKept c = true
  isLower : ∀ c ∈ s.toList, IsLower c
  head?_ne : s.toList.head? ≠ some '-'
  getLast?_ne : s.toList.getLast? ≠ some '-'

theorem isKept_iff {c : Char} :
  isKept c = true ↔ isWordChar c = true ∨ c = '-'
  := by
  rw [isKept, Bool.or_eq_true, decide_eq_true_eq]

theorem isWordChar_hyphen :
  isWordChar '-' = false
  := by
  decide +kernel

theorem isSpace_eq_false_of_isKept {c : Char} (h : isKept c = true) :
  isSpace c = false
  := by
  obtain hword | rfl := isKept_iff.mp h
  · apply isSpace_eq_false_of_isWordChar hword
  · decide +kernel

theorem encodeChar_of_isKept {c : Char} (h : isKept c = true) :
  Entity.encodeChar c = [c]
  := by
  fun_cases Entity.encodeChar c with
  | case6 => rfl
  | _ => exact absurd h (by decide +kernel)

/-- Kept characters have no meaning in markup. -/
theorem encode_of_isKept {s : String} (h : ∀ c ∈ s.toList, isKept c = true) :
  Entity.encode s = s
  := by
  rw [← String.toList_inj, Entity.toList_encode]
  calc s.toList.flatMap Entity.encodeChar
    _ = s.toList.flatMap fun c => [c] :=
      List.flatMap_congr fun c hc => encodeChar_of_isKept (h c hc)
    _ = s.toList := List.flatMap_singleton' s.toList

/-! ### Hyphens for what is not kept -/

section Hyphenate

variable {inRun : Bool} {c : Char} {cs : List Char}

theorem mem_hyphenate (h : c ∈ hyphenate inRun cs) :
  c = '-' ∨ c ∈ cs ∧ isKept c = true
  := by
  induction cs generalizing inRun with
  | nil => cases h
  | cons d cs ih =>
    have hrest : ∀ {inRun}, c ∈ hyphenate inRun cs → c = '-' ∨ c ∈ d :: cs ∧ isKept c = true := by
      intro inRun hmem
      obtain hhyphen | ⟨hmem, hkept⟩ := ih hmem
      · exact .inl hhyphen
      · exact .inr ⟨List.mem_cons_of_mem d hmem, hkept⟩
    rw [hyphenate] at h
    split_ifs at h with hd hrun
    · obtain rfl | hmem := List.mem_cons.mp h
      · exact .inr ⟨List.mem_cons_self, hd⟩
      · apply hrest hmem
    · apply hrest h
    · obtain rfl | hmem := List.mem_cons.mp h
      · exact .inl rfl
      · apply hrest hmem

theorem hyphenate_eq_self (h : ∀ c ∈ cs, isKept c = true) :
  hyphenate false cs = cs
  := by
  induction cs with
  | nil => rfl
  | cons c cs ih =>
    obtain ⟨hc, hcs⟩ := List.forall_mem_cons.mp h
    rw [hyphenate, if_pos hc, ih hcs]

/-- The characters of words are kept, and hyphens are none of them. -/
theorem filter_isWordChar_hyphenate (inRun : Bool) (cs : List Char) :
  (hyphenate inRun cs).filter isWordChar = cs.filter isWordChar
  := by
  induction cs generalizing inRun with
  | nil => rfl
  | cons c cs ih =>
    have hdropped : ¬isKept c = true → ¬isWordChar c = true := fun hc hword =>
      hc (isKept_iff.mpr (.inl hword))
    rw [hyphenate]
    split_ifs with hc hrun
    · rw [List.filter_cons, List.filter_cons, ih]
    · rw [ih, List.filter_cons_of_neg (hdropped hc)]
    · rw [List.filter_cons_of_neg (by simp [isWordChar_hyphen]), ih,
        List.filter_cons_of_neg (hdropped hc)]

end Hyphenate

/-! ### Ids are clean -/

/-- An id is the fallback or what is left of the name between hyphens. -/
theorem ofName_cases (name : String) :
  strip (· == '-') (hyphenate false (lower name).toList) = [] ∧ ofName name = fallback
    ∨ ofName name ≠ ""
      ∧ (ofName name).toList = strip (· == '-') (hyphenate false (lower name).toList)
  := by
  rw [ofName]
  split
  case h_1 hnil => exact .inl ⟨hnil, rfl⟩
  case h_2 cs hne =>
    right
    rw [String.toList_ofList, ← String.toList_inj.ne, String.toList_ofList]
    exact ⟨hne, rfl⟩

theorem clean_fallback :
  Clean fallback
  := by
  have hkept : fallback.toList.all Slug.isKept = true := by
    decide +kernel
  have hlower : (fallback.toList.all fun c => IsLower c) = true := by
    decide +kernel
  rw [List.all_eq_true] at hkept hlower
  constructor
  case ne_empty => decide
  case isKept => exact hkept
  case isLower => exact fun c hc => of_decide_eq_true (hlower c hc)
  case head?_ne => decide
  case getLast?_ne => decide

theorem clean_ofName (name : String) :
  Clean (ofName name)
  := by
  obtain ⟨-, hfallback⟩ | ⟨hne, hid⟩ := ofName_cases name
  · rw [hfallback]
    exact clean_fallback
  · have hmem : ∀ c ∈ (ofName name).toList,
        c = '-' ∨ c ∈ (lower name).toList ∧ Slug.isKept c = true := by
      intro c hc
      rw [hid] at hc
      apply mem_hyphenate (mem_of_mem_strip hc)
    constructor
    case ne_empty => exact hne
    case isKept =>
      intro c hc
      obtain rfl | ⟨-, hkept⟩ := hmem c hc
      · apply isKept_iff.mpr (.inr rfl)
      · exact hkept
    case isLower =>
      intro c hc
      obtain rfl | ⟨hlower, -⟩ := hmem c hc
      · decide +kernel
      · apply isLower_of_mem_lower hlower
    case head?_ne =>
      rw [hid]
      intro hhead
      exact absurd (head?_strip _ _ _ hhead) (by decide)
    case getLast?_ne =>
      rw [hid]
      intro hlast
      exact absurd (getLast?_strip _ _ _ hlast) (by decide)

/-- The first character of a clean text is one of a word. -/
theorem Clean.exists_isWordChar {s : String} (h : Clean s) :
  ∃ c ∈ s.toList, isWordChar c = true
  := by
  have hne : s.toList ≠ [] := by
    rw [Ne, String.toList_eq_nil_iff]
    exact h.ne_empty
  use s.toList.head hne, List.head_mem hne
  obtain hword | hhyphen := isKept_iff.mp (h.isKept _ (List.head_mem hne))
  · exact hword
  · have hhead := List.head?_eq_some_head hne
    rw [hhyphen] at hhead
    exact absurd hhead h.head?_ne

/-- A clean text is its own id. -/
theorem Clean.ofName_eq {s : String} (h : Clean s) :
  ofName s = s
  := by
  have hne : ∀ {end? : Option Char}, end? ≠ some '-' → ∀ c ∈ end?, (c == '-') = false := by
    rintro _ hend c rfl
    rw [beq_eq_false_iff_ne]
    rintro rfl
    exact hend rfl
  have hstrip : strip (· == '-') (hyphenate false (lower s).toList) = s.toList := by
    rw [lower_eq_self h.isLower, hyphenate_eq_self h.isKept,
      strip_eq_self (hne h.head?_ne) (hne h.getLast?_ne)]
  obtain ⟨hnil, -⟩ | ⟨-, hid⟩ := ofName_cases s
  · rw [hstrip, String.toList_eq_nil_iff] at hnil
    exact absurd hnil h.ne_empty
  · rw [← String.toList_inj, hid, hstrip]

/-- The clean texts are the texts that are their own ids. -/
theorem ofName_eq_self_iff {s : String} :
  ofName s = s ↔ Clean s
  := by
  constructor
  · intro h
    rw [← h]
    apply clean_ofName
  · apply Clean.ofName_eq

/-! ### What an id keeps of a name -/

theorem filter_isWordChar_strip (cs : List Char) :
  (strip (· == '-') (hyphenate false cs)).filter isWordChar = cs.filter isWordChar
  := by
  rw [filter_strip, filter_isWordChar_hyphenate]
  intro c hc
  rw [beq_iff_eq.mp hc, isWordChar_hyphen]

/-- The characters of words are found in the id of a name in lower case, in order; without any the
id is the fallback. -/
theorem filter_isWordChar_ofName (name : String) :
  (ofName name).toList.filter isWordChar =
    if (lower name).toList.any isWordChar then (lower name).toList.filter isWordChar
    else fallback.toList
  := by
  have hfilter := filter_isWordChar_strip (lower name).toList
  obtain ⟨hnil, hfallback⟩ | ⟨-, hid⟩ := ofName_cases name
  · rw [hnil] at hfilter
    have hnone : ¬(lower name).toList.any isWordChar = true := by
      rw [List.any_eq_true]
      rintro ⟨c, hc, hword⟩
      exact List.filter_eq_nil_iff.mp hfilter.symm c hc hword
    rw [if_neg hnone, hfallback]
    decide +kernel
  · rw [← hid] at hfilter
    obtain ⟨c, hc, hword⟩ := (clean_ofName name).exists_isWordChar
    have hmem : c ∈ (lower name).toList.filter isWordChar := by
      rw [← hfilter]
      apply List.mem_filter.mpr ⟨hc, hword⟩
    rw [if_pos (List.any_eq_true.mpr ⟨c, List.mem_filter.mp hmem⟩), hfilter]

/-- The id of every name is clean and stable.  It is not empty; it consists of characters of words
and of hyphens, so that it has no white space and is written as it is; there are no hyphens at its
ends; and it is its own id.  Its characters of words are those of the name in lower case, if there
are any. -/
theorem ofName_clean_and_stable (name : String) :
  ofName name ≠ ""
    ∧ (∀ c ∈ (ofName name).toList, isWordChar c = true ∨ c = '-')
    ∧ (∀ c ∈ (ofName name).toList, isSpace c = false)
    ∧ Entity.encode (ofName name) = ofName name
    ∧ (ofName name).toList.head? ≠ some '-'
    ∧ (ofName name).toList.getLast? ≠ some '-'
    ∧ ofName (ofName name) = ofName name
    ∧ (ofName name).toList.filter isWordChar =
      if (lower name).toList.any isWordChar then (lower name).toList.filter isWordChar
      else fallback.toList
  := by
  have hclean := clean_ofName name
  use hclean.ne_empty
  constructor
  · intro c hc
    apply isKept_iff.mp (hclean.isKept c hc)
  · constructor
    · intro c hc
      apply isSpace_eq_false_of_isKept (hclean.isKept c hc)
    · constructor
      · apply encode_of_isKept hclean.isKept
      · exact ⟨hclean.head?_ne, hclean.getLast?_ne, hclean.ofName_eq, filter_isWordChar_ofName name⟩

end Gallery.Slug
