import Mathlib.Data.List.Infix
import Gallery.Proofs.Text.Bytes
import Gallery.Proofs.Text.Entities
import Gallery.Text.Basic

/-!
# Searching for marks

What stands behind each occurrence of a mark in a text is `behindEach`, and what stands before the
first is `before?`; together they cut out what stands between two marks, `between?`.

In a text that is `Clear` of a mark no occurrence starts, whatever stands behind the text, so it can
be skipped (`behindEach_append_of_clear`).  For texts that are given this is decided, and a text
without the first character of the mark is clear (`clear_of_not_mem`).  So what is put between marks
is found between them if it is clear (`between?_append`).
-/

namespace Gallery.Text

/-- What stands behind the mark in a text that starts with it. -/
def behind? (mark s : String) : Option String :=
  (s.toList.dropPrefix? mark.toList).map String.ofList

/-- What stands behind each occurrence of the mark. -/
def behindEach (mark s : String) : List String :=
  s.toList.tails.filterMap fun cs => behind? mark (String.ofList cs)

/-- What stands before the first occurrence of the mark. -/
def before? (mark s : String) : Option String :=
  (s.toList.dropInfix? mark.toList).map fun parts => String.ofList parts.1

/-- What stands between each occurrence of the opening mark and the closing mark that comes next, if
there is one behind every opening mark. -/
def between? (opening closing s : String) : Option (List String) :=
  (behindEach opening s).mapM (before? closing)

/-- The number of occurrences of the mark. -/
def occurrences (mark s : String) : Nat :=
  (behindEach mark s).length

/-! ### Texts without marks -/

/-- Neither list starts with the other, so they differ whatever stands behind them. -/
def Differ {α : Type} (xs ys : List α) : Prop :=
  ¬ xs <+: ys ∧ ¬ ys <+: xs

/-- No occurrence of the mark starts in the text, whatever stands behind it. -/
def Clear (mark s : String) : Prop :=
  ∀ cs ∈ s.toList.tails, cs ≠ [] → Differ mark.toList cs

/-- The text is not empty, and no occurrence of it starts inside of another. -/
structure IsMark (mark : String) : Prop where
  ne_empty : mark ≠ ""
  clear_tail : Clear mark (String.ofList mark.toList.tail)

instance {α : Type} [DecidableEq α] (xs ys : List α) : Decidable (Differ xs ys) :=
  inferInstanceAs (Decidable (_ ∧ _))

theorem Differ.of_flatMap {α β : Type} {xs ys : List α} {f : α → List β}
    (h : Differ (xs.flatMap f) (ys.flatMap f)) :
  Differ xs ys
  := by
  have hflatMap : ∀ {xs ys : List α}, xs <+: ys → xs.flatMap f <+: ys.flatMap f := by
    rintro xs _ ⟨zs, rfl⟩
    rw [List.flatMap_append]
    apply List.prefix_append
  exact ⟨fun hprefix => h.1 (hflatMap hprefix), fun hprefix => h.2 (hflatMap hprefix)⟩

/-- A text is clear of a mark if its bytes are. -/
theorem clear_of_bytes {mark s : String}
    (h : ∀ bs ∈ (bytes s).tails, bs ≠ [] → Differ (bytes mark) bs) :
  Clear mark s
  := by
  intro cs hcs hne
  obtain ⟨earlier, hsuffix⟩ := (List.mem_tails _ _).mp hcs
  obtain ⟨c, cs, rfl⟩ := List.exists_cons_of_ne_nil hne
  apply Differ.of_flatMap (f := String.utf8EncodeChar)
  rw [← bytes_eq_flatMap]
  apply h
  · rw [List.mem_tails, bytes_eq_flatMap, ← hsuffix, List.flatMap_append]
    apply List.suffix_append
  · rw [List.flatMap_cons, ne_eq, List.append_eq_nil_iff, not_and]
    intro hnil
    exact absurd hnil (by simp [utf8EncodeChar_eq])

/-- The bytes of a text that is given are found faster than its characters, so they are looked at
first. -/
instance (mark s : String) : Decidable (Clear mark s) :=
  if h : ∀ bs ∈ (bytes s).tails, bs ≠ [] → Differ (bytes mark) bs then
    isTrue (clear_of_bytes h)
  else
    inferInstanceAs (Decidable (∀ cs ∈ s.toList.tails, cs ≠ [] → Differ mark.toList cs))

instance (mark : String) : Decidable (IsMark mark) :=
  decidable_of_iff (mark ≠ "" ∧ Clear mark (String.ofList mark.toList.tail))
    ⟨fun h => ⟨h.1, h.2⟩, fun h => ⟨h.1, h.2⟩⟩

theorem Differ.append {α : Type} {xs ys : List α} (h : Differ xs ys) (xs' ys' : List α) :
  Differ (xs ++ xs') (ys ++ ys')
  := by
  have hnone : ∀ zs, ¬ (xs <+: zs ∧ ys <+: zs) := by
    rintro zs ⟨hxs, hys⟩
    obtain hprefix | hprefix := List.prefix_or_prefix_of_prefix hxs hys
    · exact h.1 hprefix
    · exact h.2 hprefix
  constructor
  · intro hprefix
    exact hnone _ ⟨(List.prefix_append xs xs').trans hprefix, List.prefix_append ys ys'⟩
  · intro hprefix
    exact hnone _ ⟨List.prefix_append xs xs', (List.prefix_append ys ys').trans hprefix⟩

theorem Clear.append {mark s t : String} (hs : Clear mark s) (ht : Clear mark t) :
  Clear mark (s ++ t)
  := by
  intro cs hcs hne
  rw [String.toList_append, List.tails_append, List.mem_append, List.mem_map] at hcs
  -- A tail of both texts is one of the second text, or one of the first with the second behind it.
  obtain ⟨ds, hds, rfl⟩ | hcs := hcs
  · by_cases hnil : ds = []
    · rw [hnil, List.nil_append] at hne ⊢
      apply ht _ ((List.mem_tails _ _).mpr List.suffix_rfl) hne
    · rw [← List.append_nil mark.toList]
      apply (hs ds hds hnil).append
  · apply ht cs (List.mem_of_mem_tail hcs) hne

/-- What is clear of the start of a mark is clear of the mark. -/
theorem Clear.mark_append {mark s : String} (h : Clear mark s) (rest : String) :
  Clear (mark ++ rest) s
  := by
  intro cs hcs hne
  rw [String.toList_append, ← List.append_nil cs]
  apply (h cs hcs hne).append

/-- A mark with text behind it that is clear of the mark is a mark. -/
theorem IsMark.append {mark rest : String} (h : IsMark mark) (hrest : Clear mark rest) :
  IsMark (mark ++ rest)
  := by
  have hne : mark.toList ≠ [] := by
    rw [ne_eq, String.toList_eq_nil_iff]
    exact h.ne_empty
  constructor
  · intro hempty
    rw [← String.toList_inj, String.toList_append] at hempty
    exact hne (List.append_eq_nil_iff.mp hempty).1
  · have htail : String.ofList (mark ++ rest).toList.tail
        = String.ofList mark.toList.tail ++ rest := by
      rw [String.toList_append, List.tail_append_of_ne_nil hne, String.ofList_append,
        String.ofList_toList]
    rw [htail]
    exact (h.clear_tail.append hrest).mark_append rest

/-- A text without the first character of a mark is clear of it. -/
theorem clear_of_not_mem {mark s : String} {c : Char} (hmark : mark.toList.head? = some c)
    (h : c ∉ s.toList) :
  Clear mark s
  := by
  intro cs hcs hne
  obtain ⟨rest, hrest⟩ : ∃ rest, mark.toList = c :: rest :=
    ⟨_, List.eq_cons_of_mem_head? hmark⟩
  obtain ⟨d, ds, rfl⟩ := List.exists_cons_of_ne_nil hne
  have hdc : d ≠ c := by
    rintro rfl
    exact h (((List.mem_tails _ _).mp hcs).subset List.mem_cons_self)
  rw [hrest]
  constructor
  · intro hprefix
    exact hdc (List.cons_prefix_cons.mp hprefix).1.symm
  · intro hprefix
    exact hdc (List.cons_prefix_cons.mp hprefix).1

theorem clear_empty (mark : String) :
  Clear mark ""
  := by
  intro cs hcs hne
  exact absurd (List.suffix_nil.mp ((List.mem_tails _ _).mp hcs)) hne

/-- Lines are clear of a mark if each of them and a line feed is. -/
theorem clear_endLines {mark : String} {ls : List String} (hbreak : Clear mark "\n")
    (h : ∀ l ∈ ls, Clear mark l) :
  Clear mark (endLines ls)
  := by
  induction ls with
  | nil => apply clear_empty
  | cons l ls ih =>
    obtain ⟨hl, hls⟩ := List.forall_mem_cons.mp h
    rw [endLines_cons]
    exact (hl.append hbreak).append (ih hls)

theorem clear_intercalate {mark sep : String} {ss : List String} (hsep : Clear mark sep)
    (h : ∀ s ∈ ss, Clear mark s) :
  Clear mark (sep.intercalate ss)
  := by
  induction ss with
  | nil => apply clear_empty
  | cons s ss ih =>
    obtain ⟨hs, hss⟩ := List.forall_mem_cons.mp h
    by_cases hnil : ss = []
    · subst hnil
      simpa using hs
    · rw [String.intercalate_cons_of_ne_nil hnil]
      exact (hs.append hsep).append (ih hss)

/-- No tag starts in a text that is written with entities. -/
theorem clear_entity {mark : String} (hmark : mark.toList.head? = some '<') (s : String) :
  Clear mark (Entity.encode s)
  := clear_of_not_mem hmark (Entity.less_notMem_encode s)

/-! ### Occurrences -/

theorem behind?_append (mark t : String) :
  behind? mark (mark ++ t) = some t
  := by
  rw [behind?, String.toList_append, List.dropPrefix?_append_of_beq _ (beq_self_eq_true _),
    Option.map_some, String.ofList_toList]

theorem behind?_eq_none {mark s : String} (h : ¬ mark.toList <+: s.toList) :
  behind? mark s = none
  := by
  rw [behind?, Option.map_eq_none_iff, Option.eq_none_iff_forall_ne_some]
  intro rest hrest
  obtain ⟨mark', hs, heq⟩ := List.dropPrefix?_eq_some_iff.mp hrest
  rw [beq_iff_eq] at heq
  exact h ⟨rest, by rw [hs, heq]⟩

theorem behindEach_ofList_cons (mark : String) (c : Char) (cs : List Char) :
  behindEach mark (String.ofList (c :: cs))
    = (behind? mark (String.ofList (c :: cs))).toList ++ behindEach mark (String.ofList cs)
  := by
  rw [behindEach, behindEach, String.toList_ofList, String.toList_ofList, List.tails_cons,
    List.filterMap_cons]
  split
  · rename_i h
    rw [h, Option.toList_none, List.nil_append]
  · rename_i h
    rw [h, Option.toList_some, List.singleton_append]

/-- A text does not start with the mark if it starts with one that is clear of it. -/
theorem behind?_append_of_clear {mark s : String} (h : Clear mark s) (hs : s ≠ "") (t : String) :
  behind? mark (s ++ t) = none
  := by
  have hne : s.toList ≠ [] := by
    rw [ne_eq, String.toList_eq_nil_iff]
    exact hs
  have hdiffer := h s.toList ((List.mem_tails _ _).mpr List.suffix_rfl) hne
  apply behind?_eq_none
  rw [String.toList_append, ← List.append_nil mark.toList]
  exact (hdiffer.append [] t.toList).1

/-- A text that is clear of the mark can be skipped. -/
theorem behindEach_append_of_clear {mark s : String} (h : Clear mark s) (t : String) :
  behindEach mark (s ++ t) = behindEach mark t
  := by
  rw [Clear] at h
  rw [← String.ofList_toList (s := s ++ t), String.toList_append]
  generalize s.toList = cs at h
  induction cs with
  | nil => rw [List.nil_append, String.ofList_toList]
  | cons c cs ih =>
    rw [List.tails_cons, List.forall_mem_cons] at h
    obtain ⟨hdiffer, hrest⟩ := h
    have hnone : behind? mark (String.ofList (c :: cs ++ t.toList)) = none := by
      apply behind?_eq_none
      rw [String.toList_ofList, ← List.append_nil mark.toList]
      exact ((hdiffer (List.cons_ne_nil c cs)).append [] t.toList).1
    rw [List.cons_append, behindEach_ofList_cons, ← List.cons_append, hnone, Option.toList_none,
      List.nil_append, ih hrest]

theorem behindEach_of_clear {mark s : String} (hmark : mark ≠ "") (h : Clear mark s) :
  behindEach mark s = []
  := by
  have hempty : behind? mark "" = none := by
    apply behind?_eq_none
    rw [String.toList_empty, List.prefix_nil, String.toList_eq_nil_iff]
    exact hmark
  rw [← String.append_empty (s := s), behindEach_append_of_clear h, behindEach]
  simp [hempty]

/-- The first occurrence of a mark that stands at the start of the text is the one there. -/
theorem behindEach_append {mark : String} (hmark : IsMark mark) (t : String) :
  behindEach mark (mark ++ t) = t :: behindEach mark t
  := by
  obtain ⟨c, cs, hcs⟩ : ∃ c cs, mark.toList = c :: cs := by
    apply List.exists_cons_of_ne_nil
    rw [ne_eq, String.toList_eq_nil_iff]
    exact hmark.ne_empty
  have hbehind := behind?_append mark t
  have htail := behindEach_append_of_clear hmark.clear_tail t
  rw [hcs, List.tail_cons, ← String.ofList_toList (s := String.ofList cs ++ t),
    String.toList_append, String.toList_ofList] at htail
  rw [← String.ofList_toList (s := mark ++ t), String.toList_append, hcs, List.cons_append]
    at hbehind ⊢
  rw [behindEach_ofList_cons, hbehind, htail, Option.toList_some, List.singleton_append]

/-- What stands before a text does not change the occurrences in it. -/
theorem behindEach_suffix (mark s t : String) :
  behindEach mark t <:+ behindEach mark (s ++ t)
  := by
  rw [← String.ofList_toList (s := s ++ t), String.toList_append]
  induction s.toList with
  | nil => rw [List.nil_append, String.ofList_toList]
  | cons c cs ih =>
    rw [List.cons_append, behindEach_ofList_cons]
    exact ih.trans (List.suffix_append _ _)

/-- A mark that stands before a text that is clear of it is the last one. -/
theorem getLast?_behindEach {mark t : String} (hmark : IsMark mark) (h : Clear mark t)
    (s : String) :
  (behindEach mark (s ++ (mark ++ t))).getLast? = some t
  := by
  have hlast : behindEach mark (mark ++ t) = [t] := by
    rw [behindEach_append hmark, behindEach_of_clear hmark.ne_empty h]
  obtain ⟨front, hfront⟩ := behindEach_suffix mark s (mark ++ t)
  rw [← hfront, hlast, List.getLast?_append]
  rfl

/-- A mark that stands behind a text that is clear of it is the first one. -/
theorem head?_behindEach {mark s : String} (hmark : IsMark mark) (h : Clear mark s) (t : String) :
  (behindEach mark (s ++ (mark ++ t))).head? = some t
  := by
  rw [behindEach_append_of_clear h, behindEach_append hmark, List.head?_cons]

/-- What is clear of the mark before it is what stands before its first occurrence. -/
theorem before?_append {mark s : String} (h : Clear mark s) (t : String) :
  before? mark (s ++ mark ++ t) = some s
  := by
  have hfirst : (s ++ mark ++ t).toList.dropInfix? mark.toList = some (s.toList, t.toList) := by
    rw [List.dropInfix?_eq_some_iff, String.toList_append, String.toList_append]
    constructor
    · exact ⟨mark.toList, rfl, beq_self_eq_true _⟩
    · intro before mark' behind heq hmark'
      rw [beq_iff_eq] at hmark'
      subst hmark'
      by_contra hlength
      rw [List.append_assoc, List.append_assoc] at heq
      -- An earlier occurrence would start inside of the text, which is clear of the mark.
      obtain ⟨inside, hinside, hrest⟩ | ⟨inside, hinside, hrest⟩ :=
        List.append_eq_append_iff.mp heq
      · rw [hinside, List.length_append] at hlength
        omega
      · have hne : inside ≠ [] := by
          rintro rfl
          rw [hinside, List.append_nil] at hlength
          omega
        have hmem : inside ∈ s.toList.tails := by
          rw [List.mem_tails, hinside]
          apply List.suffix_append
        have hdiffer := ((h inside hmem hne).append [] (mark.toList ++ t.toList)).1
        rw [List.append_nil, ← hrest] at hdiffer
        exact hdiffer (List.prefix_append _ _)
  rw [before?, hfirst, Option.map_some, String.ofList_toList]

theorem occurrences_of_clear {mark s : String} (hmark : mark ≠ "") (h : Clear mark s) :
  occurrences mark s = 0
  := by
  rw [occurrences, behindEach_of_clear hmark h, List.length_nil]

theorem occurrences_append_of_clear {mark s : String} (h : Clear mark s) (t : String) :
  occurrences mark (s ++ t) = occurrences mark t
  := by
  rw [occurrences, occurrences, behindEach_append_of_clear h]

/-- A mark between texts that are clear of it is one occurrence. -/
theorem occurrences_append {mark before behind : String} (hmark : IsMark mark)
    (hbefore : Clear mark before) (hbehind : Clear mark behind) (t : String) :
  occurrences mark (before ++ mark ++ behind ++ t) = occurrences mark t + 1
  := by
  rw [String.append_assoc, String.append_assoc, occurrences_append_of_clear hbefore, occurrences,
    behindEach_append hmark, List.length_cons, behindEach_append_of_clear hbehind, occurrences]

/-! ### What stands between marks -/

theorem between?_of_clear {opening s : String} (hopening : opening ≠ "") (h : Clear opening s)
    (closing : String) :
  between? opening closing s = some []
  := by
  rw [between?, behindEach_of_clear hopening h]
  rfl

theorem between?_append_of_clear {opening closing s : String} (h : Clear opening s) (t : String) :
  between? opening closing (s ++ t) = between? opening closing t
  := by
  rw [between?, between?, behindEach_append_of_clear h]

/-- What is put between two marks is found between them. -/
theorem between?_append {opening closing inside : String} (hopening : IsMark opening)
    (hinside : Clear closing inside) (hclear : Clear opening (inside ++ closing)) (t : String) :
  between? opening closing (opening ++ inside ++ closing ++ t)
    = (between? opening closing t).map (inside :: ·)
  := by
  have hbehind : behindEach opening (opening ++ inside ++ closing ++ t)
      = (inside ++ closing ++ t) :: behindEach opening t := by
    rw [String.append_assoc, String.append_assoc, behindEach_append hopening, ← String.append_assoc,
      behindEach_append_of_clear hclear]
  rw [between?, between?, hbehind, List.mapM_cons, before?_append hinside]
  cases (behindEach opening t).mapM (before? closing) with
  | none => rfl
  | some _ => rfl

/-- The text has one occurrence of the opening mark, and `inside` stands between it and the closing
mark. -/
structure Encloses (opening closing inside s : String) : Prop where
  eq_append : ∃ before behind, s = before ++ (opening ++ inside ++ closing ++ behind)
    ∧ Clear opening before ∧ Clear opening (inside ++ closing) ∧ Clear opening behind
  clear_inside : Clear closing inside

theorem Encloses.between?_append {opening closing inside s : String}
    (h : Encloses opening closing inside s) (hopening : IsMark opening) (t : String) :
  between? opening closing (s ++ t) = (between? opening closing t).map (inside :: ·)
  := by
  obtain ⟨before, behind, rfl, hbefore, hinside, hbehind⟩ := h.eq_append
  rw [String.append_assoc, between?_append_of_clear hbefore, String.append_assoc,
    Text.between?_append hopening h.clear_inside hinside, between?_append_of_clear hbehind]

theorem Encloses.between? {opening closing inside s : String} (h : Encloses opening closing inside s)
    (hopening : IsMark opening) :
  between? opening closing s = some [inside]
  := by
  have hend := between?_of_clear hopening.ne_empty (clear_empty opening) closing
  rw [← String.append_empty (s := s), h.between?_append hopening, hend, Option.map_some]

/-- In texts that are put together, what stands between the marks of each is found, in order. -/
theorem between?_join {α : Type} {opening closing : String} {inside text : α → String} {as : List α}
    (hopening : IsMark opening) (h : ∀ a ∈ as, Encloses opening closing (inside a) (text a))
    (t : String) :
  between? opening closing (String.join (as.map text) ++ t)
    = (between? opening closing t).map (as.map inside ++ ·)
  := by
  induction as with
  | nil => simp
  | cons a as ih =>
    obtain ⟨ha, has⟩ := List.forall_mem_cons.mp h
    rw [List.map_cons, String.join_cons, String.append_assoc, ha.between?_append hopening, ih has,
      Option.map_map]
    rfl

end Gallery.Text
