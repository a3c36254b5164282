import Mathlib.Data.List.DropRight
import Mathlib.Data.List.TakeWhile
import Gallery.Text.Basic

/-!
# Stripped lists

`strip p` takes away what satisfies `p` at both ends of a list and nothing else: the list is its
strip between two lists whose elements satisfy `p` (`exists_eq_append_strip_append`), and the ends
of the strip do not satisfy `p`.  So a text is blank exactly when its trim is empty
(`trim_eq_empty_iff`).
-/

namespace Gallery.Text

section

variable {α : Type} {p : α → Bool} {xs : List α}

theorem strip_eq_rdropWhile (p : α → Bool) (xs : List α) :
  strip p xs = (xs.dropWhile p).rdropWhile p
  := rfl

/-- A list is its strip between two lists whose elements satisfy `p`. -/
theorem exists_eq_append_strip_append (p : α → Bool) (xs : List α) :
  ∃ front back, xs = front ++ strip p xs ++ back
    ∧ (∀ x ∈ front, p x = true) ∧ ∀ x ∈ back, p x = true
  := by
  use xs.takeWhile p, (xs.dropWhile p).rtakeWhile p
  constructor
  · rw [strip_eq_rdropWhile, List.append_assoc, List.rdropWhile_append_rtakeWhile,
      List.takeWhile_append_dropWhile]
  · constructor
    · intro x hx
      apply List.mem_takeWhile_imp hx
    · intro x hx
      apply List.mem_rtakeWhile_imp hx

/-- Nothing is left exactly of the lists whose elements satisfy `p`. -/
theorem strip_eq_nil_iff (p : α → Bool) (xs : List α) :
  strip p xs = [] ↔ ∀ x ∈ xs, p x = true
  := by
  constructor
  · intro hnil x hx
    obtain ⟨front, back, hxs, hfront, hback⟩ := exists_eq_append_strip_append p xs
    rw [hxs, hnil, List.append_nil, List.mem_append] at hx
    obtain hx | hx := hx
    · apply hfront x hx
    · apply hback x hx
  · intro h
    rw [strip, List.dropWhile_eq_nil_iff.mpr h]
    rfl

theorem mem_of_mem_strip {x : α} (h : x ∈ strip p xs) :
  x ∈ xs
  := by
  obtain ⟨front, back, hxs, -, -⟩ := exists_eq_append_strip_append p xs
  rw [hxs]
  simp [h]

/-- Of what does not satisfy `p` everything is kept, in order. -/
theorem filter_strip {q : α → Bool} (h : ∀ x, p x = true → q x = false) (xs : List α) :
  (strip p xs).filter q = xs.filter q
  := by
  obtain ⟨front, back, hxs, hfront, hback⟩ := exists_eq_append_strip_append p xs
  have hnone : ∀ ys : List α, (∀ y ∈ ys, p y = true) → ys.filter q = [] := by
    intro ys hys
    rw [List.filter_eq_nil_iff]
    intro y hy
    simp [h y (hys y hy)]
  calc (strip p xs).filter q
    _ = (front ++ strip p xs ++ back).filter q := by
      rw [List.filter_append, List.filter_append, hnone front hfront, hnone back hback,
        List.nil_append, List.append_nil]
    _ = xs.filter q := by rw [← hxs]

/-! ### The ends of a strip -/

theorem head?_strip (p : α → Bool) (xs : List α) :
  ∀ x ∈ (strip p xs).head?, p x = false
  := by
  intro x hx
  obtain ⟨back, hback⟩ : strip p xs <+: xs.dropWhile p := List.rdropWhile_prefix p _
  have hhead := List.head?_dropWhile_not p xs
  rw [← hback, List.head?_append, hx] at hhead
  simpa using hhead

theorem getLast?_strip (p : α → Bool) (xs : List α) :
  ∀ x ∈ (strip p xs).getLast?, p x = false
  := by
  intro x hx
  rw [strip, List.getLast?_reverse] at hx
  have hhead := List.head?_dropWhile_not p (xs.dropWhile p).reverse
  rw [hx] at hhead
  simpa using hhead

theorem takeWhile_eq_nil_of_head? (h : ∀ x ∈ xs.head?, p x = false) :
  xs.takeWhile p = []
  := by
  cases xs with
  | nil => rfl
  | cons x xs => rw [List.takeWhile_cons_of_neg (by simp [h x rfl])]

theorem dropWhile_eq_self_of_head? (h : ∀ x ∈ xs.head?, p x = false) :
  xs.dropWhile p = xs
  := by
  cases xs with
  | nil => rfl
  | cons x xs => rw [List.dropWhile_cons_of_neg (by simp [h x rfl])]

/-- A list whose ends do not satisfy `p` is its own strip. -/
theorem strip_eq_self (hhead : ∀ x ∈ xs.head?, p x = false)
    (hlast : ∀ x ∈ xs.getLast?, p x = false) :
  strip p xs = xs
  := by
  rw [strip_eq_rdropWhile, dropWhile_eq_self_of_head? hhead, List.rdropWhile_eq_self_iff]
  intro hne
  simp [hlast _ (List.getLast?_eq_some_getLast hne)]

@[simp]
theorem strip_strip (p : α → Bool) (xs : List α) :
  strip p (strip p xs) = strip p xs
  := strip_eq_self (head?_strip p xs) (getLast?_strip p xs)

/-! ### Strips of what is put together -/

theorem strip_append_left {front : List α} (h : ∀ x ∈ front, p x = true) :
  strip p (front ++ xs) = strip p xs
  := by
  rw [strip, List.dropWhile_append_of_pos h, strip]

theorem strip_append_right {back : List α} (h : ∀ x ∈ back, p x = true) :
  strip p (xs ++ back) = strip p xs
  := by
  rw [strip, strip, List.dropWhile_append]
  split
  case isTrue hnil =>
    rw [List.isEmpty_iff.mp hnil, List.dropWhile_eq_nil_iff.mpr h]
  case isFalse =>
    rw [List.reverse_append, List.dropWhile_append_of_pos (by simpa using h)]

/-- What follows a list that is its own strip is stripped at its end only. -/
theorem exists_strip_append_eq (hxs : strip p xs = xs) (hne : xs ≠ []) (ys : List α) :
  ∃ rest, strip p (xs ++ ys) = xs ++ rest ∧ strip p rest = strip p ys
  := by
  obtain ⟨front, back, hys, hfront, hback⟩ := exists_eq_append_strip_append p ys
  by_cases hnil : strip p ys = []
  · use []
    constructor
    · rw [strip_append_right ((strip_eq_nil_iff p ys).mp hnil), hxs, List.append_nil]
    · rw [hnil]
      rfl
  · use front ++ strip p ys
    constructor
    · calc strip p (xs ++ ys)
        _ = strip p (xs ++ (front ++ strip p ys) ++ back) := by
          rw [List.append_assoc, ← hys]
        _ = strip p (xs ++ (front ++ strip p ys)) := strip_append_right hback
        _ = xs ++ (front ++ strip p ys) := by
          apply strip_eq_self
          · rw [List.head?_append_of_ne_nil _ hne, ← hxs]
            apply head?_strip
          · rw [← List.append_assoc, List.getLast?_append_of_ne_nil _ hnil]
            apply getLast?_strip
    · rw [strip_append_left hfront, strip_strip]

theorem strip_map {β : Type} (p : β → Bool) (f : α → β) (xs : List α) :
  strip p (xs.map f) = (strip (p ∘ f) xs).map f
  := by
  rw [strip, List.dropWhile_map, ← List.map_reverse, List.dropWhile_map, ← List.map_reverse, strip]

end

theorem isSpace_of_mem_blank {c : Char} (h : c ∈ " ".toList) :
  isSpace c = true
  := by
  obtain rfl : c = ' ' := by
    simpa using h
  decide +kernel

@[simp]
theorem trim_trim (s : String) :
  trim (trim s) = trim s
  := by
  rw [← String.toList_inj]
  simp

/-- The trim of a text is empty exactly when the text is blank. -/
theorem trim_eq_empty_iff (s : String) :
  trim s = "" ↔ isBlank s = true
  := by
  rw [← String.toList_inj, toList_trim, isBlank, List.all_eq_true]
  apply strip_eq_nil_iff

@[simp]
theorem isBlank_trim (s : String) :
  isBlank (trim s) = isBlank s
  := by
  rw [Bool.eq_iff_iff, ← trim_eq_empty_iff, ← trim_eq_empty_iff, trim_trim]

end Gallery.Text
