import Gallery.Proofs.Text.Strip

/-!
# Slices

A slice of a list, `slice?`, is given by the indices of its first and of its last element, and there
is none if these do not stand in this order within the list.  The extent of a list goes from its
first to its last element that does not satisfy `p`, and a search from either end finds it,
`extent?`.  The strip of a list is the slice for its extent, so this slice is always there
(`slice?_extent`).
-/

namespace Gallery.Text

section

variable {α : Type} {p : α → Bool} {xs : List α}

/-- The elements from the index `first` to the index `last`, both included; `none` if these indices
do not stand in this order within the list. -/
def slice? (xs : List α) (first last : Nat) : Option (List α) :=
  if first ≤ last ∧ last < xs.length then
    some ((xs.drop first).take (last + 1 - first))
  else
    none

/-- The index of the last element that satisfies `q`, by a search from the end of the list. -/
def findLastIdx? (q : α → Bool) (xs : List α) : Option Nat :=
  (xs.reverse.findIdx? q).map (xs.length - 1 - ·)

/-- The indices of the first and of the last element that does not satisfy `p`, by a search from
either end of the list. -/
def extent? (p : α → Bool) (xs : List α) : Option (Nat × Nat) :=
  match xs.findIdx? (!p ·) with
  | none => none
  | some first => some (first, (findLastIdx? (!p ·) xs).getD first)

/-- The elements at `first` and at `last` do not satisfy `p`, and all others that do not satisfy `p`
stand between them. -/
structure IsExtent (p : α → Bool) (xs : List α) (first last : Nat) : Prop where
  first_le_last : first ≤ last
  last_lt_length : last < xs.length
  at_first : ∀ x ∈ xs[first]?, p x = false
  at_last : ∀ x ∈ xs[last]?, p x = false
  between : ∀ i, ∀ x ∈ xs[i]?, p x = false → first ≤ i ∧ i ≤ last

/-! ### Searches -/

theorem findIdx?_append_of_head? {front rest : List α} (hfront : ∀ x ∈ front, p x = true)
    (hne : rest ≠ []) (hhead : ∀ x ∈ rest.head?, p x = false) :
  (front ++ rest).findIdx? (!p ·) = some front.length
  := by
  obtain ⟨x, rest, rfl⟩ := List.exists_cons_of_ne_nil hne
  have hnone : front.findIdx? (!p ·) = none := by
    rw [List.findIdx?_eq_none_iff]
    intro y hy
    rw [hfront y hy, Bool.not_true]
  have hx : p x = false := hhead x rfl
  rw [List.findIdx?_append, hnone, Option.none_or, List.findIdx?_cons, if_pos (by rw [hx]; rfl),
    Option.map_some, Nat.zero_add]

/-- Nothing is found exactly when all elements satisfy `p`. -/
theorem extent?_eq_none_iff (p : α → Bool) (xs : List α) :
  extent? p xs = none ↔ ∀ x ∈ xs, p x = true
  := by
  have hnone : extent? p xs = none ↔ xs.findIdx? (!p ·) = none := by
    rw [extent?]
    split
    case h_1 h => simp [h]
    case h_2 h => simp [h]
  rw [hnone, List.findIdx?_eq_none_iff]
  simp

section

variable {front kept back : List α} (hfront : ∀ x ∈ front, p x = true)
  (hback : ∀ x ∈ back, p x = true) (hne : kept ≠ []) (hhead : ∀ x ∈ kept.head?, p x = false)
  (hlast : ∀ x ∈ kept.getLast?, p x = false)

include hne

theorem slice?_append :
  slice? (front ++ kept ++ back) front.length (front.length + kept.length - 1) = some kept
  := by
  have hlength : 0 < kept.length := List.length_pos_iff.mpr hne
  have hbounds : front.length ≤ front.length + kept.length - 1
      ∧ front.length + kept.length - 1 < (front ++ kept ++ back).length := by
    rw [List.length_append, List.length_append]
    omega
  have hcount : front.length + kept.length - 1 + 1 - front.length = kept.length := by
    omega
  rw [slice?, if_pos hbounds, hcount, List.append_assoc, List.drop_left, List.take_left]

include hfront hback hhead hlast

/-- The searches from both ends stop at what stands between elements that satisfy `p`. -/
theorem extent?_append :
  extent? p (front ++ kept ++ back) = some (front.length, front.length + kept.length - 1)
  := by
  have hfirst : (front ++ kept ++ back).findIdx? (!p ·) = some front.length := by
    rw [List.append_assoc]
    apply findIdx?_append_of_head? hfront (by simp [hne])
    rwa [List.head?_append_of_ne_nil _ hne]
  have hreverse : (front ++ kept ++ back).reverse.findIdx? (!p ·) = some back.length := by
    rw [List.reverse_append, List.reverse_append, ← List.length_reverse]
    apply findIdx?_append_of_head?
    · simpa using hback
    · simp [hne]
    · rw [List.head?_append_of_ne_nil _ (by simpa using hne), List.head?_reverse]
      exact hlast
  have hindex : (front ++ kept ++ back).length - 1 - back.length
      = front.length + kept.length - 1 := by
    rw [List.length_append, List.length_append]
    omega
  rw [extent?, hfirst, findLastIdx?, hreverse, Option.map_some, hindex]
  rfl

theorem isExtent_append :
  IsExtent p (front ++ kept ++ back) front.length (front.length + kept.length - 1)
  := by
  have hlength : 0 < kept.length := List.length_pos_iff.mpr hne
  constructor
  · omega
  · rw [List.length_append, List.length_append]
    omega
  · intro x hx
    apply hhead
    rw [List.append_assoc, List.getElem?_append_right (Nat.le_refl _), Nat.sub_self,
      List.getElem?_append_left hlength] at hx
    rw [List.head?_eq_getElem?]
    exact hx
  · intro x hx
    apply hlast
    have hindex : front.length + kept.length - 1 - front.length = kept.length - 1 := by
      omega
    rw [List.append_assoc, List.getElem?_append_right (by omega), hindex,
      List.getElem?_append_left (by omega)] at hx
    rw [List.getLast?_eq_getElem?]
    exact hx
  · intro i x hx hpx
    -- An element before the kept ones or behind them satisfies `p`.
    by_contra hout
    have hp : p x = true := by
      by_cases hi : i < front.length
      · apply hfront
        rw [List.append_assoc, List.getElem?_append_left hi] at hx
        exact List.mem_of_getElem? hx
      · apply hback
        rw [List.getElem?_append_right (by rw [List.length_append]; omega)] at hx
        exact List.mem_of_getElem? hx
    rw [hpx] at hp
    cases hp

end

/-- If some element does not satisfy `p` then the searches find the extent of the list, and the
slice for it is the strip of the list. -/
theorem slice?_extent (h : strip p xs ≠ []) :
  ∃ first last, extent? p xs = some (first, last) ∧ IsExtent p xs first last
    ∧ slice? xs first last = some (strip p xs)
  := by
  obtain ⟨front, back, hxs, hfront, hback⟩ := exists_eq_append_strip_append p xs
  have hhead := head?_strip p xs
  have hlast := getLast?_strip p xs
  generalize strip p xs = kept at h hxs hhead hlast ⊢
  subst hxs
  use front.length, front.length + kept.length - 1
  exact ⟨extent?_append hfront hback h hhead hlast, isExtent_append hfront hback h hhead hlast,
    slice?_append h⟩

end

end Gallery.Text
