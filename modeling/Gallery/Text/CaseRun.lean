/-!
# Case maps

A map between letters of different case is given by runs of letters whose images lie as far
apart as the letters themselves.
-/

namespace Gallery.Text

/-- A run of letters: every `step`-th code point from `first` to `last`.  The images of the
letters lie equally far apart, and `image` is that of the first one. -/
structure CaseRun where
  first : Nat
  last : Nat
  step : Nat
  image : Nat

namespace CaseRun

/-- The image of a code point of the run. -/
def image? (r : CaseRun) (n : Nat) : Option Nat :=
  if r.first ≤ n && n ≤ r.last && (n - r.first) % r.step == 0 then
    some (r.image + (n - r.first))
  else
    none

/-- The code point of the run that has the given image. -/
def source? (r : CaseRun) (n : Nat) : Option Nat :=
  if r.image ≤ n && r.first + (n - r.image) ≤ r.last && (n - r.image) % r.step == 0 then
    some (r.first + (n - r.image))
  else
    none

/-- A code point of the run is found again from its image. -/
theorem source?_of_image? {r : CaseRun} {n m : Nat} (h : r.image? n = some m) :
  r.source? m = some n
  := by
  unfold image? at h
  split at h
  · rename_i hc
    simp only [Bool.and_eq_true, decide_eq_true_eq, beq_iff_eq] at hc
    obtain ⟨⟨hfirst, hlast⟩, hstep⟩ := hc
    cases h
    have hback : r.first + (n - r.first) = n := Nat.add_sub_cancel' hfirst
    simp [source?, hback, hlast, hstep]
  · cases h

/-- What is found from an image has that image. -/
theorem image?_of_source? {r : CaseRun} {n m : Nat} (h : r.source? n = some m) :
  r.image? m = some n
  := by
  unfold source? at h
  split at h
  · rename_i hc
    simp only [Bool.and_eq_true, decide_eq_true_eq, beq_iff_eq] at hc
    obtain ⟨⟨hle, hlast⟩, hstep⟩ := hc
    cases h
    simp [image?, hlast, hstep, Nat.add_sub_cancel' hle]
  · cases h

end CaseRun

end Gallery.Text
