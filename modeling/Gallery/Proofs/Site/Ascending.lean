import Gallery.Files.Path
import Gallery.Proofs.Text.Bytes
import Mathlib.Data.List.Nodup

/-!
# Paths in the order of names

Paths ascend if the names to which they lead do, compared by their bytes.  Paths that ascend are
different, and there is only one way to list the same paths so (`Ascending.eq_of_mem_iff`).  Paths
are made to ascend by sorting them, if they are told apart by their names
(`ascending_sortedByName`).
-/

namespace Gallery

open Files Text

/-- The names to which the paths lead ascend, compared by their bytes. -/
def Ascending (paths : List String) : Prop :=
  paths.Pairwise fun a b => bytes (Path.baseName a) < bytes (Path.baseName b)

namespace Ascending

variable {as bs : List String}

theorem nodup (h : Ascending as) :
  as.Nodup
  := by
  apply List.Pairwise.imp _ h
  rintro a b hlt rfl
  apply bytes_lt_asymm hlt hlt

/-- Paths with ascending names are ordered in one way only. -/
theorem eq_of_mem_iff (has : Ascending as) (hbs : Ascending bs) (h : ∀ path, path ∈ as ↔ path ∈ bs) :
  as = bs
  := by
  apply List.Perm.eq_of_pairwise _ has hbs
  · rw [List.perm_ext_iff_of_nodup has.nodup hbs.nodup]
    exact h
  · intro a b _ _ hab hba
    exact absurd hba (bytes_lt_asymm hab)

theorem filter (h : Ascending as) (p : String → Bool) :
  Ascending (as.filter p)
  := List.Pairwise.filter p h

end Ascending

/-! ### Sorting -/

/-- What has been sorted by a text is ordered by it. -/
theorem pairwise_mergeSort_by {α : Type} (f : α → String) (as : List α) :
  (as.mergeSort fun a b => f a ≤ f b).Pairwise fun a b => f a ≤ f b
  := by
  apply (List.pairwise_mergeSort _ _ _).imp
  · intro a b h
    simpa using h
  · intro a b d hab hbd
    rw [decide_eq_true_eq] at hab hbd ⊢
    apply String.le_trans hab hbd
  · intro a b
    simpa using String.le_total (f a) (f b)

/-- Texts that are ordered ascend if each is there once. -/
theorem pairwise_lt_of_nodup {texts : List String} (hle : texts.Pairwise fun a b => a ≤ b)
    (hnodup : texts.Nodup) :
  texts.Pairwise fun a b => a < b
  := by
  rw [List.Nodup] at hnodup
  apply (hle.and hnodup).imp
  rintro a b ⟨hle, hne⟩
  rw [← String.not_le]
  intro hge
  apply hne (String.le_antisymm hle hge)

theorem ascending_of_names {paths : List String}
    (h : (paths.map Path.baseName).Pairwise fun a b => a < b) :
  Ascending paths
  := (List.pairwise_map.mp h).imp bytes_lt

/-- The paths in the order of the names to which they lead. -/
def sortedByName (paths : List String) : List String :=
  paths.mergeSort fun a b => Path.baseName a ≤ Path.baseName b

@[simp]
theorem mem_sortedByName {path : String} {paths : List String} :
  path ∈ sortedByName paths ↔ path ∈ paths
  := List.mem_mergeSort

/-- Sorted paths within one directory ascend if they are different. -/
theorem ascending_sortedByName {dir : String} {paths : List String} (hnodup : paths.Nodup)
    (hjoin : ∀ path ∈ paths, path = Path.join dir (Path.baseName path)) :
  Ascending (sortedByName paths)
  := by
  have hnames : (paths.map Path.baseName).Nodup := by
    apply hnodup.map_on
    intro a ha b hb heq
    rw [hjoin a ha, hjoin b hb, heq]
  apply ascending_of_names
  apply pairwise_lt_of_nodup
  · rw [List.pairwise_map]
    apply pairwise_mergeSort_by
  · apply ((List.mergeSort_perm _ _).map _).nodup_iff.mpr hnames

end Gallery
