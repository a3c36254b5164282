import Mathlib.Data.List.Nodup
import Gallery.Proofs.Files.MakeDirs
import Gallery.Proofs.Site.Sources

/-!
# The examples of a site

The directories of a site's examples have different names, since they lie in one directory.  An
example has the name of its directory, so the examples that are loaded have different names too
(`nodup_names_of_loadExamples`).

Loading examples succeeds when the phases before the writing do (`loadExamples_yields_iff`).  It
leaves new directories on the way to the output directory and nothing else
(`newDirs_of_loadExamples`), and the files of the examples are the same as before, so the examples
are those of the first tree (`exampleIn_of_loadExamples`).
-/

namespace Gallery

open Files

variable {c : Config} {t t' t₁ : Tree} {e : Failure} {es : List Example} {u : Unit}

/-! ### Directories -/

theorem nodup_eraseDups {α : Type} [BEq α] [LawfulBEq α] (as : List α) :
  as.eraseDups.Nodup
  := by
  induction hn : as.length using Nat.strongRecOn generalizing as with
  | ind n ih =>
    cases as with
    | nil => simp
    | cons a as =>
      rw [List.eraseDups_cons, List.nodup_cons]
      constructor
      · simp
      · apply ih _ _ _ rfl
        rw [← hn, List.length_cons]
        apply Nat.lt_succ_of_le (List.length_filter_le _ _)

theorem nodup_list (t : Tree) (path : String) :
  (t.list path).Nodup
  := by
  rw [Tree.list]
  split
  · rw [Entries.namesAt]
    split
    · apply nodup_eraseDups
    · apply List.nodup_nil
  · apply List.nodup_nil

theorem nodup_dirNames (t : Tree) (dir : String) :
  (dirNames t dir).Nodup
  := by
  apply List.Nodup.filter
  apply List.Nodup.map _ (nodup_list t dir)
  intro m n h
  apply Name.ext h

theorem isPlain_of_mem_dirNames {dir name : String} (h : name ∈ dirNames t dir) :
  Path.IsPlain name
  := by
  obtain ⟨hmem, -⟩ := List.mem_filter.mp h
  obtain ⟨n, -, rfl⟩ := List.mem_map.mp hmem
  apply Path.isPlain_text

/-- The names of the directories of examples. -/
theorem map_baseName_exampleDirs (t : Tree) (dir : String) (only : List Glob.Pattern) :
  (exampleDirs t dir only).map Path.baseName
    = ((dirNames t dir).filter (isSelected only)).mergeSort fun a b => a ≤ b
  := by
  rw [exampleDirs, List.map_map]
  have hname : ∀ name ∈ ((dirNames t dir).filter (isSelected only)).mergeSort fun a b => a ≤ b,
      (Path.baseName ∘ Path.join dir) name = name := by
    intro name hname
    obtain ⟨hmem, -⟩ := List.mem_filter.mp (List.mem_mergeSort.mp hname)
    apply Path.baseName_join dir (isPlain_of_mem_dirNames hmem)
  rw [List.map_congr_left hname, List.map_id']

/-- The directories of examples have different names. -/
theorem nodup_baseName_exampleDirs (t : Tree) (dir : String) (only : List Glob.Pattern) :
  ((exampleDirs t dir only).map Path.baseName).Nodup
  := by
  rw [map_baseName_exampleDirs, (List.mergeSort_perm _ _).nodup_iff]
  apply (nodup_dirNames t dir).filter

theorem isPlain_baseName_exampleDirs {dir name : String} {only : List Glob.Pattern}
    (h : name ∈ (exampleDirs t dir only).map Path.baseName) :
  Path.IsPlain name
  := by
  rw [map_baseName_exampleDirs, List.mem_mergeSort] at h
  obtain ⟨hmem, -⟩ := List.mem_filter.mp h
  apply isPlain_of_mem_dirNames hmem

theorem isDir_of_mem_exampleDirs {dir base : String} {only : List Glob.Pattern}
    (h : dir ∈ exampleDirs t base only) :
  t.isDir dir = true
  := by
  obtain ⟨name, hname, rfl⟩ := List.mem_map.mp h
  obtain ⟨hmem, -⟩ := List.mem_filter.mp (List.mem_mergeSort.mp hname)
  obtain ⟨-, hdir⟩ := List.mem_filter.mp hmem
  apply hdir

theorem isPlain_baseName_of_mem {dir base : String} {only : List Glob.Pattern}
    (h : dir ∈ exampleDirs t base only) :
  Path.IsPlain (Path.baseName dir)
  := isPlain_baseName_exampleDirs (List.mem_map_of_mem h)

theorem baseName_ne_empty {dir base : String} {only : List Glob.Pattern}
    (h : dir ∈ exampleDirs t base only) :
  Path.baseName dir ≠ ""
  := by
  intro hempty
  have hleads := (isPlain_baseName_of_mem h).leads
  simp [hempty, Path.staysPut] at hleads

/-- Without patterns, finding directories reports nothing about them. -/
theorem run_discover {dir : String} (hdir : t.isDir dir = true) (hne : exampleDirs t dir [] ≠ []) :
  (discover dir []).run t = ⟨t, [], .ok (exampleDirs t dir [])⟩
  := by
  have hall : (dirNames t dir).filter (fun name => !isSelected [] name) = [] := by
    simp [isSelected]
  have hempty : (exampleDirs t dir []).isEmpty = false := by
    simpa using hne
  rw [discover, Action.run_bind_ok (Action.run_currentTree t)]
  simp only [hdir, Bool.not_true, Bool.false_eq_true, if_false, hall, hempty]
  rfl

theorem exampleDirs_of_sorted {dir : String} {only : List Glob.Pattern} {names : List String}
    (hnames : (dirNames t dir).filter (isSelected only) = names)
    (hsorted : names.Pairwise fun a b => a ≤ b) :
  exampleDirs t dir only = names.map (Path.join dir)
  := by
  rw [exampleDirs, hnames, List.mergeSort_of_pairwise]
  simpa using hsorted

/-- Directories that are listed in order are found as they are listed. -/
theorem run_discover_of_sorted {dir : String} {names dirs : List String}
    (hdir : t.isDir dir = true) (hnames : (dirNames t dir).filter (isSelected []) = names)
    (hsorted : names.Pairwise fun a b => a ≤ b) (hdirs : names.map (Path.join dir) = dirs)
    (hne : dirs ≠ []) :
  (discover dir []).run t = ⟨t, [], .ok dirs⟩
  := by
  have hfound : exampleDirs t dir [] = dirs := by
    rw [exampleDirs_of_sorted hnames hsorted, hdirs]
  rw [run_discover hdir, hfound]
  rwa [hfound]

/-! ### The output directory -/

theorem makeOutputDir_yields_iff {dir : String} :
  (makeOutputDir dir).Yields t u t' ↔ t.makeDirs dir = (t', .ok u)
  := by
  rw [makeOutputDir, Action.yields_change, Prod.ext_iff, Prod.ext_iff, mapError_eq_ok]

theorem makeOutputDir_fails_iff {dir : String} :
  (makeOutputDir dir).Fails t e t'
    ↔ ∃ cause, t.makeDirs dir = (t', .error cause) ∧ e = .cannotMakeOutput dir cause
  := by
  rw [makeOutputDir, Action.fails_change]
  rcases t.makeDirs dir with ⟨made, cause | _⟩
  · simp [Except.mapError, eq_comm]
  · simp [Except.mapError]

theorem newDirs_of_makeDirs {path : String} {made : Except Files.Error Unit}
    (h : t.makeDirs path = (t', made)) :
  Tree.NewDirs t path t'
  := by
  have hnew := Tree.newDirs_makeDirs t path
  rw [h] at hnew
  apply hnew

/-! ### Examples -/

/-- The first phases of a build: the examples are found, the output directory is made and the
examples are loaded. -/
def loadExamples (c : Config) : Action (List Example) := do
  let dirs ← discover c.examplesDir c.only
  makeOutputDir c.outputDir
  let loaded ← loadAll c.site.language dirs
  return loaded.examples

/-- The examples of a site are loaded when the output directory has been made, from the directories
that were found before. -/
theorem loadExamples_yields_iff :
  (loadExamples c).Yields t es t₁
    ↔ t.isDir c.examplesDir = true ∧ t.makeDirs c.outputDir = (t₁, .ok ())
      ∧ List.Forall₂ (fun dir e => exampleIn t₁ c.site.language dir = .ok (some e))
        ((exampleDirs t c.examplesDir c.only).filter (hasSource t₁ c.site.language)) es
  := by
  simp only [loadExamples, Action.yields_bind, Action.yields_pure, discover_yields_iff,
    makeOutputDir_yields_iff, (loadAll_answers _ _ _).yields_iff]
  constructor
  · rintro ⟨_, _, ⟨hdir, rfl, rfl⟩, _, _, hmake, ⟨es, n⟩, _, ⟨hloaded, rfl⟩, rfl, rfl⟩
    exact ⟨hdir, hmake, (loadedIn_eq_ok.mp hloaded).1⟩
  · rintro ⟨hdir, hmake, hes⟩
    exact ⟨_, t, ⟨hdir, rfl, rfl⟩, (), t₁, hmake, ⟨es, _⟩, t₁,
      ⟨loadedIn_eq_ok.mpr ⟨hes, rfl⟩, rfl⟩, rfl, rfl⟩

theorem loadExamples_fails_iff :
  (loadExamples c).Fails t e t'
    ↔ (t.isDir c.examplesDir = false ∧ e = .noExamplesDir c.examplesDir ∧ t' = t)
      ∨ t.isDir c.examplesDir = true
        ∧ ((∃ cause, t.makeDirs c.outputDir = (t', .error cause)
            ∧ e = .cannotMakeOutput c.outputDir cause)
          ∨ t.makeDirs c.outputDir = (t', .ok ())
            ∧ loadedIn t' c.site.language (exampleDirs t c.examplesDir c.only) = .error e)
  := by
  simp only [loadExamples, Action.fails_bind, Action.not_fails_pure, discover_fails_iff,
    discover_yields_iff, makeOutputDir_fails_iff, makeOutputDir_yields_iff,
    (loadAll_answers _ _ _).fails_iff, and_false, exists_false, or_false]
  apply or_congr_right
  constructor
  · rintro ⟨_, _, ⟨hdir, rfl, rfl⟩, hmake | ⟨_, _, hmake, hloaded, rfl⟩⟩
    · exact ⟨hdir, .inl hmake⟩
    · exact ⟨hdir, .inr ⟨hmake, hloaded⟩⟩
  · rintro ⟨hdir, hmake | ⟨hmake, hloaded⟩⟩
    · exact ⟨_, t, ⟨hdir, rfl, rfl⟩, .inl hmake⟩
    · exact ⟨_, t, ⟨hdir, rfl, rfl⟩, .inr ⟨(), t', hmake, hloaded, rfl⟩⟩

/-- Loading examples leaves new directories on the way to the output directory. -/
theorem newDirs_of_loadExamples (h : (loadExamples c).Yields t es t₁) :
  Tree.NewDirs t c.outputDir t₁
  := newDirs_of_makeDirs (loadExamples_yields_iff.mp h).2.1

/-- So does loading examples when it fails. -/
theorem newDirs_of_loadExamples_fails (h : (loadExamples c).Fails t e t') :
  Tree.NewDirs t c.outputDir t'
  := by
  obtain ⟨-, -, rfl⟩ | ⟨-, ⟨cause, hmake, -⟩ | ⟨hmake, -⟩⟩ := loadExamples_fails_iff.mp h
  · apply Tree.NewDirs.refl
  · apply newDirs_of_makeDirs hmake
  · apply newDirs_of_makeDirs hmake

/-- The files of an example are the same when directories have been made. -/
theorem sameFile_of_newDirs {path dir base extension : String} {only : List Glob.Pattern}
    (h : Tree.NewDirs t path t') (hdir : dir ∈ exampleDirs t base only)
    (hextension : IsExtension extension) :
  Tree.SameFile t t' (exampleFile dir extension)
  := by
  apply h.keepsDirs.sameFile_join (isDir_of_mem_exampleDirs hdir)
  · apply isPlain_append_extension (noSlash_baseName dir) hextension
  · intro loc content _
    apply h.lookup_file

/-- The examples of a site are those of the directories with a source file. -/
theorem exampleIn_of_loadExamples (hlanguage : c.site.language ∈ Language.all)
    (h : (loadExamples c).Yields t es t₁) :
  List.Forall₂ (fun dir e => exampleIn t c.site.language dir = .ok (some e))
    ((exampleDirs t c.examplesDir c.only).filter (hasSource t c.site.language)) es
  := by
  obtain ⟨-, hmake, hes⟩ := loadExamples_yields_iff.mp h
  have hnew := newDirs_of_makeDirs hmake
  -- The examples are read when the output directory is there; they are the same without it.
  have hsource : ∀ dir ∈ exampleDirs t c.examplesDir c.only,
      Tree.SameFile t₁ t (exampleFile dir c.site.language.extension) := by
    intro dir hdir
    apply (sameFile_of_newDirs hnew hdir _).symm
    apply isExtension_of_mem_all hlanguage
  have hfilter : (exampleDirs t c.examplesDir c.only).filter (hasSource t c.site.language)
      = (exampleDirs t c.examplesDir c.only).filter (hasSource t₁ c.site.language) := by
    apply List.filter_congr
    intro dir hdir
    apply (hsource dir hdir).isFile
  rw [hfilter]
  apply forall₂_exampleIn_congr _ hes
  intro dir hmem
  obtain ⟨hdir, -⟩ := List.mem_filter.mp hmem
  apply exampleIn_congr (hsource dir hdir)
  apply (sameFile_of_newDirs hnew hdir isExtension_sh).symm

/-! ### The names of examples -/

/-- The examples of some directories have the names of these. -/
theorem map_name_of_exampleIn {language : Language} {dirs : List String}
    (h : List.Forall₂ (fun dir e => exampleIn t language dir = .ok (some e)) dirs es) :
  es.map (·.name) = dirs.map Path.baseName
  := by
  induction h with
  | nil => rfl
  | cons hfirst hrest ih => rw [List.map_cons, List.map_cons, ih, name_of_exampleIn hfirst]

theorem names_of_loadExamples (h : (loadExamples c).Yields t es t') :
  (es.map (·.name)).Sublist ((exampleDirs t c.examplesDir c.only).map Path.baseName)
  := by
  obtain ⟨-, -, hes⟩ := loadExamples_yields_iff.mp h
  rw [map_name_of_exampleIn hes]
  apply List.filter_sublist.map

/-- The examples of a site have different names. -/
theorem nodup_names_of_loadExamples (h : (loadExamples c).Yields t es t') :
  (es.map (·.name)).Nodup
  := (names_of_loadExamples h).nodup (nodup_baseName_exampleDirs _ _ _)

/-- The names of examples are plain. -/
theorem isPlain_of_loadExamples {e : Example} (h : (loadExamples c).Yields t es t')
    (he : e ∈ es) :
  Path.IsPlain e.name
  := by
  apply isPlain_baseName_exampleDirs
  apply (names_of_loadExamples h).subset
  apply List.mem_map_of_mem he

end Gallery
