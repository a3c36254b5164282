import Gallery.Proofs.Files.Put
import Gallery.Proofs.Site.Outcomes
import Gallery.Site.Build

/-!
# Writing the files of a site

The files of a site are written one after another into one directory.  Every write leaves the
files with other names in that directory as they are, so a file holds its text at the end unless
a later one has the same name (`read_of_writeFiles`).
-/

namespace Gallery

open Files

variable {t t' : Tree} {u : Unit}

theorem writeFile_yields {path text : String} :
  (writeFile path text).Yields t u t' ↔ t.write path text.toUTF8 = .ok t'
  := by
  simp only [writeFile, Action.yields_bind, Action.yields_replace, Action.yields_report,
    mapError_eq_ok]
  simp

theorem writeFiles_cons_yields {path text : String} {files : List (String × String)} :
  (writeFiles ((path, text) :: files)).Yields t u t'
    ↔ ∃ t₁, t.write path text.toUTF8 = .ok t₁ ∧ (writeFiles files).Yields t₁ u t'
  := by
  simp only [writeFiles, Action.yields_bind, writeFile_yields]
  simp

theorem writeFiles_append_yields {files files' : List (String × String)} :
  (writeFiles (files ++ files')).Yields t u t'
    ↔ ∃ t₁, (writeFiles files).Yields t u t₁ ∧ (writeFiles files').Yields t₁ u t'
  := by
  induction files generalizing t with
  | nil => simp [writeFiles, Action.yields_pure]
  | cons file files ih =>
    obtain ⟨path, text⟩ := file
    simp only [List.cons_append, writeFiles_cons_yields, ih]
    constructor
    · rintro ⟨t₁, hwrite, t₂, hfiles, hfiles'⟩
      exact ⟨t₂, ⟨t₁, hwrite, hfiles⟩, hfiles'⟩
    · rintro ⟨t₂, ⟨t₁, hwrite, hfiles⟩, hfiles'⟩
      exact ⟨t₁, hwrite, t₂, hfiles, hfiles'⟩

/-! ### Files in one directory -/

/-- The paths of the files lead into a directory, to plain names other than the given one. -/
def Beside (base name : String) (files : List (String × String)) : Prop :=
  ∀ file ∈ files, ∃ other, Path.IsPlain other ∧ other ≠ name ∧ file.1 = Path.join base other

section OneDirectory

variable {base name other text : String} {content : ByteArray} (hname : Path.IsPlain name)

include hname

theorem read_of_puts (hother : Path.IsPlain other) (hne : other ≠ name)
    (h : ∃ loc new, t.locate (Path.join base other) = .ok loc ∧ Tree.Puts t loc new t')
    (hread : t.read (Path.join base name) = .ok content) :
  t'.read (Path.join base name) = .ok content
  := by
  obtain ⟨loc, new, hlocate, hputs⟩ := h
  apply hputs.read_other hread
  apply Tree.locate_join_ne hother hname hne hlocate

/-- Writing files leaves a file with another name in their directory as it is. -/
theorem read_of_beside {files : List (String × String)} (hfiles : Beside base name files)
    (h : (writeFiles files).Yields t u t') (hread : t.read (Path.join base name) = .ok content) :
  t'.read (Path.join base name) = .ok content
  := by
  induction files generalizing t with
  | nil =>
    obtain ⟨-, rfl⟩ := Action.yields_pure.mp h
    apply hread
  | cons file files ih =>
    obtain ⟨path, text⟩ := file
    obtain ⟨hfile, hrest⟩ := List.forall_mem_cons.mp hfiles
    obtain ⟨other, hother, hne, rfl⟩ := hfile
    obtain ⟨t₁, hwrite, hyields⟩ := writeFiles_cons_yields.mp h
    obtain ⟨loc, hlocate, hputs⟩ := Tree.puts_of_write hwrite
    apply ih hrest hyields
    apply read_of_puts hname hother hne ⟨loc, _, hlocate, hputs⟩ hread

/-- A file that is written holds its text if no later one has its name. -/
theorem read_of_writeFiles {before after : List (String × String)}
    (hafter : Beside base name after)
    (h : (writeFiles (before ++ (Path.join base name, text) :: after)).Yields t u t') :
  t'.read (Path.join base name) = .ok text.toUTF8
  := by
  obtain ⟨t₁, -, hyields⟩ := writeFiles_append_yields.mp h
  obtain ⟨t₂, hwrite, hrest⟩ := writeFiles_cons_yields.mp hyields
  obtain ⟨loc, hlocate, hputs⟩ := Tree.puts_of_write hwrite
  apply read_of_beside hname hafter hrest
  apply hputs.read_self hlocate

end OneDirectory

theorem isPlain_stylesheet :
  Path.IsPlain "site.css"
  := by
  decide

/-- Copying the stylesheet leaves the other files in the output directory as they are. -/
theorem read_of_copyStylesheet {c : Config} {name : String} {content : ByteArray}
    (hname : Path.IsPlain name) (hne : name ≠ "site.css") (h : (copyStylesheet c).Yields t u t')
    (hread : t.read (outputPath c name) = .ok content) :
  t'.read (outputPath c name) = .ok content
  := by
  rw [copyStylesheet] at h
  split at h
  · obtain ⟨-, rfl⟩ := Action.yields_pure.mp h
    apply hread
  · simp only [Action.yields_bind, Action.yields_replace, Action.yields_report,
      mapError_eq_ok] at h
    obtain ⟨_, _, hcopy, rfl⟩ := h
    apply read_of_puts hname isPlain_stylesheet hne.symm (Tree.puts_of_copy hcopy) hread

end Gallery
