import Gallery.Proofs.Files.Confined
import Gallery.Proofs.Site.Pages

/-!
# What a build leaves untouched

A build puts files at the paths of its output only, and only when it has loaded all examples;
besides, it makes directories on the way to the output directory.  Everything else is left as it
was, whether the build succeeds or fails and wherever the output directory lies
(`confined_run_build`).  The names of output files do not have the extension of a language, so no
source file and no script is changed, even where examples and output share a directory.
-/

namespace Gallery

open Files

variable {c : Config} {t t' t₁ t₂ : Tree} {e : Failure} {es : List Example} {u : Unit}
  {paths : List String} {dir path : String} {content : ByteArray}

/-- The paths of the files that are written for some examples, and of the copy of the stylesheet. -/
def outputPaths (c : Config) (es : List Example) : List String :=
  es.map (fun e => outputPath c (pageFileName c.format e.name))
    ++ outputPath c (indexFileName c.format) :: (c.stylesheet.map fun _ => stylesheetPath c).toList

/-- The paths at which a build can put files; there are none if the examples cannot be loaded. -/
def buildPaths (c : Config) (t : Tree) : List String :=
  match ((loadExamples c).run t).result with
  | .ok es => outputPaths c es
  | .error _ => []

/-! ### The phases -/

theorem confined_writeFiles {files : List (String × String)}
    (h : Tree.Confined t paths dir t₁) (hfiles : ∀ file ∈ files, file.1 ∈ paths)
    (hwrite : (writeFiles files).Yields t₁ u t₂) :
  Tree.Confined t paths dir t₂
  := by
  induction files generalizing t₁ with
  | nil =>
    obtain ⟨-, rfl⟩ := Action.yields_pure.mp hwrite
    apply h
  | cons file files ih =>
    obtain ⟨path, text⟩ := file
    obtain ⟨hfile, hrest⟩ := List.forall_mem_cons.mp hfiles
    obtain ⟨t', hfirst, hyields⟩ := writeFiles_cons_yields.mp hwrite
    obtain ⟨loc, hlocate, hputs⟩ := Tree.puts_of_write hfirst
    apply ih _ hrest hyields
    apply h.puts hfile hlocate hputs

theorem fst_mem_outputPaths {file : String × String} (h : file ∈ outputFiles c es) :
  file.1 ∈ outputPaths c es
  := by
  obtain h | h := List.mem_append.mp h
  · obtain ⟨page, hpage, rfl⟩ := List.mem_map.mp h
    apply List.mem_append_left
    rw [List.mem_map]
    use page.content, content_mem_of_mem_pagesOf hpage
    rfl
  · obtain rfl := List.mem_singleton.mp h
    apply List.mem_append_right
    apply List.mem_cons_self

theorem confined_copyStylesheet (h : Tree.Confined t (outputPaths c es) dir t₁)
    (hcopy : (copyStylesheet c).Yields t₁ u t₂) :
  Tree.Confined t (outputPaths c es) dir t₂
  := by
  obtain ⟨-, rfl⟩ | ⟨source, hsource, hcopy⟩ := copyStylesheet_yields_iff.mp hcopy
  · apply h
  · obtain ⟨loc, content, hlocate, hputs⟩ := Tree.puts_of_copy hcopy
    apply h.puts _ hlocate hputs
    simp [outputPaths, hsource]

theorem buildPaths_eq (hload : (loadExamples c).Yields t es t₁) :
  buildPaths c t = outputPaths c es
  := by
  rw [buildPaths, hload.1]

/-- When the examples have been loaded and the first files have been written, only those are
there. -/
theorem confined_outputFiles {files rest : List (String × String)}
    (hload : (loadExamples c).Yields t es t₁) (hfiles : outputFiles c es = files ++ rest)
    (hwrite : (writeFiles files).Yields t₁ u t₂) :
  Tree.Confined t (outputPaths c es) c.outputDir t₂
  := by
  apply confined_writeFiles ((newDirs_of_loadExamples hload).confined _) _ hwrite
  intro file hfile
  apply fst_mem_outputPaths
  rw [hfiles]
  apply List.mem_append_left _ hfile

/-- A build is confined to its paths, whether it succeeds or fails. -/
theorem confined_run_build (c : Config) (t : Tree) :
  Tree.Confined t (buildPaths c t) c.outputDir ((build c).run t).tree
  := by
  have hall : ∀ es, outputFiles c es = outputFiles c es ++ [] := by
    simp
  obtain ⟨s, hyields⟩ | ⟨e, hfails⟩ := Action.yields_or_fails (build c) t
  · obtain ⟨es, t₁, t₂, hload, hwrite, hcopy, -⟩ := build_yields_iff.mp hyields
    rw [buildPaths_eq hload]
    apply confined_copyStylesheet (confined_outputFiles hload (hall es) hwrite) hcopy
  · obtain hload | ⟨es, t₁, hload, hwrite | ⟨t₂, hwrite, hcopy⟩⟩ := build_fails_iff.mp hfails
    · apply (newDirs_of_loadExamples_fails hload).confined
    · obtain ⟨before, _, _, after, _, hfiles, hbefore, -, -⟩ := writeFiles_fails hwrite
      rw [buildPaths_eq hload]
      apply confined_outputFiles hload hfiles hbefore
    · obtain ⟨htree, -⟩ := copyStylesheet_fails_iff.mp hcopy
      rw [buildPaths_eq hload, htree]
      apply confined_outputFiles hload (hall es) hwrite

/-! ### Source files and scripts -/

/-- The extensions of output files. -/
def outputExtensions : List String :=
  ["html", "json", "css"]

theorem isExtension_of_mem_output {extension : String} (h : extension ∈ outputExtensions) :
  IsExtension extension
  := by
  have hall : ∀ s ∈ outputExtensions, IsExtension s := by
    decide
  apply hall extension h

theorem not_mem_output_of_mem_all {language : Language} (h : language ∈ Language.all) :
  language.extension ∉ outputExtensions
  := by
  have hall : ∀ l ∈ Language.all, l.extension ∉ outputExtensions := by
    decide
  apply hall language h

theorem extension_mem_output (format : Format) :
  format.extension ∈ outputExtensions
  := by
  cases format <;> decide

/-- Output files lie in the output directory and have an extension for output. -/
theorem exists_outputPath (h : path ∈ buildPaths c t) :
  ∃ name, ∃ extension ∈ outputExtensions, Path.IsPlain (name ++ "." ++ extension)
    ∧ path = outputPath c (name ++ "." ++ extension)
  := by
  rw [buildPaths] at h
  split at h
  · rename_i es hload
    have hformat := isExtension_of_mem_output (extension_mem_output c.format)
    obtain h | h := List.mem_append.mp h
    · obtain ⟨e, he, rfl⟩ := List.mem_map.mp h
      have hplain := isPlain_of_loadExamples (Action.yields_of_result hload) he
      exact ⟨e.name, _, extension_mem_output c.format,
        isPlain_append_extension hplain.noSlash hformat, rfl⟩
    · obtain rfl | h := List.mem_cons.mp h
      · rw [← pageFileName_index]
        exact ⟨"index", _, extension_mem_output c.format, isPlain_indexFileName c.format, rfl⟩
      · obtain ⟨_, -, rfl⟩ := Option.map_eq_some_iff.mp (Option.mem_toList.mp h)
        exact ⟨"site", "css", by decide, isPlain_stylesheet, rfl⟩
  · cases h

/-- No output file is the source file or the script of an example. -/
theorem locate_buildPaths_ne {language : Language} (hlanguage : language ∈ Language.all)
    {loc : Location} (hlocate : t'.locate (exampleFile dir language.extension) = .ok loc) :
  ∀ path ∈ buildPaths c t, t'.locate path ≠ .ok loc
  := by
  intro path hpath
  obtain ⟨name, extension, hmem, hplain, rfl⟩ := exists_outputPath hpath
  have hextension := isExtension_of_mem_all hlanguage
  have hsource := isPlain_append_extension (noSlash_baseName dir) hextension
  -- Names that lead to one location are the same, and so are their extensions.
  apply Tree.locate_join_ne hsource hplain _ hlocate
  intro heq
  apply not_mem_output_of_mem_all hlanguage
  rw [extension_inj hextension (isExtension_of_mem_output hmem) heq]
  apply hmem

/-- A build touches nothing but its output: files are put at its paths only, and directories are
made on the way to the output directory only, and no source file and no script of an example is
changed or removed. -/
theorem build_untouched (c : Config) (t : Tree) :
  Tree.Confined t (buildPaths c t) c.outputDir ((build c).run t).tree
    ∧ ∀ language ∈ Language.all, ∀ dir, ∀ extension ∈ [language.extension, "sh"], ∀ content,
      t.read (exampleFile dir extension) = .ok content →
        ((build c).run t).tree.read (exampleFile dir extension) = .ok content
  := by
  have hconfined := confined_run_build c t
  have hread : ∀ language ∈ Language.all, ∀ dir content,
      t.read (exampleFile dir language.extension) = .ok content →
        ((build c).run t).tree.read (exampleFile dir language.extension) = .ok content := by
    intro language hlanguage dir content hread
    apply hconfined.read hread
    intro loc hlocate
    apply locate_buildPaths_ne hlanguage hlocate
  use hconfined
  intro language hlanguage dir extension hextension
  rw [List.mem_pair] at hextension
  obtain rfl | rfl := hextension
  · apply hread language hlanguage
  · apply hread Language.shell shell_mem_all

end Gallery
