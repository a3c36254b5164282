import Gallery.Proofs.Site.Pages

/-!
# What a failed build leaves

A build that fails leaves what it had completed, and nothing else is changed
(`tree_of_build_error`): nothing at all if there is no directory of examples; directories on the way
to the output directory if this could not be made or an example could not be loaded; in addition
the pages before the first one that could not be written; or all files but the copy of the
stylesheet.
-/

namespace Gallery

open Files

variable {c : Config} {t t' t₁ t₂ : Tree} {e : Failure} {es : List Example} {u : Unit}

/-- A file of a site is that of a page, behind those of the pages before it, or it is the index,
behind those of all pages. -/
theorem outputFiles_eq_append {before after : List (String × String)} {file : String × String}
    (h : outputFiles c es = before ++ file :: after) :
  (∃ earlier page later, pagesOf c.site c.format es = earlier ++ page :: later
      ∧ before = earlier.map (pageFile c) ∧ file = pageFile c page)
    ∨ before = (pagesOf c.site c.format es).map (pageFile c) ∧ file = indexFile c es
  := by
  rw [outputFiles] at h
  rcases List.eq_nil_or_concat' after with rfl | ⟨init, last, rfl⟩
  · right
    obtain ⟨rfl, heq⟩ := List.append_inj' h rfl
    exact ⟨rfl, (List.singleton_inj.mp heq).symm⟩
  · left
    rw [← List.cons_append, ← List.append_assoc] at h
    obtain ⟨hpages, -⟩ := List.append_inj' h rfl
    obtain ⟨earlier, rest, hsplit, rfl, hrest⟩ := List.map_eq_append_iff.mp hpages
    obtain ⟨page, later, rfl, rfl, -⟩ := List.map_eq_cons_iff.mp hrest
    exact ⟨earlier, page, later, hsplit, rfl, rfl⟩

/-- When the first pages have been written, each of them is in its file. -/
theorem read_pagePath_of_earlier {earlier later : List ExamplePage} {page : ExamplePage}
    (hload : (loadExamples c).Yields t es t₁)
    (hpages : pagesOf c.site c.format es = earlier ++ later)
    (hwrite : (writeFiles (earlier.map (pageFile c))).Yields t₁ u t₂) (hpage : page ∈ earlier) :
  t₂.read (pagePath c page) = .ok (c.format.renderExample page).toUTF8
  := by
  obtain ⟨before, after, rfl⟩ := List.append_of_mem hpage
  have hsplit : pagesOf c.site c.format es = before ++ page :: (after ++ later) := by
    simp [hpages]
  have hmem : page ∈ pagesOf c.site c.format es := by
    simp [hsplit]
  have hplain := isPlain_of_loadExamples hload (content_mem_of_mem_pagesOf hmem)
  rw [List.map_append, List.map_cons] at hwrite
  apply read_of_writeFiles (isPlain_pageFileName c.format hplain) _ hwrite
  intro file hfile
  apply beside_pages hload hsplit
  rw [List.map_append]
  apply List.mem_append_left _ hfile

/-- No page and no index is written over the copy of the stylesheet. -/
theorem beside_stylesheet (hload : (loadExamples c).Yields t es t₁) :
  Beside c.outputDir "site.css" (outputFiles c es)
  := by
  intro file hfile
  obtain hfile | hfile := List.mem_append.mp hfile
  · obtain ⟨page, hpage, rfl⟩ := List.mem_map.mp hfile
    have hplain := isPlain_of_loadExamples hload (content_mem_of_mem_pagesOf hpage)
    exact ⟨_, isPlain_pageFileName c.format hplain, pageFileName_ne_stylesheet _ _, rfl⟩
  · obtain rfl := List.mem_singleton.mp hfile
    use pageFileName c.format "index", isPlain_indexFileName _, pageFileName_ne_stylesheet _ _
    rw [indexFile, pageFileName_index]
    rfl

/-- The copy of a stylesheet that is there stays when the pages and the index are written. -/
theorem read_stylesheetPath (hload : (loadExamples c).Yields t es t₁)
    (hwrite : (writeFiles (outputFiles c es)).Yields t₁ u t₂) {content : ByteArray}
    (hread : t.read (stylesheetPath c) = .ok content) :
  t₂.read (stylesheetPath c) = .ok content
  := by
  apply read_of_beside isPlain_stylesheet (beside_stylesheet hload) hwrite
  apply (newDirs_of_loadExamples hload).read hread

/-- Why the examples are not loaded. -/
theorem cause_of_loadExamples_fails (h : (loadExamples c).Fails t e t') :
  (t.isDir c.examplesDir = false ∧ e = .noExamplesDir c.examplesDir ∧ t' = t)
    ∨ t.isDir c.examplesDir = true ∧ Tree.NewDirs t c.outputDir t'
      ∧ ((∃ cause, t.makeDirs c.outputDir = (t', .error cause)
          ∧ e = .cannotMakeOutput c.outputDir cause)
        ∨ t.makeDirs c.outputDir = (t', .ok ())
          ∧ ∃ dir ∈ exampleDirs t c.examplesDir c.only,
            ∃ extension ∈ [c.site.language.extension, "sh"],
              t'.readText (exampleFile dir extension) = .error .notText
                ∧ e = .cannotRead (exampleFile dir extension) .notText)
  := by
  have hnew := newDirs_of_loadExamples_fails h
  obtain h | ⟨hdir, hmake | ⟨hmake, hload⟩⟩ := loadExamples_fails_iff.mp h
  · left
    apply h
  · right
    exact ⟨hdir, hnew, .inl hmake⟩
  · right
    use hdir, hnew
    right
    obtain ⟨dir, hmem, hexample⟩ := loadedIn_eq_error hload
    use hmake, dir, hmem
    obtain h | ⟨-, -, h⟩ := (exampleIn_eq_error (baseName_ne_empty hmem)).mp hexample
    · exact ⟨_, List.mem_cons_self, h.readText, h.failure⟩
    · exact ⟨"sh", by simp, h.readText, h.failure⟩

/-- The file that is written next when some pages remain. -/
def nextFile (c : Config) (es : List Example) : List ExamplePage → String × String
  | page :: _ => pageFile c page
  | [] => indexFile c es

/-- Where a file of a site is not written, it is a page, and the pages before it are there, or it
is the index, and all pages are there. -/
theorem written_of_writeFiles_fails (hload : (loadExamples c).Yields t es t₁)
    (h : (writeFiles (outputFiles c es)).Fails t₁ e t') :
  ∃ earlier later cause, pagesOf c.site c.format es = earlier ++ later
    ∧ Tree.Written t₁ (earlier.map (pageFile c)) t'
    ∧ (∀ page ∈ earlier, t'.read (pagePath c page) = .ok (c.format.renderExample page).toUTF8)
    ∧ e = .cannotWrite (nextFile c es later).1 cause
  := by
  obtain ⟨before, path, text, after, cause, hfiles, hwrite, -, rfl⟩ := writeFiles_fails h
  obtain ⟨earlier, page, later, hpages, rfl, hfile⟩ | ⟨rfl, hfile⟩ := outputFiles_eq_append hfiles
  · use earlier, page :: later, cause, hpages, written_of_writeFiles hwrite
    cases hfile
    constructor
    · intro other hother
      apply read_pagePath_of_earlier hload hpages hwrite hother
    · rfl
  · have hpages : pagesOf c.site c.format es = pagesOf c.site c.format es ++ [] := by
      simp
    use pagesOf c.site c.format es, [], cause, hpages, written_of_writeFiles hwrite
    cases hfile
    constructor
    · intro other hother
      apply read_pagePath_of_earlier hload hpages hwrite hother
    · rfl

/-- A build that fails leaves what it had completed.

* Where there is no directory of examples, the tree is as it was.
* Where the output directory is not made, or an example cannot be read, there are new directories on
  the way to the output directory, and nothing else is changed.
* Where a file is not written, the tree is that with the output directory and the pages before it.
* Where the stylesheet is not copied, the tree is that with the output directory, all pages and the
  index, and a copy that was there before still is. -/
theorem tree_of_build_error {c : Config} {t : Tree} {e : Failure}
    (hbuild : ((build c).run t).result = .error e) :
  (t.isDir c.examplesDir = false ∧ e = .noExamplesDir c.examplesDir ∧ ((build c).run t).tree = t)
    ∨ (t.isDir c.examplesDir = true ∧ Tree.NewDirs t c.outputDir ((build c).run t).tree
      ∧ ((∃ cause, t.makeDirs c.outputDir = (((build c).run t).tree, .error cause)
          ∧ e = .cannotMakeOutput c.outputDir cause)
        ∨ t.makeDirs c.outputDir = (((build c).run t).tree, .ok ())
          ∧ ∃ dir ∈ exampleDirs t c.examplesDir c.only,
            ∃ extension ∈ [c.site.language.extension, "sh"],
              ((build c).run t).tree.readText (exampleFile dir extension) = .error .notText
                ∧ e = .cannotRead (exampleFile dir extension) .notText))
    ∨ ∃ es t₁, (loadExamples c).Yields t es t₁
      ∧ (es.map (·.name)).Sublist ((exampleDirs t c.examplesDir c.only).map Path.baseName)
      ∧ t.makeDirs c.outputDir = (t₁, .ok ()) ∧ Tree.NewDirs t c.outputDir t₁
      ∧ ((∃ earlier later cause, pagesOf c.site c.format es = earlier ++ later
          ∧ Tree.Written t₁ (earlier.map (pageFile c)) ((build c).run t).tree
          ∧ (∀ page ∈ earlier, ((build c).run t).tree.read (pagePath c page)
            = .ok (c.format.renderExample page).toUTF8)
          ∧ e = .cannotWrite (nextFile c es later).1 cause)
        ∨ Tree.Written t₁ (outputFiles c es) ((build c).run t).tree
          ∧ (∀ content, t.read (stylesheetPath c) = .ok content →
            ((build c).run t).tree.read (stylesheetPath c) = .ok content)
          ∧ ∃ source cause, c.stylesheet = some source
            ∧ ((build c).run t).tree.copy source (stylesheetPath c) = .error cause
            ∧ e = .cannotCopyStylesheet source cause)
  := by
  obtain hload | ⟨es, t₁, hload, hrest⟩ := build_fails_iff.mp (Action.fails_of_result hbuild)
  · obtain h | h := cause_of_loadExamples_fails hload
    · left
      apply h
    · right
      left
      apply h
  · right
    right
    use es, t₁, hload, names_of_loadExamples hload, (loadExamples_yields_iff.mp hload).2.1
    use newDirs_of_loadExamples hload
    obtain hwrite | ⟨t₂, hwrite, hcopy⟩ := hrest
    · left
      apply written_of_writeFiles_fails hload hwrite
    · right
      obtain ⟨htree, source, cause, hsource, hcause, he⟩ := copyStylesheet_fails_iff.mp hcopy
      rw [htree]
      use written_of_writeFiles hwrite
      constructor
      · intro content hread
        apply read_stylesheetPath hload hwrite hread
      · use source, cause

theorem tree_of_build_error_threeDirs :
  ((build (threeDirsSite "tour/c" none)).run threeDirs).result
      = .error (.cannotWrite "tour/c/d.json" .isADirectory)
    ∧ ∃ es t₁ earlier later, (loadExamples (threeDirsSite "tour/c" none)).Yields threeDirs es t₁
      ∧ pagesOf (threeDirsSite "tour/c" none).site .json es = earlier ++ later
      ∧ (nextFile (threeDirsSite "tour/c" none) es later).1 = "tour/c/d.json"
      ∧ Tree.Written t₁ (earlier.map (pageFile (threeDirsSite "tour/c" none)))
        ((build (threeDirsSite "tour/c" none)).run threeDirs).tree
  := by
  have hbuild : ((build (threeDirsSite "tour/c" none)).run threeDirs).result
      = .error (.cannotWrite "tour/c/d.json" .isADirectory) := by
    rw [build, threeDirsSite, Action.run_bind_ok discover_threeDirs]
    decide +kernel
  use hbuild
  obtain ⟨-, he, -⟩ | ⟨-, -, ⟨_, -, he⟩ | ⟨-, _, -, _, -, -, he⟩⟩
    | ⟨es, t₁, hload, -, -, -, ⟨earlier, later, _, hpages, hwritten, -, he⟩
      | ⟨-, -, _, _, -, -, he⟩⟩ := tree_of_build_error hbuild
  · cases he
  · cases he
  · cases he
  · use es, t₁, earlier, later, hload, hpages
    exact ⟨(Failure.cannotWrite.inj he).1.symm, hwritten⟩
  · cases he

end Gallery
