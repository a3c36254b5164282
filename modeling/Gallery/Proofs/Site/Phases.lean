import Gallery.Proofs.Files.Written
import Gallery.Proofs.Site.Loading
import Gallery.Proofs.Site.Writing

/-!
# The phases of a build

Each phase of a build succeeds or fails, and what it leaves is said here: after the examples have
been loaded, writing files leaves those that were written (`written_of_writeFiles`), and copying the
stylesheet puts one file in place, or fails and leaves the tree as it is.  A build succeeds when all
phases do (`build_yields_iff`), and it fails when one of them does after the others before it have
succeeded (`build_fails_iff`).
-/

namespace Gallery

open Files

variable {c : Config} {t t' t₁ : Tree} {e : Failure} {es : List Example} {u : Unit}

/-! ### The files -/

theorem write_eq_error {path : String} {content : ByteArray} {cause : Files.Error} :
  t.write path content = .error cause ↔ t.target path = .error cause
  := by
  rw [Tree.write]
  rcases t.target path with _ | loc <;> simp [bind, Except.bind]

theorem writeFile_fails_iff {path text : String} :
  (writeFile path text).Fails t e t'
    ↔ t' = t ∧ ∃ cause, t.target path = .error cause ∧ e = .cannotWrite path cause
  := by
  simp only [writeFile, Action.fails_bind, Action.fails_replace, Action.not_fails_report,
    mapError_eq_error, write_eq_error]
  simp [and_comm]

/-- Writing files fails at one of them, when those before it have been written. -/
theorem writeFiles_fails {files : List (String × String)} (h : (writeFiles files).Fails t e t') :
  ∃ before path text after cause, files = before ++ (path, text) :: after
    ∧ (writeFiles before).Yields t () t' ∧ t'.target path = .error cause
    ∧ e = .cannotWrite path cause
  := by
  induction files generalizing t with
  | nil => cases Action.not_fails_pure h
  | cons file files ih =>
    obtain ⟨path, text⟩ := file
    simp only [writeFiles, Action.fails_bind, writeFile_fails_iff, writeFile_yields] at h
    obtain ⟨rfl, cause, htarget, rfl⟩ | ⟨_, t₁, hwrite, hrest⟩ := h
    · exact ⟨[], path, text, files, cause, rfl, Action.yields_pure.mpr ⟨rfl, rfl⟩, htarget, rfl⟩
    · obtain ⟨before, path', text', after, cause, rfl, hbefore, htarget, rfl⟩ := ih hrest
      use (path, text) :: before, path', text', after, cause, rfl
      exact ⟨writeFiles_cons_yields.mpr ⟨t₁, hwrite, hbefore⟩, htarget, rfl⟩

/-- Writing files leaves the files that were written. -/
theorem written_of_writeFiles {files : List (String × String)}
    (h : (writeFiles files).Yields t u t') :
  Tree.Written t files t'
  := by
  induction files generalizing t with
  | nil =>
    obtain ⟨-, rfl⟩ := Action.yields_pure.mp h
    apply Tree.Written.nil
  | cons file files ih =>
    obtain ⟨path, text⟩ := file
    obtain ⟨t₁, hwrite, hrest⟩ := writeFiles_cons_yields.mp h
    obtain ⟨loc, hlocate, hputs⟩ := Tree.puts_of_write hwrite
    apply Tree.Written.cons hlocate hputs (ih hrest)

/-! ### The stylesheet -/

theorem copyStylesheet_yields_iff :
  (copyStylesheet c).Yields t u t'
    ↔ (c.stylesheet = none ∧ t' = t)
      ∨ ∃ source, c.stylesheet = some source ∧ t.copy source (stylesheetPath c) = .ok t'
  := by
  rw [copyStylesheet]
  rcases c.stylesheet with _ | source
  · simp [Action.yields_pure]
  · simp only [Action.yields_bind, Action.yields_replace, Action.yields_report, mapError_eq_ok]
    simp

theorem copyStylesheet_fails_iff :
  (copyStylesheet c).Fails t e t'
    ↔ t' = t ∧ ∃ source cause, c.stylesheet = some source
      ∧ t.copy source (stylesheetPath c) = .error cause ∧ e = .cannotCopyStylesheet source cause
  := by
  rw [copyStylesheet]
  rcases c.stylesheet with _ | source
  · simp [Action.not_fails_pure]
  · simp only [Action.fails_bind, Action.fails_replace, Action.not_fails_report, mapError_eq_error]
    simp [and_comm]

/-! ### All phases -/

/-- A build succeeds when its phases do; it counts the examples, and the directories without one. -/
theorem build_yields_iff {s : Summary} :
  (build c).Yields t s t'
    ↔ ∃ es t₁ t₂, (loadExamples c).Yields t es t₁
      ∧ (writeFiles (outputFiles c es)).Yields t₁ () t₂ ∧ (copyStylesheet c).Yields t₂ () t'
      ∧ s = ⟨es.length, ((exampleDirs t c.examplesDir c.only).filter fun dir =>
          !hasSource t₁ c.site.language dir).length⟩
  := by
  simp only [build, Action.yields_bind, Action.yields_pure, loadExamples_yields_iff,
    discover_yields_iff, makeOutputDir_yields_iff, (loadAll_answers _ _ _).yields_iff]
  constructor
  · rintro ⟨_, _, ⟨hdir, rfl, rfl⟩, _, t₁, hmake, ⟨es, n⟩, _, ⟨hloaded, rfl⟩, _, t₂, hwrite, _, _,
      hcopy, rfl, rfl⟩
    obtain ⟨hes, rfl⟩ := loadedIn_eq_ok.mp hloaded
    exact ⟨es, _, t₂, ⟨hdir, hmake, hes⟩, hwrite, hcopy, rfl⟩
  · rintro ⟨es, t₁, t₂, ⟨hdir, hmake, hes⟩, hwrite, hcopy, rfl⟩
    exact ⟨_, t, ⟨hdir, rfl, rfl⟩, (), t₁, hmake, ⟨es, _⟩, t₁,
      ⟨loadedIn_eq_ok.mpr ⟨hes, rfl⟩, rfl⟩, (), t₂, hwrite, (), t', hcopy, rfl, rfl⟩

/-- A build accounts for all directories that are found. -/
theorem pages_add_skipped {s : Summary} (h : (build c).Yields t s t') :
  s.pages + s.skipped = (exampleDirs t c.examplesDir c.only).length
  := by
  obtain ⟨es, t₁, t₂, hload, -, -, rfl⟩ := build_yields_iff.mp h
  obtain ⟨-, -, hes⟩ := loadExamples_yields_iff.mp hload
  rw [← hes.length_eq]
  apply (List.length_eq_length_filter_add (hasSource t₁ c.site.language)).symm

/-- A build fails when one of its phases does, after those before it have succeeded. -/
theorem build_fails_iff :
  (build c).Fails t e t'
    ↔ (loadExamples c).Fails t e t'
      ∨ ∃ es t₁, (loadExamples c).Yields t es t₁
        ∧ ((writeFiles (outputFiles c es)).Fails t₁ e t'
          ∨ ∃ t₂, (writeFiles (outputFiles c es)).Yields t₁ () t₂
            ∧ (copyStylesheet c).Fails t₂ e t')
  := by
  simp only [build, loadExamples, Action.fails_bind, Action.yields_bind, Action.yields_pure,
    Action.not_fails_pure, and_false, exists_false, or_false]
  constructor
  · rintro (hdirs | ⟨dirs, t₀, hdirs, hmake | ⟨u, t₁, hmake, hload | ⟨l, t₂, hload, hrest⟩⟩⟩)
    · exact .inl (.inl hdirs)
    · exact .inl (.inr ⟨dirs, t₀, hdirs, .inl hmake⟩)
    · exact .inl (.inr ⟨dirs, t₀, hdirs, .inr ⟨u, t₁, hmake, hload⟩⟩)
    · right
      use l.examples, t₂, ⟨dirs, t₀, hdirs, u, t₁, hmake, l, t₂, hload, rfl, rfl⟩
      obtain hwrite | ⟨_, t₃, hwrite, hcopy⟩ := hrest
      · exact .inl hwrite
      · exact .inr ⟨t₃, hwrite, hcopy⟩
  · rintro ((hdirs | ⟨dirs, t₀, hdirs, hmake | ⟨u, t₁, hmake, hload⟩⟩)
      | ⟨_, t₂, ⟨dirs, t₀, hdirs, u, t₁, hmake, l, _, hload, rfl, rfl⟩,
        hwrite | ⟨t₃, hwrite, hcopy⟩⟩)
    · exact .inl hdirs
    · exact .inr ⟨dirs, t₀, hdirs, .inl hmake⟩
    · exact .inr ⟨dirs, t₀, hdirs, .inr ⟨u, t₁, hmake, .inl hload⟩⟩
    · exact .inr ⟨dirs, t₀, hdirs, .inr ⟨u, t₁, hmake, .inr ⟨l, t₂, hload, .inl hwrite⟩⟩⟩
    · exact .inr ⟨dirs, t₀, hdirs, .inr ⟨u, t₁, hmake, .inr ⟨l, t₂, hload,
        .inr ⟨(), t₃, hwrite, hcopy⟩⟩⟩⟩

/-! ### A gallery of three directories -/

/-- Two examples and, between them, a directory without a source file in which the file of a page
cannot be written. -/
def threeDirs : Tree where
  root := [(⟨"tour", by decide +kernel⟩, .dir [
    (⟨"b", by decide +kernel⟩, .dir [(⟨"b.sh", by decide +kernel⟩, .file "ls".toUTF8)]),
    (⟨"c", by decide +kernel⟩, .dir [(⟨"d.json", by decide +kernel⟩, .dir [])]),
    (⟨"d", by decide +kernel⟩, .dir [(⟨"d.sh", by decide +kernel⟩, .file "cd".toUTF8)])])]
  here := []

/-- A site of the examples in the three directories. -/
def threeDirsSite (outputDir : String) (stylesheet : Option String) : Config where
  examplesDir := "tour"
  outputDir := outputDir
  site := ⟨"T", none, none, none, .shell⟩
  format := .json
  only := []
  stylesheet := stylesheet

theorem exampleDirs_of_three
    (hnames : (dirNames t "tour").filter (isSelected []) = ["b", "c", "d"]) :
  exampleDirs t "tour" [] = ["tour/b", "tour/c", "tour/d"]
  := by
  rw [exampleDirs_of_sorted hnames]
  · decide +kernel
  · decide +kernel

theorem discover_of_three (hdir : t.isDir "tour" = true)
    (hnames : (dirNames t "tour").filter (isSelected []) = ["b", "c", "d"]) :
  (discover "tour" []).run t = ⟨t, [], .ok ["tour/b", "tour/c", "tour/d"]⟩
  := by
  rw [← exampleDirs_of_three hnames]
  apply run_discover hdir
  rw [exampleDirs_of_three hnames]
  simp

theorem discover_threeDirs :
  (discover "tour" []).run threeDirs = ⟨threeDirs, [], .ok ["tour/b", "tour/c", "tour/d"]⟩
  := by
  apply discover_of_three
  · decide +kernel
  · decide +kernel

end Gallery
