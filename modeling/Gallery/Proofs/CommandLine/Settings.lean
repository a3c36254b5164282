import Gallery.CommandLine.Run
import Gallery.Proofs.Site.Phases

/-!
# Settings come first

What is wrong with the settings of an invocation is a list, `Invocation.mistakes`: an unknown format
comes before an unknown language, and that before the patterns that cannot be read, in their order.
Each check of the settings notices the first of its mistakes (`Notices`), and so does a sequence of
checks, so the configuration fails with the first mistake of all (`notices_configOf`).  A run that
fails with a mistake has not looked at the tree, and one without mistakes ends as the build does
(`runInvocation_settings`).
-/

namespace Gallery.CommandLine

open Files Log

/-! ### Mistakes -/

/-- A format that is not known is a mistake. -/
def formatMistakes (name : String) : List Failure :=
  match Format.byName? name with
  | some _ => []
  | none => [.unknownFormat name]

/-- A language that is not known is a mistake. -/
def languageMistakes (name : String) : List Failure :=
  match Language.byName? name with
  | some _ => []
  | none => [.unknownLanguage name]

/-- A pattern that cannot be read is a mistake. -/
def patternMistakes (text : String) : List Failure :=
  match Glob.Pattern.ofText text with
  | .ok _ => []
  | .error cause => [.invalidPattern text cause]

/-- All mistakes in the settings of an invocation: in the format, in the language, and in the
patterns, in their order. -/
def Invocation.mistakes (i : Invocation) : List Failure :=
  formatMistakes i.format ++ languageMistakes i.lang ++ i.only.flatMap patternMistakes

/-- A check with some mistakes to find succeeds if there are none, and else it fails with the first
one. -/
inductive Notices {α : Type} : Except Failure α → List Failure → Prop where
  | none (a : α) : Notices (.ok a) []
  | first (e : Failure) (es : List Failure) : Notices (.error e) (e :: es)

section Notices

variable {α β : Type} {x : Except Failure α} {ms ms' : List Failure}

theorem Notices.bind {f : α → Except Failure β} (hx : Notices x ms)
    (hf : ∀ a, Notices (f a) ms') :
  Notices (x >>= f) (ms ++ ms')
  := by
  cases hx with
  | none a => apply hf a
  | first e es => apply Notices.first

theorem Notices.map {f : α → β} (hx : Notices x ms) :
  Notices (x >>= fun a => pure (f a)) ms
  := by
  cases hx with
  | none a => apply Notices.none
  | first e es => apply Notices.first

/-- Checking a list notices the first mistake in the first element that has one. -/
theorem notices_mapM {f : β → Except Failure α} {mistakes : β → List Failure}
    (h : ∀ b, Notices (f b) (mistakes b)) (bs : List β) :
  Notices (bs.mapM f) (bs.flatMap mistakes)
  := by
  induction bs with
  | nil => apply Notices.none
  | cons b bs ih =>
    rw [List.mapM_cons, List.flatMap_cons]
    apply Notices.bind (h b)
    intro a
    apply ih.map

end Notices

theorem notices_formatNamed (name : String) :
  Notices (formatNamed name) (formatMistakes name)
  := by
  unfold formatNamed formatMistakes
  rcases Format.byName? name with _ | format
  · apply Notices.first
  · apply Notices.none

theorem notices_languageNamed (name : String) :
  Notices (languageNamed name) (languageMistakes name)
  := by
  unfold languageNamed languageMistakes
  rcases Language.byName? name with _ | language
  · apply Notices.first
  · apply Notices.none

theorem notices_patternOf (text : String) :
  Notices (patternOf text) (patternMistakes text)
  := by
  unfold patternOf patternMistakes
  rcases Glob.Pattern.ofText text with cause | pattern
  · apply Notices.first
  · apply Notices.none

/-- The configuration fails with the first mistake in the settings. -/
theorem notices_configOf (i : Invocation) :
  Notices (configOf i) i.mistakes
  := by
  rw [configOf, Invocation.mistakes, List.append_assoc]
  apply Notices.bind (notices_formatNamed i.format)
  intro format
  apply Notices.bind (notices_languageNamed i.lang)
  intro language
  apply (notices_mapM notices_patternOf i.only).map

theorem examplesDir_of_configOf {i : Invocation} {c : Config} (h : configOf i = .ok c) :
  c.examplesDir = i.examples
  := by
  simp only [configOf, bind_eq_ok] at h
  obtain ⟨format, -, language, -, only, -, hc⟩ := h
  rw [← Except.ok.inj hc]

/-! ### Runs -/

section Runs

variable {i : Invocation} {c : Config} {t : Tree}

/-- A run with a mistake does nothing but print the first one. -/
theorem runInvocation_of_mistake {e : Failure} (h : e ∈ i.mistakes.head?) (spec : Option String)
    (t : Tree) :
  runInvocation i spec t = ⟨1, "", logText i.verbosity spec [] ++ failureText e, t⟩
  := by
  have hconfig : configOf i = .error e := by
    have hnotices := notices_configOf i
    generalize configOf i = config, i.mistakes = ms at hnotices h
    cases hnotices with
    | none c => cases h
    | first e' es =>
      cases h
      rfl
  have hrun : (buildFor i).run t = ⟨t, [], .error e⟩ := by
    apply Action.run_bind_error
    rw [hconfig]
    rfl
  rw [runInvocation, hrun]

/-- There is a configuration if there are no mistakes. -/
theorem mistakes_eq_nil_iff :
  i.mistakes = [] ↔ ∃ c, configOf i = .ok c
  := by
  have hnotices := notices_configOf i
  generalize configOf i = config, i.mistakes = ms at hnotices
  cases hnotices with
  | none c => simp
  | first e es => simp

theorem run_buildFor (h : configOf i = .ok c) (t : Tree) :
  (buildFor i).run t = (build c).run t
  := by
  have hconfig : (Action.ofExcept (configOf i)).run t = ⟨t, [], .ok c⟩ := by
    rw [h]
    rfl
  rw [buildFor, Action.run_bind_ok hconfig, List.nil_append]

theorem yields_buildFor_iff {s : Summary} {t' : Tree} :
  (buildFor i).Yields t s t' ↔ ∃ c, configOf i = .ok c ∧ (build c).Yields t s t'
  := by
  simp only [buildFor, Action.yields_bind, (Action.answers_ofExcept (configOf i)).yields_iff]
  constructor
  · rintro ⟨c, _, ⟨hconfig, rfl⟩, hbuild⟩
    exact ⟨c, hconfig, hbuild⟩
  · rintro ⟨c, hconfig, hbuild⟩
    exact ⟨c, t, ⟨hconfig, rfl⟩, hbuild⟩

/-- A run that builds a site sums it up. -/
theorem runInvocation_of_yields {s : Summary} {t' : Tree} (h : (buildFor i).Yields t s t')
    (spec : Option String) :
  runInvocation i spec t
    = ⟨0, summaryLine i.output s, logText i.verbosity spec ((buildFor i).run t).log, t'⟩
  := by
  rw [runInvocation, h.1, ← h.2]

/-- The exit code is 0 if and only if a site is built. -/
theorem exitCode_runInvocation_eq_zero_iff {spec : Option String} :
  (runInvocation i spec t).exitCode = 0 ↔ ∃ s t', (buildFor i).Yields t s t'
  := by
  constructor
  · intro hzero
    rw [runInvocation] at hzero
    rcases hresult : ((buildFor i).run t).result with e | s
    · simp [hresult] at hzero
    · exact ⟨s, _, Action.yields_of_result hresult⟩
  · rintro ⟨s, t', hbuild⟩
    rw [runInvocation_of_yields hbuild]

/-- Without a directory of examples nothing is done. -/
theorem run_build_of_isDir_eq_false (h : t.isDir c.examplesDir = false) :
  (build c).run t = ⟨t, [], .error (.noExamplesDir c.examplesDir)⟩
  := by
  apply Action.run_bind_error
  rw [discover, Action.run_bind_ok (Action.run_currentTree t)]
  simp only [h, Bool.not_false, if_true, List.nil_append]
  rw [Action.run_bind_error (Action.run_fail _ _)]

/-- A build accounts for all directories that are found. -/
theorem discover_of_build {s : Summary} {t' : Tree} (h : (build c).Yields t s t') :
  ∃ dirs, (discover c.examplesDir c.only).Yields t dirs t ∧ s.pages + s.skipped = dirs.length
  := by
  obtain ⟨es, t₁, t₂, hload, -⟩ := build_yields_iff.mp h
  obtain ⟨hdir, -, -⟩ := loadExamples_yields_iff.mp hload
  use exampleDirs t c.examplesDir c.only
  constructor
  · apply discover_yields_iff.mpr ⟨hdir, rfl, rfl⟩
  · apply pages_add_skipped h

end Runs

/-! ### The line that sums up a site -/

theorem lineFeed_notMem_repr (n : Nat) :
  '\n' ∉ (Nat.repr n).toList
  := by
  intro h
  rw [Nat.repr, String.toList_ofList] at h
  exact absurd (Nat.isDigit_of_mem_toDigits (by decide) (by decide) h) (by decide)

/-- The text that sums up a site is one line, apart from the line feeds in the path of its
output. -/
theorem count_lineFeed_summaryLine (output : String) (s : Summary) :
  (summaryLine output s).toList.count '\n' = output.toList.count '\n' + 1
  := by
  have hpages := List.count_eq_zero.mpr (lineFeed_notMem_repr s.pages)
  have hskipped := List.count_eq_zero.mpr (lineFeed_notMem_repr s.skipped)
  have hwords : ∀ word ∈ ["wrote ", " example pages and index to ", " (",
      " directories skipped)", ""], word.toList.count '\n' = 0 := by
    decide
  have hend : "\n".toList.count '\n' = 1 := by
    decide
  simp only [List.forall_mem_cons] at hwords
  obtain ⟨hwrote, hindex, hopen, hclose, hnothing, -⟩ := hwords
  rw [summaryLine]
  split
  · simp only [String.toList_append, List.count_append, hpages, hskipped, hwrote, hindex, hopen,
      hclose, hend]
    omega
  · simp only [String.toList_append, List.count_append, hpages, hwrote, hindex, hnothing, hend]
    omega

/-! ### Endings -/

/-- Settings come first.  A run with mistakes in its settings prints the first of them, and one
without the directory of examples prints that; either way the exit code is 1, nothing is on the
standard output and the tree is as it was.  The exit code is 0 if and only if there are no mistakes
and the build succeeds, and then the standard output is a line with the numbers of pages and of
directories that were skipped, if there were any, which add up to the number of directories that
were found. -/
theorem runInvocation_settings (i : Invocation) (spec : Option String) (t : Tree) :
  (∀ e ∈ i.mistakes.head?,
      runInvocation i spec t = ⟨1, "", logText i.verbosity spec [] ++ failureText e, t⟩)
    ∧ (i.mistakes = [] → t.isDir i.examples = false →
      runInvocation i spec t
        = ⟨1, "", logText i.verbosity spec [] ++ failureText (.noExamplesDir i.examples), t⟩)
    ∧ ((runInvocation i spec t).exitCode = 0
      ↔ i.mistakes = [] ∧ ∃ c s t', configOf i = .ok c ∧ (build c).Yields t s t')
    ∧ ∀ c s t', configOf i = .ok c → (build c).Yields t s t' →
      (runInvocation i spec t).stdout
          = "wrote " ++ Nat.repr s.pages ++ " example pages and index to " ++ i.output
            ++ (if 0 < s.skipped then " (" ++ Nat.repr s.skipped ++ " directories skipped)" else "")
            ++ "\n"
        ∧ (runInvocation i spec t).stdout.toList.count '\n' = i.output.toList.count '\n' + 1
        ∧ (runInvocation i spec t).tree = t'
        ∧ ∃ dirs, (discover c.examplesDir c.only).Yields t dirs t
          ∧ s.pages + s.skipped = dirs.length
  := by
  constructor
  · intro e he
    apply runInvocation_of_mistake he
  · constructor
    · intro hnone hdir
      obtain ⟨c, hconfig⟩ := mistakes_eq_nil_iff.mp hnone
      rw [← examplesDir_of_configOf hconfig] at hdir ⊢
      rw [runInvocation, run_buildFor hconfig, run_build_of_isDir_eq_false hdir]
    · constructor
      · rw [exitCode_runInvocation_eq_zero_iff, mistakes_eq_nil_iff]
        simp only [yields_buildFor_iff]
        constructor
        · rintro ⟨s, t', c, hconfig, hbuild⟩
          exact ⟨⟨c, hconfig⟩, c, s, t', hconfig, hbuild⟩
        · rintro ⟨-, c, s, t', hconfig, hbuild⟩
          exact ⟨s, t', c, hconfig, hbuild⟩
      · intro c s t' hconfig hbuild
        rw [runInvocation_of_yields (yields_buildFor_iff.mpr ⟨c, hconfig, hbuild⟩)]
        use rfl, count_lineFeed_summaryLine i.output s, rfl
        apply discover_of_build hbuild

/-- An invocation for a site of examples in shell. -/
def shellSite (examples format lang : String) (only : List String) : Invocation where
  examples := examples
  output := "out"
  lang := lang
  title := some "T"
  intro := none
  sourceUrl := none
  licenseUrl := none
  only := only
  format := format
  stylesheet := none
  verbosity := 0

/-- Nothing is right, the second pattern is wrong, the directory is missing, and all is well. -/
theorem runInvocation_settings_shellSite :
  runInvocation (shellSite "tour" "xml" "cobol" ["[abc"]) none threeDirs
      = ⟨1, "", "Error: unknown format: xml. Use html or json\n", threeDirs⟩
    ∧ (runInvocation (shellSite "tour" "json" "sh" ["b*", "[abc"]) none threeDirs).stderr
      = "Error: invalid glob pattern: [abc\n\nCaused by:\n    "
        ++ "Pattern syntax error near position 0: invalid range pattern\n"
    ∧ runInvocation (shellSite "trip" "json" "sh" ["b*"]) none threeDirs
      = ⟨1, "", "Error: examples directory not found: trip\n", threeDirs⟩
    ∧ (runInvocation (shellSite "tour" "json" "sh" []) none threeDirs).exitCode = 0
    ∧ (runInvocation (shellSite "tour" "json" "sh" []) none threeDirs).stdout
      = "wrote 2 example pages and index to out (1 directories skipped)\n"
  := by
  have hlog : logText 0 none [] = "" := by
    decide +kernel
  constructor
  · have hmistake : .unknownFormat "xml"
        ∈ (shellSite "tour" "xml" "cobol" ["[abc"]).mistakes.head? := by
      decide +kernel
    have htext : failureText (.unknownFormat "xml")
        = "Error: unknown format: xml. Use html or json\n" := by
      decide +kernel
    rw [(runInvocation_settings _ none threeDirs).1 _ hmistake, shellSite, hlog, htext,
      String.empty_append]
  · constructor
    · have hmistake : .invalidPattern "[abc" ⟨0, .openClass⟩
          ∈ (shellSite "tour" "json" "sh" ["b*", "[abc"]).mistakes.head? := by
        decide +kernel
      rw [(runInvocation_settings _ none threeDirs).1 _ hmistake, shellSite, hlog]
      decide +kernel
    · constructor
      · have hnone : (shellSite "trip" "json" "sh" ["b*"]).mistakes = [] := by
          decide +kernel
        have hdir : threeDirs.isDir (shellSite "trip" "json" "sh" ["b*"]).examples = false := by
          decide +kernel
        have htext : failureText (.noExamplesDir "trip")
            = "Error: examples directory not found: trip\n" := by
          decide +kernel
        rw [(runInvocation_settings _ none threeDirs).2.1 hnone hdir, shellSite, hlog, htext,
          String.empty_append]
      · have hconfig : configOf (shellSite "tour" "json" "sh" [])
            = .ok (threeDirsSite "out" none) := by
          apply eq_ok_of_toOption
          decide +kernel
        have hsome : ((build (threeDirsSite "out" none)).run threeDirs).result.toOption
            = some ⟨2, 1⟩ := by
          rw [build, threeDirsSite, Action.run_bind_ok discover_threeDirs]
          decide +kernel
        have hbuild := Action.yields_of_result (eq_ok_of_toOption hsome)
        obtain ⟨-, -, hcode, hend⟩ :=
          runInvocation_settings (shellSite "tour" "json" "sh" []) none threeDirs
        constructor
        · apply hcode.mpr
          exact ⟨mistakes_eq_nil_iff.mpr ⟨_, hconfig⟩, _, _, _, hconfig, hbuild⟩
        · rw [(hend _ _ _ hconfig hbuild).1]
          decide +kernel

end Gallery.CommandLine
