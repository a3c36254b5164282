import Gallery.Proofs.Site.Leftovers

/-!
# What is loaded

The language of an example and the extension of its source file select one reader, and so the
source is read in the language of the site as well as by its path.  A script is there if a shell
file stands beside a source file of another language.  Loading fails only for a file that is not
text (`exampleIn_eq_error_iff_unreadable`), and an extension that belongs to no language is never
met, neither in a directory that has been found nor in a build (`load_dispatch`).
-/

namespace Gallery

open Files Annotated

variable {t t' : Tree} {c : Config} {language : Language} {dir : String} {e : Failure}

/-- There is a script for the example of a directory: a shell file that is not its source file. -/
def HasScript (t : Tree) (language : Language) (dir : String) : Prop :=
  t.isFile (exampleFile dir "sh") = true ∧ language.extension ≠ "sh"

/-- The failure of loading an example whose source file is not text, or whose source file is text
and whose script is not. -/
def Unreadable (t : Tree) (language : Language) (dir : String) (e : Failure) : Prop :=
  NotText t (exampleFile dir language.extension) e
    ∨ (∃ text, t.readText (exampleFile dir language.extension) = .ok text)
      ∧ HasScript t language dir ∧ NotText t (exampleFile dir "sh") e

/-- The example is the one that is read from the files of a directory: its source by the marker of
the language, and also by the extension of its path, and its script, if there is one, by that of
the shell. -/
structure IsLoaded (t : Tree) (language : Language) (dir : String) (e : Example) : Prop where
  sourceFile : e.sourceFile = exampleFile dir language.extension
  source : ∃ text, t.readText e.sourceFile = .ok text
    ∧ e.source = .ofText language.marker text ∧ File.ofPath e.sourceFile text = .ok e.source
  script_isSome : e.script.isSome = true ↔ HasScript t language dir
  script : ∀ script, e.script = some script → ∃ text,
    t.readText (exampleFile dir "sh") = .ok text ∧ script = .ofText "#" text
  scriptFile : e.scriptFile = e.script.map fun _ => exampleFile dir "sh"

/-! ### Files -/

theorem exampleFile_inj {extension extension' : String} (h : IsExtension extension)
    (h' : IsExtension extension') :
  exampleFile dir extension = exampleFile dir extension' ↔ extension = extension'
  := by
  constructor
  · intro heq
    have hname := congrArg Path.baseName heq
    rw [exampleFile, exampleFile,
      Path.baseName_join _ (isPlain_append_extension (noSlash_baseName dir) h),
      Path.baseName_join _ (isPlain_append_extension (noSlash_baseName dir) h')] at hname
    apply extension_inj h h' hname
  · rintro rfl
    rfl

/-- A file that is there has a text or is not text. -/
theorem readText_of_isFile {path : String} (h : t.isFile path = true) :
  (∃ text, t.readText path = .ok text) ∨ t.readText path = .error .notText
  := by
  rcases hread : t.readText path with cause | text
  · right
    rw [Tree.readText_eq_error h hread]
  · left
    use text

/-! ### Scripts -/

/-- The script and the source file have one path exactly if they have one extension. -/
theorem hasScript_iff (hlanguage : language ∈ Language.all) :
  hasScript t language dir = true ↔ HasScript t language dir
  := by
  rw [hasScript, Bool.and_eq_true, decide_eq_true_eq, ne_eq,
    exampleFile_inj isExtension_sh (isExtension_of_mem_all hlanguage), HasScript, ne_eq,
    eq_comm (a := "sh")]

theorem scriptIn_eq_ok {script : Option File} (hlanguage : language ∈ Language.all)
    (hdir : Path.baseName dir ≠ "") (h : scriptIn t language dir = .ok script) :
  (script.isSome = true ↔ HasScript t language dir)
    ∧ ∀ file, script = some file → ∃ text,
      t.readText (exampleFile dir "sh") = .ok text ∧ file = .ofText "#" text
  := by
  rw [← hasScript_iff hlanguage]
  rcases hscript : hasScript t language dir
  · rw [scriptIn_of_not_hasScript hscript] at h
    cases h
    simp
  · rw [scriptIn_of_hasScript hdir hscript] at h
    rcases htext : textIn t (exampleFile dir "sh") with cause | text
    · rw [htext] at h
      cases h
    · rw [htext] at h
      obtain rfl := Except.ok.inj h
      constructor
      · simp
      · intro file hfile
        exact ⟨text, textIn_eq_ok.mp htext, (Option.some.inj hfile).symm⟩

/-! ### Examples -/

/-- Loading an example fails exactly if one of its files is not text. -/
theorem exampleIn_eq_error_iff_unreadable (hlanguage : language ∈ Language.all)
    (hdir : Path.baseName dir ≠ "") :
  exampleIn t language dir = .error e ↔ Unreadable t language dir e
  := by
  rw [exampleIn_eq_error hdir, hasScript_iff hlanguage, Unreadable]

theorem isLoaded_of_exampleIn {loaded : Example} (hlanguage : language ∈ Language.all)
    (hdir : Path.baseName dir ≠ "") (h : exampleIn t language dir = .ok (some loaded)) :
  IsLoaded t language dir loaded
  := by
  by_cases hsource : hasSource t language dir = true
  · rw [exampleIn_of_hasSource hsource] at h
    obtain ⟨text, htext, h⟩ := bind_eq_ok.mp h
    obtain ⟨script, hscript, h⟩ := bind_eq_ok.mp h
    obtain ⟨hisSome, hfile⟩ := scriptIn_eq_ok hlanguage hdir hscript
    cases h
    exact ⟨rfl, ⟨text, textIn_eq_ok.mp htext, rfl, ofPath_exampleFile hdir hlanguage text⟩,
      hisSome, hfile, rfl⟩
  · rw [exampleIn_eq_none.mpr (by simpa using hsource)] at h
    cases h

/-! ### Builds -/

/-- No file with an extension that belongs to no language is met in a build. -/
theorem build_not_fails_unsupported {path : String} :
  ¬ (build c).Fails t (.unsupportedFile path) t'
  := by
  intro h
  obtain hload | ⟨es, t₁, hload, hwrite | ⟨t₂, hwrite, hcopy⟩⟩ := build_fails_iff.mp h
  · obtain ⟨-, he, -⟩ | ⟨-, -, ⟨_, -, he⟩ | ⟨-, _, -, _, -, -, he⟩⟩ :=
      cause_of_loadExamples_fails hload
    · cases he
    · cases he
    · cases he
  · obtain ⟨_, _, _, _, _, -, -, -, he⟩ := writeFiles_fails hwrite
    cases he
  · obtain ⟨-, _, _, -, -, he⟩ := copyStylesheet_fails_iff.mp hcopy
    cases he

/-- The example of a directory that has been found, in a known language, is loaded from whatever
files are there: there is none exactly if there is no source file; loading fails exactly if a file
of the example is there and not text; and an example that is loaded is the one in its files, read in
the same way by the marker of its language and by the extension of its source file.  So the
extension of a file of a site belongs to a language, and no build fails because one does not. -/
theorem load_dispatch :
  (∀ (t t' : Tree) (base : String) (only : List Glob.Pattern) (dirs : List String),
      (discover base only).Yields t dirs t → ∀ dir ∈ dirs, ∀ language ∈ Language.all,
      (((load language dir).run t').result = .ok none
        ↔ t'.isFile (exampleFile dir language.extension) = false)
      ∧ (∀ e, ((load language dir).run t').result = .error e ↔ Unreadable t' language dir e)
      ∧ ∀ e, ((load language dir).run t').result = .ok (some e) → IsLoaded t' language dir e)
    ∧ ∀ (c : Config) (t t' : Tree) (path : String),
      ¬ (build c).Fails t (.unsupportedFile path) t'
  := by
  constructor
  · intro t t' base only dirs hfound dir hmem language hlanguage
    obtain ⟨-, rfl, -⟩ := discover_yields_iff.mp hfound
    have hdir := baseName_ne_empty hmem
    rw [(load_answers t' language dir).result_eq]
    use exampleIn_eq_none
    constructor
    · intro e
      apply exampleIn_eq_error_iff_unreadable hlanguage hdir
    · intro e
      apply isLoaded_of_exampleIn hlanguage hdir
  · intro c t t' path
    apply build_not_fails_unsupported

/-- Two directories: one with dots at both ends of its name, in which there are a source file and a
script, and one whose source file is not text. -/
def dotted : Tree where
  root := [(⟨"lessons", by decide +kernel⟩, .dir [
    (⟨".a.", by decide +kernel⟩, .dir [
      (⟨".a..c", by decide +kernel⟩, .file "int x;".toUTF8),
      (⟨".a..sh", by decide +kernel⟩, .file "# Run it.\nls".toUTF8)]),
    (⟨"n", by decide +kernel⟩, .dir [(⟨"n.c", by decide +kernel⟩, .file ⟨#[0xFF]⟩)])])]
  here := []

/-- The language of the source files in the two directories. -/
def dottedLanguage : Language :=
  ⟨"c", "C", "c", "//", [], []⟩

theorem discover_dotted :
  (discover "lessons" []).Yields dotted ["lessons/.a.", "lessons/n"] dotted
  := by
  have hnames : (dirNames dotted "lessons").filter (isSelected []) = [".a.", "n"] := by
    decide
  have hrun : (discover "lessons" []).run dotted
      = ⟨dotted, [], .ok ["lessons/.a.", "lessons/n"]⟩ := by
    apply run_discover_of_sorted _ hnames
    · decide
    · decide
    · simp
    · decide
  exact ⟨congrArg Outcome.result hrun, congrArg Outcome.tree hrun⟩

/-- The example with the dots is loaded with its script, and in the language of the script without
one; the other example is not text, and there is none in the language of the script. -/
theorem load_dispatch_dotted :
  (∃ e, ((load dottedLanguage "lessons/.a.").run dotted).result = .ok (some e)
      ∧ IsLoaded dotted dottedLanguage "lessons/.a." e ∧ e.script.isSome = true)
    ∧ (∃ e, ((load .shell "lessons/.a.").run dotted).result = .ok (some e)
      ∧ IsLoaded dotted .shell "lessons/.a." e ∧ e.script.isSome = false)
    ∧ ((load dottedLanguage "lessons/n").run dotted).result
      = .error (.cannotRead "lessons/n/n.c" .notText)
    ∧ ((load .shell "lessons/n").run dotted).result = .ok none
  := by
  obtain ⟨hfound, -⟩ := load_dispatch
  have hload := hfound dotted dotted "lessons" [] _ discover_dotted
  obtain ⟨-, -, hfirst⟩ := hload "lessons/.a." (by simp) dottedLanguage (by decide)
  obtain ⟨-, -, hfirst'⟩ := hload "lessons/.a." (by simp) .shell (by decide)
  obtain ⟨-, hsecond, -⟩ := hload "lessons/n" (by simp) dottedLanguage (by decide)
  obtain ⟨hsecond', -, -⟩ := hload "lessons/n" (by simp) .shell (by decide)
  have hsome : ∀ language ∈ [dottedLanguage, .shell],
      ∃ e, ((load language "lessons/.a.").run dotted).result = .ok (some e) := by
    intro language hlanguage
    have heval : ∀ l ∈ [dottedLanguage, .shell],
        (((load l "lessons/.a.").run dotted).result.toOption.bind id).isSome = true := by
      decide
    obtain ⟨e, he⟩ := Option.isSome_iff_exists.mp (heval language hlanguage)
    obtain ⟨loaded, hloaded, rfl⟩ := Option.bind_eq_some_iff.mp he
    exact ⟨e, eq_ok_of_toOption hloaded⟩
  have hfile : dotted.isFile (exampleFile "lessons/.a." "sh") = true := by
    decide
  constructor
  · obtain ⟨e, he⟩ := hsome dottedLanguage (by simp)
    have hloaded := hfirst e he
    exact ⟨e, he, hloaded, hloaded.script_isSome.mpr ⟨hfile, by decide⟩⟩
  · constructor
    · obtain ⟨e, he⟩ := hsome .shell (by simp)
      have hloaded := hfirst' e he
      have hnot : ¬ HasScript dotted .shell "lessons/.a." := fun h => h.2 rfl
      exact ⟨e, he, hloaded, Bool.eq_false_iff.mpr (mt hloaded.script_isSome.mp hnot)⟩
    · constructor
      · apply (hsecond _).mpr
        left
        constructor
        · decide
        · have hfile' : dotted.isFile "lessons/n/n.c" = true := by
            decide
          have hnone : (dotted.readText "lessons/n/n.c").toOption = none := by
            decide
          obtain ⟨text, htext⟩ | hnot := readText_of_isFile hfile'
          · rw [htext] at hnone
            cases hnone
          · exact hnot
        · rfl
      · apply hsecond'.mpr
        decide

end Gallery
