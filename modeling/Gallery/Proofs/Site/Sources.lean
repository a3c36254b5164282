import Mathlib.Data.List.Forall2
import Gallery.Proofs.Files.Growth
import Gallery.Proofs.Site.Outcomes
import Gallery.Proofs.Text.Lines
import Gallery.Site.Build

/-!
# Examples as a function of the tree

Finding and loading examples only reads the tree, so what they answer is a function of it.  The
examples of some directories are those of the directories with a source file, in the same order, and
the other directories are counted (`loadedIn_eq_ok`).  An example depends on its source file and its
script only (`exampleIn_congr`), and loading it fails exactly if one of them is not text
(`exampleIn_eq_error`).
-/

namespace Gallery

open Files

variable {t t' : Tree} {language : Language} {dir : String} {e : Failure}

/-! ### Finding -/

theorem answers_reports (names : List String) (text : String → String) (level : Log.Level) :
  (names.forM fun name => Action.report level (text name)).Answers t (.ok ())
  := by
  induction names with
  | nil => apply Action.answers_pure
  | cons name names ih =>
    apply Action.answers_bind_ok (Action.answers_report _ _) ih

theorem discover_answers (t : Tree) (dir : String) (only : List Glob.Pattern) :
  (discover dir only).Answers t
    (if t.isDir dir then .ok (exampleDirs t dir only) else .error (.noExamplesDir dir))
  := by
  apply Action.answers_bind_ok Action.answers_currentTree
  by_cases hdir : t.isDir dir = true
  · simp only [hdir, Bool.not_true, Bool.false_eq_true, if_false, if_true]
    apply Action.answers_bind_ok (answers_reports _ _ _)
    split
    · apply Action.answers_bind_ok (Action.answers_report _ _)
      apply Action.answers_pure
    · apply Action.answers_pure
  · simp only [hdir, Bool.not_false, if_true]
    apply Action.answers_fail_bind

theorem discover_yields_iff {only : List Glob.Pattern} {dirs : List String} :
  (discover dir only).Yields t dirs t'
    ↔ t.isDir dir = true ∧ dirs = exampleDirs t dir only ∧ t' = t
  := by
  rw [(discover_answers t dir only).yields_iff]
  by_cases h : t.isDir dir = true
  · simp [h, eq_comm]
  · simp [h]

theorem discover_fails_iff {only : List Glob.Pattern} :
  (discover dir only).Fails t e t'
    ↔ t.isDir dir = false ∧ e = .noExamplesDir dir ∧ t' = t
  := by
  rw [(discover_answers t dir only).fails_iff]
  by_cases h : t.isDir dir = true
  · simp [h]
  · simp [h, eq_comm]

/-! ### Loading one example -/

/-- The directory has a source file. -/
def hasSource (t : Tree) (language : Language) (dir : String) : Bool :=
  t.isFile (exampleFile dir language.extension)

/-- The text of a file of an example. -/
def textIn (t : Tree) (path : String) : Except Failure String :=
  (t.readText path).mapError (.cannotRead path)

/-- The script of an example, if there is one. -/
def scriptIn (t : Tree) (language : Language) (dir : String) :
    Except Failure (Option Annotated.File) :=
  let path := exampleFile dir "sh"
  if t.isFile path && path ≠ exampleFile dir language.extension then do
    let text ← textIn t path
    let file ← Annotated.File.ofPath path text
    return some file
  else
    return none

/-- The example of a directory, if there is one. -/
def exampleIn (t : Tree) (language : Language) (dir : String) : Except Failure (Option Example) :=
  let path := exampleFile dir language.extension
  if t.isFile path then do
    let text ← textIn t path
    let script ← scriptIn t language dir
    return some {
      name := Path.baseName dir
      id := Slug.ofName (Path.baseName dir)
      sourceFile := path
      source := .ofText language.marker text
      scriptFile := script.map fun _ => exampleFile dir "sh"
      script := script }
  else
    return none

theorem readText_answers (t : Tree) (path : String) :
  (readText path).Answers t (textIn t path)
  := by
  apply Action.answers_bind_ok Action.answers_currentTree
  apply Action.answers_ofExcept

theorem loadScript_answers (t : Tree) (language : Language) (dir : String) :
  (loadScript dir language).Answers t (scriptIn t language dir)
  := by
  apply Action.answers_bind_ok Action.answers_currentTree
  rw [scriptIn]
  by_cases h : t.isFile (exampleFile dir "sh")
      && exampleFile dir "sh" ≠ exampleFile dir language.extension
  · simp only [h, if_true]
    apply Action.answers_bind (readText_answers _ _)
    intro text
    apply Action.answers_bind (Action.answers_ofExcept _)
    intro file
    apply Action.answers_bind_ok (Action.answers_report _ _)
    apply Action.answers_pure
  · simp only [h]
    apply Action.answers_pure

theorem load_answers (t : Tree) (language : Language) (dir : String) :
  (load language dir).Answers t (exampleIn t language dir)
  := by
  apply Action.answers_bind_ok Action.answers_currentTree
  rw [exampleIn]
  by_cases h : t.isFile (exampleFile dir language.extension)
  · simp only [h, if_true]
    apply Action.answers_bind (readText_answers _ _)
    intro text
    apply Action.answers_bind_ok (Action.answers_report _ _)
    apply Action.answers_bind (loadScript_answers _ _ _)
    intro script
    apply Action.answers_pure
  · simp only [h]
    apply Action.answers_bind_ok (Action.answers_report _ _)
    apply Action.answers_pure

/-- A directory without a source file has no example. -/
theorem exampleIn_eq_none :
  exampleIn t language dir = .ok none ↔ hasSource t language dir = false
  := by
  rw [exampleIn, hasSource]
  constructor
  · intro h
    split at h
    · obtain ⟨_, -, h⟩ := bind_eq_ok.mp h
      obtain ⟨_, -, h⟩ := bind_eq_ok.mp h
      cases h
    · simp_all
  · intro h
    rw [if_neg (by simp [h])]
    rfl

/-- An example has the name of its directory. -/
theorem name_of_exampleIn {e : Example} (h : exampleIn t language dir = .ok (some e)) :
  e.name = Path.baseName dir
  := by
  rw [exampleIn] at h
  split at h
  · obtain ⟨text, -, h⟩ := bind_eq_ok.mp h
    obtain ⟨script, -, h⟩ := bind_eq_ok.mp h
    cases h
    rfl
  · cases h

/-- An example is determined by its source file and its script. -/
theorem exampleIn_congr (hsource : Tree.SameFile t t' (exampleFile dir language.extension))
    (hscript : Tree.SameFile t t' (exampleFile dir "sh")) :
  exampleIn t' language dir = exampleIn t language dir
  := by
  have htext : ∀ path, Tree.SameFile t t' path → t.isFile path = true →
      textIn t' path = textIn t path := by
    intro path hsame hfile
    rw [textIn, textIn, hsame.readText hfile]
  have hscriptIn : scriptIn t' language dir = scriptIn t language dir := by
    simp only [scriptIn, hscript.isFile]
    split
    · rename_i h
      rw [htext _ hscript (Bool.and_eq_true_iff.mp h).1]
    · rfl
  simp only [exampleIn, hsource.isFile, hscriptIn]
  split
  · rw [htext _ hsource ‹_›]
  · rfl

/-- Examples of directories are the same in a tree in which each of them is. -/
theorem forall₂_exampleIn_congr {dirs : List String} {es : List Example}
    (h : ∀ dir ∈ dirs, exampleIn t' language dir = exampleIn t language dir)
    (hes : List.Forall₂ (fun dir e => exampleIn t language dir = .ok (some e)) dirs es) :
  List.Forall₂ (fun dir e => exampleIn t' language dir = .ok (some e)) dirs es
  := by
  apply ((List.forall₂_and_left _ _).mpr ⟨h, hes⟩).imp
  rintro dir e ⟨heq, he⟩
  rw [heq, he]

/-! ### The files of an example -/

/-- A text that can stand behind the last dot of a file name. -/
structure IsExtension (s : String) : Prop where
  ne_empty : s ≠ ""
  noDot : '.' ∉ s.toList
  noSlash : '/' ∉ s.toList

instance (s : String) : Decidable (IsExtension s) :=
  decidable_of_iff (s ≠ "" ∧ '.' ∉ s.toList ∧ '/' ∉ s.toList)
    ⟨fun ⟨hne, hdot, hslash⟩ => ⟨hne, hdot, hslash⟩, fun h => ⟨h.ne_empty, h.noDot, h.noSlash⟩⟩

theorem isExtension_of_mem_all (h : language ∈ Language.all) :
  IsExtension language.extension
  := by
  have hall : ∀ l ∈ Language.all, IsExtension l.extension := by
    decide
  apply hall language h

theorem shell_mem_all :
  Language.shell ∈ Language.all
  := by
  decide

theorem isExtension_sh :
  IsExtension "sh"
  := isExtension_of_mem_all shell_mem_all

theorem noSlash_baseName (path : String) :
  '/' ∉ (Path.baseName path).toList
  := by
  rw [Path.baseName, Path.fileName?]
  rcases h : (Path.names path).getLast?.filter (· ≠ "..") with _ | name
  · simp
  · obtain ⟨hlast, -⟩ := Option.filter_eq_some_iff.mp h
    have hmem := List.mem_of_getLast? hlast
    obtain ⟨hstep, -⟩ := List.mem_filter.mp hmem
    obtain ⟨cs, hcs, rfl⟩ := List.mem_map.mp hstep
    simpa using Text.not_mem_of_mem_splitOn hcs

/-- The name of a file of an example is plain. -/
theorem isPlain_append_extension {name extension : String} (hname : '/' ∉ name.toList)
    (h : IsExtension extension) :
  Path.IsPlain (name ++ "." ++ extension)
  := by
  have hlast : (name ++ "." ++ extension).toList.getLast? ≠ some '.' := by
    rw [String.toList_append, List.getLast?_append_of_ne_nil _ (by simpa using h.ne_empty)]
    intro hdot
    apply h.noDot (List.mem_of_getLast? hdot)
  constructor
  · simp [hname, h.noSlash]
  · rw [Path.staysPut, Bool.or_eq_false_iff, decide_eq_false_iff_not, decide_eq_false_iff_not]
    constructor
    · simp [h.ne_empty]
    · intro hdot
      apply hlast
      rw [hdot]
      rfl
  · intro hup
    apply hlast
    rw [hup]
    rfl

theorem IsExtension.ne_dot {s : String} (h : IsExtension s) :
  ∀ c ∈ s.toList.reverse, decide (c ≠ '.') = true
  := by
  intro c hc
  rw [decide_eq_true_eq]
  rintro rfl
  apply h.noDot (List.mem_reverse.mp hc)

theorem reverse_append_extension (name extension : String) :
  (name ++ "." ++ extension).toList.reverse
    = extension.toList.reverse ++ '.' :: name.toList.reverse
  := by
  simp

/-- Names of files with different extensions are different. -/
theorem extension_inj {name name' extension extension' : String} (h : IsExtension extension)
    (h' : IsExtension extension')
    (heq : name ++ "." ++ extension = name' ++ "." ++ extension') :
  extension = extension'
  := by
  have hbehind : ∀ name extension, IsExtension extension →
      (name ++ "." ++ extension).toList.reverse.takeWhile (· ≠ '.') = extension.toList.reverse := by
    intro name extension h
    rw [reverse_append_extension, List.takeWhile_append_of_pos h.ne_dot]
    simp
  have hlist := hbehind name extension h
  rw [heq, hbehind name' extension' h', List.reverse_inj] at hlist
  apply (String.ext hlist).symm

theorem extensionOfName?_append {name extension : String} (hname : name ≠ "")
    (h : IsExtension extension) :
  Path.extensionOfName? (name ++ "." ++ extension) = some extension
  := by
  have hreversed : name.toList.reverse ≠ [] := by
    simpa using hname
  obtain ⟨c, cs, hcs⟩ := List.exists_cons_of_ne_nil hreversed
  rw [Path.extensionOfName?, reverse_append_extension, hcs, List.dropWhile_append_of_pos h.ne_dot,
    List.takeWhile_append_of_pos h.ne_dot]
  simp

/-- The extension of the path of a file of an example is the one that it was made from. -/
theorem extension?_exampleFile {extension : String} (hdir : Path.baseName dir ≠ "")
    (h : IsExtension extension) :
  Path.extension? (exampleFile dir extension) = some extension
  := by
  have hplain := isPlain_append_extension (noSlash_baseName dir) h
  rw [Path.extension?, Path.fileName?, exampleFile, Path.names_join dir hplain]
  simp [Option.filter, hplain.notUp, extensionOfName?_append hdir h]

/-- A known language is found by its extension. -/
theorem byExtension?_of_mem_all (h : language ∈ Language.all) :
  Language.byExtension? language.extension = some language
  := by
  have hall : ∀ l ∈ Language.all, Language.byExtension? l.extension = some l := by
    decide
  apply hall language h

/-- A file of an example with the extension of a known language is read in that language. -/
theorem ofPath_exampleFile (hdir : Path.baseName dir ≠ "") (h : language ∈ Language.all)
    (text : String) :
  Annotated.File.ofPath (exampleFile dir language.extension) text
    = .ok (.ofText language.marker text)
  := by
  rw [Annotated.File.ofPath, extension?_exampleFile hdir (isExtension_of_mem_all h),
    Option.bind_some, byExtension?_of_mem_all h]

/-- A script is one of the shell. -/
theorem ofPath_script (hdir : Path.baseName dir ≠ "") (text : String) :
  Annotated.File.ofPath (exampleFile dir "sh") text = .ok (.ofText Language.shell.marker text)
  := ofPath_exampleFile hdir shell_mem_all text

/-! ### Failing to load -/

/-- The failure of reading a file that is there and is not text. -/
structure NotText (t : Tree) (path : String) (e : Failure) : Prop where
  isFile : t.isFile path = true
  readText : t.readText path = .error .notText
  failure : e = .cannotRead path .notText

/-- There is a shell file for the example of a directory beside its source file. -/
def hasScript (t : Tree) (language : Language) (dir : String) : Bool :=
  t.isFile (exampleFile dir "sh") && exampleFile dir "sh" ≠ exampleFile dir language.extension

theorem isFile_of_readText {path text : String} (h : t.readText path = .ok text) :
  t.isFile path = true
  := by
  obtain ⟨content, hread, -⟩ := bind_eq_ok.mp h
  apply Tree.isFile_of_read hread

theorem textIn_eq_ok {path text : String} :
  textIn t path = .ok text ↔ t.readText path = .ok text
  := mapError_eq_ok

theorem textIn_eq_error {path : String} (h : t.isFile path = true) :
  textIn t path = .error e ↔ NotText t path e
  := by
  rw [textIn, mapError_eq_error]
  constructor
  · rintro ⟨cause, hread, rfl⟩
    obtain rfl := Tree.readText_eq_error h hread
    exact ⟨h, hread, rfl⟩
  · rintro ⟨-, hread, rfl⟩
    exact ⟨.notText, hread, rfl⟩

theorem scriptIn_of_not_hasScript (h : hasScript t language dir = false) :
  scriptIn t language dir = .ok none
  := if_neg (by simpa [hasScript] using h)

theorem scriptIn_of_hasScript (hdir : Path.baseName dir ≠ "")
    (h : hasScript t language dir = true) :
  scriptIn t language dir
    = (textIn t (exampleFile dir "sh")).map fun text => some (.ofText Language.shell.marker text)
  := by
  apply (if_pos h).trans
  rcases textIn t (exampleFile dir "sh") with cause | text
  · rfl
  · change (Annotated.File.ofPath (exampleFile dir "sh") text >>= fun file => pure (some file)) = _
    rw [ofPath_script hdir]
    rfl

theorem scriptIn_eq_error (hdir : Path.baseName dir ≠ "") :
  scriptIn t language dir = .error e
    ↔ hasScript t language dir = true ∧ NotText t (exampleFile dir "sh") e
  := by
  rcases hscript : hasScript t language dir
  · rw [scriptIn_of_not_hasScript hscript]
    simp
  · rw [scriptIn_of_hasScript hdir hscript,
      ← textIn_eq_error (Bool.and_eq_true_iff.mp hscript).1]
    rcases textIn t (exampleFile dir "sh") with cause | text <;> simp [Except.map]

/-- An example is made from its source and then its script. -/
theorem exampleIn_of_hasSource (h : hasSource t language dir = true) :
  exampleIn t language dir
    = textIn t (exampleFile dir language.extension) >>= fun text =>
      scriptIn t language dir >>= fun script => .ok (some {
        name := Path.baseName dir
        id := Slug.ofName (Path.baseName dir)
        sourceFile := exampleFile dir language.extension
        source := .ofText language.marker text
        scriptFile := script.map fun _ => exampleFile dir "sh"
        script := script })
  := if_pos h

/-- Loading an example fails exactly if its source file is not text, or this is text and its script
is not. -/
theorem exampleIn_eq_error (hdir : Path.baseName dir ≠ "") :
  exampleIn t language dir = .error e
    ↔ NotText t (exampleFile dir language.extension) e
      ∨ (∃ text, t.readText (exampleFile dir language.extension) = .ok text)
        ∧ hasScript t language dir = true ∧ NotText t (exampleFile dir "sh") e
  := by
  rcases hsource : hasSource t language dir
  · have hfile : t.isFile (exampleFile dir language.extension) ≠ true := Bool.eq_false_iff.mp hsource
    rw [exampleIn_eq_none.mpr hsource]
    constructor
    · rintro ⟨⟩
    · rintro (h | ⟨⟨text, htext⟩, -⟩)
      · exact absurd h.isFile hfile
      · exact absurd (isFile_of_readText htext) hfile
  · rw [exampleIn_of_hasSource hsource, bind_eq_error, textIn_eq_error hsource]
    apply or_congr_right
    simp only [bind_eq_error, scriptIn_eq_error hdir, textIn_eq_ok]
    simp

/-! ### Loading all examples -/

/-- What is loaded from some directories. -/
def loadedIn (t : Tree) (language : Language) : List String → Except Failure Loaded
  | [] => return ⟨[], 0⟩
  | dir :: dirs => do
    let first ← exampleIn t language dir
    let rest ← loadedIn t language dirs
    return .cons first rest

theorem loadAll_answers (t : Tree) (language : Language) (dirs : List String) :
  (loadAll language dirs).Answers t (loadedIn t language dirs)
  := by
  induction dirs with
  | nil => apply Action.answers_pure
  | cons dir dirs ih =>
    apply Action.answers_bind (load_answers t language dir)
    intro first
    apply Action.answers_bind ih
    intro rest
    apply Action.answers_pure

theorem loadedIn_cons_eq_ok {dirs : List String} {loaded : Loaded} :
  loadedIn t language (dir :: dirs) = .ok loaded
    ↔ ∃ first rest, exampleIn t language dir = .ok first ∧ loadedIn t language dirs = .ok rest
      ∧ loaded = .cons first rest
  := by
  simp only [loadedIn, bind_eq_ok]
  constructor
  · rintro ⟨first, hfirst, rest, hrest, hloaded⟩
    cases hloaded
    exact ⟨first, rest, hfirst, hrest, rfl⟩
  · rintro ⟨first, rest, hfirst, hrest, rfl⟩
    exact ⟨first, hfirst, rest, hrest, rfl⟩

/-- The examples of some directories are those of the directories with a source file, in order, and
the other directories are counted. -/
theorem loadedIn_eq_ok {dirs : List String} {es : List Example} {n : Nat} :
  loadedIn t language dirs = .ok ⟨es, n⟩
    ↔ List.Forall₂ (fun dir e => exampleIn t language dir = .ok (some e))
        (dirs.filter (hasSource t language)) es
      ∧ n = (dirs.filter fun dir => !hasSource t language dir).length
  := by
  induction dirs generalizing es n with
  | nil =>
    constructor
    · intro h
      cases h
      exact ⟨.nil, rfl⟩
    · rintro ⟨h, rfl⟩
      cases h
      rfl
  | cons dir dirs ih =>
    rw [loadedIn_cons_eq_ok]
    -- What is added for the first directory depends on whether it has a source file.
    by_cases hsource : hasSource t language dir = true
    · rw [List.filter_cons_of_pos hsource, List.filter_cons_of_neg (by simp [hsource])]
      constructor
      · rintro ⟨_ | e, rest, hfirst, hrest, hloaded⟩
        · simp [exampleIn_eq_none.mp hfirst] at hsource
        · cases hloaded
          obtain ⟨hes, hcount⟩ := ih.mp hrest
          exact ⟨.cons hfirst hes, hcount⟩
      · rintro ⟨h, hcount⟩
        obtain ⟨e, es, hfirst, hes, rfl⟩ := List.forall₂_cons_left_iff.mp h
        exact ⟨some e, ⟨es, n⟩, hfirst, ih.mpr ⟨hes, hcount⟩, rfl⟩
    · rw [Bool.not_eq_true] at hsource
      have hnone := exampleIn_eq_none.mpr hsource
      rw [List.filter_cons_of_neg (by simp [hsource]), List.filter_cons_of_pos (by simp [hsource])]
      constructor
      · rintro ⟨first, rest, hfirst, hrest, hloaded⟩
        rw [hnone] at hfirst
        cases hfirst
        cases hloaded
        obtain ⟨hes, hcount⟩ := ih.mp hrest
        exact ⟨hes, by rw [hcount, List.length_cons]⟩
      · rintro ⟨hes, rfl⟩
        exact ⟨none, ⟨es, _⟩, hnone, ih.mpr ⟨hes, rfl⟩, rfl⟩

/-- Loading fails at one of the directories. -/
theorem loadedIn_eq_error {dirs : List String} (h : loadedIn t language dirs = .error e) :
  ∃ dir ∈ dirs, exampleIn t language dir = .error e
  := by
  induction dirs with
  | nil => cases h
  | cons dir dirs ih =>
    rw [loadedIn] at h
    rcases hfirst : exampleIn t language dir with cause | first
    · rw [hfirst] at h
      cases h
      exact ⟨dir, List.mem_cons_self, hfirst⟩
    · rw [hfirst] at h
      rcases hrest : loadedIn t language dirs with cause | rest
      · rw [hrest] at h
        cases h
        obtain ⟨other, hmem, hother⟩ := ih hrest
        exact ⟨other, List.mem_cons_of_mem dir hmem, hother⟩
      · rw [hrest] at h
        cases h

end Gallery
