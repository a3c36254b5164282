import Gallery.Proofs.Site.Rediscovery

/-!
# Finding the selected examples

The directories of the selected examples are found in the order of the bytes of their names
(`isSelection_exampleDirs`), and there is one list only of the right directories in that order
(`IsSelection.eq`).  So what is found does not depend on the order in which a directory
lists its entries, nor on the order of the patterns, and patterns select from what is found without
any (`discover_selection`).
-/

namespace Gallery

open Files

variable {t t' : Tree} {dir : String} {only more : List Glob.Pattern}

/-! ### The selected directories -/

/-- The paths are those of the entries of a directory that are directories themselves and whose
names are accepted by one of the patterns, or of all of them if there are no patterns.  Each path is
there once, and the names ascend. -/
structure IsSelection (t : Tree) (dir : String) (only : List Glob.Pattern) (dirs : List String) :
    Prop where
  mem_iff : ∀ path, path ∈ dirs ↔ ∃ name ∈ t.list dir, path = Path.join dir name.text
    ∧ t.isDir path = true ∧ (only = [] ∨ ∃ p ∈ only, p.accepts name.text = true)
  nodup : dirs.Nodup
  ascending : Ascending dirs

/-- The trees have the same entries in a directory, in any order, and the same ones of them are
directories. -/
structure SameEntries (t t' : Tree) (dir : String) : Prop where
  isDir : t'.isDir dir = t.isDir dir
  perm : (t'.list dir).Perm (t.list dir)
  isDir_join : ∀ name ∈ t.list dir,
    t'.isDir (Path.join dir name.text) = t.isDir (Path.join dir name.text)

theorem isSelected_eq_true {name : String} :
  isSelected only name = true ↔ only = [] ∨ ∃ p ∈ only, p.accepts name = true
  := by
  simp [isSelected]

theorem isSelection_exampleDirs (t : Tree) (dir : String) (only : List Glob.Pattern) :
  IsSelection t dir only (exampleDirs t dir only)
  := by
  have hascending := ascending_exampleDirs t dir only
  refine ⟨?_, hascending.nodup, hascending⟩
  intro path
  simp only [exampleDirs, List.mem_map, List.mem_mergeSort, List.mem_filter, dirNames]
  constructor
  · rintro ⟨_, ⟨⟨⟨name, hname, rfl⟩, hdir⟩, hselected⟩, rfl⟩
    exact ⟨name, hname, rfl, hdir, isSelected_eq_true.mp hselected⟩
  · rintro ⟨name, hname, rfl, hdir, hselected⟩
    exact ⟨name.text, ⟨⟨⟨name, hname, rfl⟩, hdir⟩, isSelected_eq_true.mpr hselected⟩, rfl⟩

namespace IsSelection

variable {dirs dirs' others : List String}

/-- There is one selection only. -/
theorem eq (h : IsSelection t dir only dirs) (h' : IsSelection t dir only dirs') :
  dirs = dirs'
  := by
  apply h.ascending.eq_of_mem_iff h'.ascending
  intro path
  rw [h.mem_iff, h'.mem_iff]

theorem eq_join_baseName {path : String} (h : IsSelection t dir only dirs) (hpath : path ∈ dirs) :
  path = Path.join dir (Path.baseName path)
  := by
  obtain ⟨name, -, rfl, -, -⟩ := (h.mem_iff path).mp hpath
  rw [Path.baseName_join dir (Path.isPlain_text name)]

/-- It does not matter in which order the entries are listed. -/
theorem sameEntries (hsame : SameEntries t t' dir) (h : IsSelection t dir only dirs) :
  IsSelection t' dir only dirs
  := by
  refine ⟨?_, h.nodup, h.ascending⟩
  intro path
  rw [h.mem_iff]
  constructor
  · rintro ⟨name, hname, rfl, hdir, hselected⟩
    refine ⟨name, hsame.perm.mem_iff.mpr hname, rfl, ?_, hselected⟩
    rwa [hsame.isDir_join name hname]
  · rintro ⟨name, hname, rfl, hdir, hselected⟩
    have hname' := hsame.perm.mem_iff.mp hname
    refine ⟨name, hname', rfl, ?_, hselected⟩
    rwa [← hsame.isDir_join name hname']

/-- Patterns select from what is selected without any. -/
theorem filter (h : IsSelection t dir [] dirs) (honly : only ≠ []) :
  IsSelection t dir only (dirs.filter fun path => only.any (·.accepts (Path.baseName path)))
  := by
  refine ⟨?_, h.nodup.filter _, h.ascending.filter _⟩
  intro path
  rw [List.mem_filter, h.mem_iff, List.any_eq_true]
  constructor
  · rintro ⟨⟨name, hname, rfl, hdir, -⟩, haccepts⟩
    rw [Path.baseName_join dir (Path.isPlain_text name)] at haccepts
    exact ⟨name, hname, rfl, hdir, .inr haccepts⟩
  · rintro ⟨name, hname, rfl, hdir, hselected⟩
    rw [Path.baseName_join dir (Path.isPlain_text name)]
    exact ⟨⟨name, hname, rfl, hdir, .inl rfl⟩, hselected.resolve_left honly⟩

/-- What patterns and others select together is what they select apart, unless there are none. -/
theorem union (h : IsSelection t dir only dirs) (h' : IsSelection t dir more others)
    (honly : only ≠ []) (hmore : more ≠ []) :
  IsSelection t dir (only ++ more) (sortedByName (dirs ∪ others))
  := by
  have hascending : Ascending (sortedByName (dirs ∪ others)) := by
    apply ascending_sortedByName (h'.nodup.union dirs)
    intro path hpath
    obtain hpath | hpath := List.mem_union_iff.mp hpath
    · exact h.eq_join_baseName hpath
    · exact h'.eq_join_baseName hpath
  refine ⟨?_, hascending.nodup, hascending⟩
  intro path
  rw [mem_sortedByName, List.mem_union_iff, h.mem_iff, h'.mem_iff]
  simp only [honly, hmore, List.append_eq_nil_iff, false_and, false_or, List.mem_append,
    or_and_right, exists_or, and_or_left]

end IsSelection

/-! ### Finding -/

/-- In a directory, the selected directories are found, and no other list. -/
theorem discover_yields_iff_isSelection {dirs : List String} (hdir : t.isDir dir = true) :
  (discover dir only).Yields t dirs t ↔ IsSelection t dir only dirs
  := by
  have hselection := isSelection_exampleDirs t dir only
  rw [discover_yields_iff]
  constructor
  · rintro ⟨-, rfl, -⟩
    exact hselection
  · intro h
    exact ⟨hdir, h.eq hselection, rfl⟩

/-- Neither the order of the patterns matters nor how often each is given. -/
theorem discover_congr {only' : List Glob.Pattern} (h : ∀ p, p ∈ only' ↔ p ∈ only) :
  discover dir only' = discover dir only
  := by
  have hselected : isSelected only' = isSelected only := by
    funext name
    rw [Bool.eq_iff_iff, isSelected_eq_true, isSelected_eq_true]
    simp only [h, List.eq_nil_iff_forall_not_mem]
  have hdirs : ∀ t, exampleDirs t dir only' = exampleDirs t dir only := by
    intro t
    rw [exampleDirs, exampleDirs, hselected]
  simp only [discover, hselected, hdirs]

/-- In what is no directory nothing is found, whatever the patterns.  In a directory the selected
directories are found, in the order of the bytes of their names.  They are the same in whatever
order the entries are listed; they are those among all directories whose names are accepted, in the
same order, if there are patterns; neither the order of the patterns matters nor how often each is
given; and with more patterns, what these find apart is found as well. -/
theorem discover_selection (t : Tree) (dir : String) :
  (t.isDir dir = false → ∀ only, (discover dir only).Fails t (.noExamplesDir dir) t)
    ∧ (t.isDir dir = true → ∀ only, ∃ dirs, (discover dir only).Yields t dirs t
      ∧ IsSelection t dir only dirs
      ∧ (∀ t', SameEntries t t' dir → (discover dir only).Yields t' dirs t')
      ∧ (only ≠ [] → ∃ all, (discover dir []).Yields t all t
        ∧ dirs = all.filter fun path => only.any (·.accepts (Path.baseName path)))
      ∧ (∀ only', (∀ p, p ∈ only' ↔ p ∈ only) →
        (discover dir only').run t = (discover dir only).run t)
      ∧ ∀ more others, only ≠ [] → more ≠ [] → (discover dir more).Yields t others t →
        (discover dir (only ++ more)).Yields t (sortedByName (dirs ∪ others)) t)
  := by
  constructor
  · intro hdir only
    rw [(discover_answers t dir only).fails_iff, if_neg (by simp [hdir])]
    exact ⟨rfl, rfl⟩
  · intro hdir only
    have hselection := isSelection_exampleDirs t dir only
    have hall := isSelection_exampleDirs t dir []
    use exampleDirs t dir only, (discover_yields_iff_isSelection hdir).mpr hselection, hselection
    refine ⟨?order, ?filter, ?patterns, ?union⟩
    case order =>
      intro t' hsame
      apply (discover_yields_iff_isSelection (hsame.isDir.trans hdir)).mpr
      apply hselection.sameEntries hsame
    case filter =>
      intro honly
      use exampleDirs t dir [], (discover_yields_iff_isSelection hdir).mpr hall
      apply hselection.eq (hall.filter honly)
    case patterns =>
      intro only' h
      rw [discover_congr h]
    case union =>
      intro more others honly hmore hothers
      rw [discover_yields_iff_isSelection hdir] at hothers ⊢
      apply hselection.union hothers honly hmore

/-! ### Three directories in another order -/

/-- A directory with its entries in the reverse order, or a file. -/
def backwards : Node → Node
  | .file content => .file content
  | .dir entries => .dir entries.reverse

/-- The three directories, the last one first. -/
def threeDirsBackwards : Tree where
  root := threeDirs.root.map fun (name, node) => (name, backwards node)
  here := []

theorem sameEntries_threeDirsBackwards :
  SameEntries threeDirs threeDirsBackwards "tour"
  := by
  constructor <;> decide +kernel

theorem discover_yields_of_three {names : List String}
    (hnames : (dirNames threeDirs "tour").filter (isSelected only) = names)
    (hsorted : names.Pairwise fun a b => a ≤ b) :
  (discover "tour" only).Yields threeDirs (names.map (Path.join "tour")) threeDirs
  := by
  rw [discover_yields_iff, exampleDirs_of_sorted hnames hsorted]
  exact ⟨by decide +kernel, rfl, rfl⟩

/-- The pattern `[!c]`. -/
def otherThanC : Glob.Pattern :=
  [.noneOf [.single 'c']]

/-- The directories other than "c" are found in a tree that lists them backwards, and the third one
with them if it is selected too. -/
theorem discover_selection_backwards :
  (discover "tours" [otherThanC]).Fails threeDirs (.noExamplesDir "tours") threeDirs
    ∧ (discover "tour" [otherThanC]).Yields threeDirsBackwards ["tour/b", "tour/d"]
      threeDirsBackwards
    ∧ (∃ all, (discover "tour" []).Yields threeDirs all threeDirs ∧ ["tour/b", "tour/d"]
      = all.filter fun path => [otherThanC].any (·.accepts (Path.baseName path)))
    ∧ (discover "tour" [otherThanC, otherThanC]).run threeDirs
      = (discover "tour" [otherThanC]).run threeDirs
    ∧ sortedByName (["tour/b", "tour/d"] ∪ ["tour/c"]) = ["tour/b", "tour/c", "tour/d"]
  := by
  obtain ⟨hfails, -⟩ := discover_selection threeDirs "tours"
  obtain ⟨-, hfinds⟩ := discover_selection threeDirs "tour"
  obtain ⟨dirs, hdirs, -, horder, hfilter, hpatterns, hunion⟩ :=
    hfinds (by decide +kernel) [otherThanC]
  have hbd : (dirNames threeDirs "tour").filter (isSelected [otherThanC]) = ["b", "d"] := by
    decide +kernel
  have hc : (dirNames threeDirs "tour").filter (isSelected [[.char 'c']]) = ["c"] := by
    decide +kernel
  have hbcd : (dirNames threeDirs "tour").filter (isSelected ([otherThanC] ++ [[.char 'c']]))
      = ["b", "c", "d"] := by
    decide +kernel
  obtain rfl : dirs = ["tour/b", "tour/d"] :=
    Action.eq_of_yields hdirs (discover_yields_of_three hbd (by decide +kernel))
  have hboth := hunion _ _ (by simp) (by simp) (discover_yields_of_three hc (by decide +kernel))
  use hfails (by decide +kernel) _, horder _ sameEntries_threeDirsBackwards
  use hfilter (by simp), hpatterns _ (by simp)
  apply Action.eq_of_yields hboth (discover_yields_of_three hbcd (by decide +kernel))

end Gallery
