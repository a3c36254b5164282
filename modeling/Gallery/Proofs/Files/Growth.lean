import Gallery.Proofs.Files.Put

/-!
# Trees that keep their directories

A tree that grows keeps the directories that it has.  A path that leads somewhere leads to the same
location when the tree has grown (`KeepsDirs.locate`), though paths that led nowhere may lead
somewhere now.  A path to a plain name within a directory leads to the entry of that name, if the
directory is there (`locate_join_eq_ok`).  Two trees have the same file at a path if the same
content can be read there, or none (`SameFile`).  What is said of trees that have grown rests on
the directories that are in both (`locate_join_iff`).
-/

namespace Gallery.Files.Tree

variable {t t' t'' : Tree} {loc loc' : Location} {path base s : String}

/-- The second tree has the directories of the first one, and the same working directory. -/
structure KeepsDirs (t t' : Tree) : Prop where
  here : t'.here = t.here
  lookup_dir : ∀ loc, t.lookup loc = some .dir → t'.lookup loc = some .dir

theorem SameDirs.keepsDirs (h : SameDirs t t') :
  KeepsDirs t t'
  := by
  constructor
  · apply h.here
  · intro loc hdir
    rw [h.lookup_dir]
    apply hdir

theorem origin_eq (h : t'.here = t.here) (path : String) :
  t'.origin path = t.origin path
  := by
  simp only [origin, h]

namespace KeepsDirs

theorem refl (t : Tree) :
  KeepsDirs t t
  := ⟨rfl, fun _ h => h⟩

theorem trans (h : KeepsDirs t t') (h' : KeepsDirs t' t'') :
  KeepsDirs t t''
  := by
  constructor
  · rw [h'.here, h.here]
  · intro loc hdir
    apply h'.lookup_dir
    apply h.lookup_dir loc hdir

/-- Steps that lead somewhere lead there when the tree has grown. -/
theorem walk (h : KeepsDirs t t') {steps : List String} (hwalk : t.walk loc steps = .ok loc') :
  t'.walk loc steps = .ok loc'
  := by
  induction steps generalizing loc with
  | nil => apply hwalk
  | cons step steps ih =>
    obtain ⟨hdir, next, hnext, hsteps⟩ := walk_cons_eq_ok.mp hwalk
    rw [walk_cons_eq_ok]
    use h.lookup_dir loc hdir, next, hnext
    apply ih hsteps

/-- A path that leads somewhere leads there when the tree has grown. -/
theorem locate (h : KeepsDirs t t') (hlocate : t.locate path = .ok loc) :
  t'.locate path = .ok loc
  := by
  obtain ⟨hcheck, hne, hwalk⟩ := Tree.locate_eq_ok.mp hlocate
  rw [Tree.locate_eq_ok, origin_eq h.here]
  use hcheck, hne
  apply h.walk hwalk

end KeepsDirs

theorem isDir_eq_true :
  t.isDir path = true ↔ ∃ loc, t.locate path = .ok loc ∧ t.lookup loc = some .dir
  := by
  rw [isDir, find?]
  rcases t.locate path with e | loc <;> simp

theorem KeepsDirs.isDir (h : KeepsDirs t t') (hdir : t.isDir path = true) :
  t'.isDir path = true
  := by
  obtain ⟨loc, hlocate, hlookup⟩ := isDir_eq_true.mp hdir
  rw [isDir_eq_true]
  use loc, h.locate hlocate, h.lookup_dir loc hlookup

theorem ne_empty_of_isDir (h : t.isDir path = true) :
  path ≠ ""
  := by
  obtain ⟨loc, hlocate, -⟩ := isDir_eq_true.mp h
  apply (locate_eq_ok.mp hlocate).2.1

/-! ### Paths within a directory -/

theorem checkPath_eq_ok {u : Unit} :
  checkPath path = .ok u ↔ '\x00' ∉ path.toList ∧ path.utf8ByteSize < pathSizeLimit
  := by
  rw [checkPath]
  split
  · simp_all
  · split
    · simp_all
    · simp_all

theorem exists_join_eq (base s : String) :
  ∃ sep, Path.join base s = base ++ sep ++ s
  := by
  rw [Path.join]
  split
  · use ""
    simp
  · use "/"

theorem checkPath_of_join (h : checkPath (Path.join base s) = .ok ()) :
  checkPath base = .ok ()
  := by
  obtain ⟨sep, hjoin⟩ := exists_join_eq base s
  rw [hjoin, checkPath_eq_ok] at h
  rw [checkPath_eq_ok]
  simp only [String.toList_append, List.mem_append, not_or, String.utf8ByteSize_append] at h
  constructor
  · apply h.1.1.1
  · omega

theorem isAbsolute_join (hbase : base ≠ "") :
  Path.isAbsolute (Path.join base s) = Path.isAbsolute base
  := by
  obtain ⟨sep, hjoin⟩ := exists_join_eq base s
  have hne : base.toList ≠ [] := by
    simpa using hbase
  rw [Path.isAbsolute, Path.isAbsolute, hjoin, String.toList_append, String.toList_append,
    List.append_assoc, List.head?_append_of_ne_nil _ hne]

theorem origin_join (hbase : base ≠ "") :
  t.origin (Path.join base s) = t.origin base
  := by
  rw [origin, origin, isAbsolute_join hbase]

/-- A step that stays put leads nowhere else, but it starts from a directory. -/
theorem walk_concat_of_staysPut {steps : List String} {step : String}
    (hstep : Path.staysPut step = true) :
  t.walk loc (steps ++ [step]) = .ok loc' ↔ t.walk loc steps = .ok loc' ∧ t.lookup loc' = some .dir
  := by
  have hstay : ∀ dir, stepFrom dir step = .ok loc' ↔ dir = loc' := by
    intro dir
    simp [stepFrom, hstep]
  simp only [walk_concat_eq_ok, hstay]
  constructor
  · rintro ⟨dir, hwalk, hdir, rfl⟩
    exact ⟨hwalk, hdir⟩
  · rintro ⟨hwalk, hdir⟩
    exact ⟨loc', hwalk, hdir, rfl⟩

/-- A path to a plain name within a directory leads to the entry of that name. -/
theorem locate_join_eq_ok (hbase : base ≠ "") (hs : Path.IsPlain s) :
  t.locate (Path.join base s) = .ok loc
    ↔ checkPath (Path.join base s) = .ok () ∧ ∃ dir name, t.locate base = .ok dir
      ∧ t.lookup dir = some .dir ∧ Name.ofString? s = some name ∧ loc = dir ++ [name]
  := by
  have hne : Path.join base s ≠ "" := by
    obtain ⟨sep, hjoin⟩ := exists_join_eq base s
    simp [hjoin, hbase]
  obtain ⟨ss, hjoin, hsteps⟩ := Path.exists_steps_join base hs
  have hparent : ∀ dir, (t.walk (t.origin base) ss = .ok dir ∧ t.lookup dir = some .dir)
      ↔ (t.walk (t.origin base) (Path.steps base) = .ok dir ∧ t.lookup dir = some .dir) := by
    intro dir
    obtain hsteps | hsteps := hsteps
    · rw [hsteps]
    · rw [hsteps, walk_concat_of_staysPut rfl, and_assoc, and_self]
  rw [locate_eq_ok, origin_join hbase, hjoin, walk_concat_eq_ok]
  constructor
  · rintro ⟨hcheck, -, dir, hwalk, hdir, hlast⟩
    obtain ⟨name, hname, rfl⟩ := (stepFrom_eq_ok hs).mp hlast
    use hcheck, dir, name
    rw [locate_eq_ok]
    exact ⟨⟨checkPath_of_join hcheck, hbase, ((hparent dir).mp ⟨hwalk, hdir⟩).1⟩, hdir, hname, rfl⟩
  · rintro ⟨hcheck, dir, name, hlocate, hdir, hname, rfl⟩
    obtain ⟨-, -, hwalk⟩ := locate_eq_ok.mp hlocate
    use hcheck, hne, dir, ((hparent dir).mpr ⟨hwalk, hdir⟩).1, hdir
    rw [stepFrom_eq_ok hs]
    use name, hname

/-! ### Files that are the same -/

/-- What can be read at a path is the same in both trees. -/
def SameFile (t t' : Tree) (path : String) : Prop :=
  ∀ content, t'.read path = .ok content ↔ t.read path = .ok content

theorem isFile_eq_true :
  t.isFile path = true ↔ ∃ content, t.read path = .ok content
  := by
  constructor
  · intro h
    rw [isFile, find?] at h
    rcases hlocate : t.locate path with e | loc
    · simp [hlocate] at h
    · rcases hlookup : t.lookup loc with _ | content | _
      · simp [hlocate, hlookup] at h
      · use content
        rw [read_eq_ok]
        use loc
      · simp [hlocate, hlookup] at h
  · rintro ⟨content, h⟩
    apply isFile_of_read h

namespace SameFile

theorem refl (t : Tree) (path : String) :
  SameFile t t path
  := fun _ => Iff.rfl

theorem symm (h : SameFile t t' path) :
  SameFile t' t path
  := fun content => (h content).symm

theorem isFile (h : SameFile t t' path) :
  t'.isFile path = t.isFile path
  := by
  rw [Bool.eq_iff_iff, isFile_eq_true, isFile_eq_true]
  apply exists_congr h

/-- The text of a file that is there is the same in both trees. -/
theorem readText (h : SameFile t t' path) (hfile : t.isFile path = true) :
  t'.readText path = t.readText path
  := by
  obtain ⟨content, hread⟩ := isFile_eq_true.mp hfile
  rw [Tree.readText, Tree.readText, hread, (h content).mpr hread]

end SameFile

/-! ### Directories that are in both trees -/

/-- Steps that lead somewhere in both trees lead to the same location. -/
theorem walk_unique {steps : List String} {a b : Location} (h : t.walk loc steps = .ok a)
    (h' : t'.walk loc steps = .ok b) :
  b = a
  := by
  induction steps generalizing loc with
  | nil =>
    cases h
    cases h'
    rfl
  | cons step steps ih =>
    obtain ⟨-, next, hnext, hsteps⟩ := walk_cons_eq_ok.mp h
    obtain ⟨-, next', hnext', hsteps'⟩ := walk_cons_eq_ok.mp h'
    rw [hnext] at hnext'
    cases hnext'
    apply ih hsteps hsteps'

/-- A path that leads somewhere in both trees leads to the same location. -/
theorem locate_unique (hhere : t'.here = t.here) (h : t.locate path = .ok loc)
    (h' : t'.locate path = .ok loc') :
  loc' = loc
  := by
  obtain ⟨-, -, hwalk⟩ := locate_eq_ok.mp h
  obtain ⟨-, -, hwalk'⟩ := locate_eq_ok.mp h'
  rw [origin_eq hhere] at hwalk'
  apply walk_unique hwalk hwalk'

section BothDirs

variable (hhere : t'.here = t.here) (hbase : t.isDir base = true) (hbase' : t'.isDir base = true)
  (hs : Path.IsPlain s)

include hhere hbase hbase' hs

/-- Within a directory that is in both trees, paths lead to the same locations. -/
theorem locate_join_iff :
  t'.locate (Path.join base s) = .ok loc ↔ t.locate (Path.join base s) = .ok loc
  := by
  obtain ⟨dir, hlocate, hdir⟩ := isDir_eq_true.mp hbase
  obtain ⟨dir', hlocate', hdir'⟩ := isDir_eq_true.mp hbase'
  obtain rfl := locate_unique hhere hlocate hlocate'
  have hne := ne_empty_of_isDir hbase
  rw [locate_join_eq_ok hne hs, locate_join_eq_ok hne hs, hlocate, hlocate']
  apply and_congr_right
  intro _
  apply exists_congr
  intro other
  apply exists_congr
  intro name
  constructor
  · rintro ⟨heq, -, hname, hloc⟩
    cases heq
    exact ⟨rfl, hdir, hname, hloc⟩
  · rintro ⟨heq, -, hname, hloc⟩
    cases heq
    exact ⟨rfl, hdir', hname, hloc⟩

/-- A file in a directory that is in both trees is the same if what is found at its location is. -/
theorem sameFile_join
    (hfile : ∀ loc content, t.locate (Path.join base s) = .ok loc →
      (t'.lookup loc = some (.file content) ↔ t.lookup loc = some (.file content))) :
  SameFile t t' (Path.join base s)
  := by
  intro content
  rw [read_eq_ok, read_eq_ok]
  apply exists_congr
  intro loc
  rw [locate_join_iff hhere hbase hbase' hs]
  apply and_congr_right
  apply hfile

end BothDirs

/-- A file in a directory that is there is the same if what is found at its location is. -/
theorem KeepsDirs.sameFile_join (h : KeepsDirs t t') (hbase : t.isDir base = true)
    (hs : Path.IsPlain s)
    (hfile : ∀ loc content, t.locate (Path.join base s) = .ok loc →
      (t'.lookup loc = some (.file content) ↔ t.lookup loc = some (.file content))) :
  SameFile t t' (Path.join base s)
  := Tree.sameFile_join h.here hbase (h.isDir hbase) hs hfile

/-- The only reason for which the text of a file cannot be read is that it has none. -/
theorem readText_eq_error {cause : Error} (hfile : t.isFile path = true)
    (h : t.readText path = .error cause) :
  cause = .notText
  := by
  obtain ⟨content, hread⟩ := isFile_eq_true.mp hfile
  simp only [readText, hread, bind, Except.bind] at h
  split at h
  · cases h
  · cases h
    rfl

end Gallery.Files.Tree
