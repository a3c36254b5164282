import Gallery.Files.Tree.Basic
import Gallery.Proofs.Files.Path

/-!
# Following paths

Where a path leads depends on the directories of a tree only: two trees that have the same ones
agree on it (`SameDirs.locate_eq_ok`).  A path that can be followed ends in a directory, or next
to one (`lookup_dropLast_of_locate`), and a path to a plain name within a directory ends in that
name (`exists_locate_join`).
-/

namespace Gallery.Files

/-- A sequence succeeds if each of its parts does. -/
theorem bind_eq_ok {ε α β : Type} {x : Except ε α} {f : α → Except ε β} {b : β} :
  x >>= f = .ok b ↔ ∃ a, x = .ok a ∧ f a = .ok b
  := by
  cases x <;> simp [bind, Except.bind]

/-- A sequence fails if one of its parts does, after those before it have succeeded. -/
theorem bind_eq_error {ε α β : Type} {x : Except ε α} {f : α → Except ε β} {e : ε} :
  x >>= f = .error e ↔ x = .error e ∨ ∃ a, x = .ok a ∧ f a = .error e
  := by
  cases x <;> simp [bind, Except.bind]

/-- Naming a failure does not change what succeeds. -/
theorem mapError_eq_ok {ε ε' α : Type} {x : Except ε α} {f : ε → ε'} {a : α} :
  x.mapError f = .ok a ↔ x = .ok a
  := by
  cases x <;> simp [Except.mapError]

theorem mapError_eq_error {ε ε' α : Type} {x : Except ε α} {f : ε → ε'} {e : ε'} :
  x.mapError f = .error e ↔ ∃ cause, x = .error cause ∧ e = f cause
  := by
  cases x <;> simp [Except.mapError, eq_comm]

/-- What has a value has succeeded. -/
theorem eq_ok_of_toOption {ε α : Type} {x : Except ε α} {a : α} (h : x.toOption = some a) :
  x = .ok a
  := by
  rcases x with e | b
  · cases h
  · cases h
    rfl

namespace Tree

variable {t t' : Tree} {loc loc' : Location} {path : String}

theorem requireDir_eq_ok {u : Unit} :
  t.requireDir loc = .ok u ↔ t.lookup loc = some .dir
  := by
  rw [requireDir]
  rcases t.lookup loc with _ | content | _ <;> simp

theorem walk_cons_eq_ok {step : String} {steps : List String} :
  t.walk loc (step :: steps) = .ok loc'
    ↔ t.lookup loc = some .dir ∧ ∃ next, stepFrom loc step = .ok next ∧ t.walk next steps = .ok loc'
  := by
  simp only [walk, bind_eq_ok, requireDir_eq_ok, exists_and_left]
  simp

/-- The last step is taken from where the others lead. -/
theorem walk_concat_eq_ok {steps : List String} {step : String} :
  t.walk loc (steps ++ [step]) = .ok loc'
    ↔ ∃ dir, t.walk loc steps = .ok dir ∧ t.lookup dir = some .dir ∧ stepFrom dir step = .ok loc'
  := by
  induction steps generalizing loc with
  | nil =>
    rw [List.nil_append, walk_cons_eq_ok]
    simp [walk]
  | cons first steps ih =>
    simp only [List.cons_append, walk_cons_eq_ok, ih]
    constructor
    · rintro ⟨hdir, next, hnext, dir, hsteps, hlast⟩
      exact ⟨dir, ⟨hdir, next, hnext, hsteps⟩, hlast⟩
    · rintro ⟨dir, ⟨hdir, next, hnext, hsteps⟩, hlast⟩
      exact ⟨hdir, next, hnext, dir, hsteps, hlast⟩

theorem locate_eq_ok :
  t.locate path = .ok loc
    ↔ checkPath path = .ok () ∧ path ≠ "" ∧ t.walk (t.origin path) (Path.steps path) = .ok loc
  := by
  rw [locate, bind_eq_ok]
  constructor
  · rintro ⟨_, hcheck, h⟩
    split at h
    · cases h
    · exact ⟨hcheck, ‹_›, h⟩
  · rintro ⟨hcheck, hne, h⟩
    use (), hcheck
    rw [if_neg hne, h]

/-- A plain step leads to the entry of that name. -/
theorem stepFrom_eq_ok {s : String} (hs : Path.IsPlain s) :
  stepFrom loc s = .ok loc' ↔ ∃ name, Name.ofString? s = some name ∧ loc' = loc ++ [name]
  := by
  have hput := hs.leads
  have hup := hs.notUp
  rcases h : Name.ofString? s with _ | name
  · simp [stepFrom, hput, hup, h]
  · simp [stepFrom, hput, hup, h, eq_comm]

theorem text_of_ofString? {s : String} {name : Name} (h : Name.ofString? s = some name) :
  name.text = s
  := by
  rw [Name.ofString?] at h
  split at h
  · cases h
    rfl
  · cases h

/-- A path to a plain name within a directory ends in that name. -/
theorem exists_locate_join {base s : String} (hs : Path.IsPlain s)
    (h : t.locate (Path.join base s) = .ok loc) :
  ∃ dir name, loc = dir ++ [name] ∧ name.text = s
  := by
  obtain ⟨-, -, hwalk⟩ := locate_eq_ok.mp h
  obtain ⟨ss, hsteps, -⟩ := Path.exists_steps_join base hs
  rw [hsteps] at hwalk
  obtain ⟨dir, -, -, hlast⟩ := walk_concat_eq_ok.mp hwalk
  obtain ⟨name, hname, rfl⟩ := (stepFrom_eq_ok hs).mp hlast
  use dir, name, rfl
  apply text_of_ofString? hname

/-- A step from a directory leads into a directory. -/
theorem lookup_dropLast_of_stepFrom {step : String} (hdir : t.lookup loc = some .dir)
    (h : stepFrom loc step = .ok loc') :
  t.lookup loc'.dropLast = some .dir
  := by
  have habove : t.lookup loc.dropLast = some .dir := by
    apply lookup_dropLast
    simp [hdir]
  rw [stepFrom] at h
  split at h
  · cases h
    apply habove
  · split at h
    · cases h
      apply lookup_dropLast
      simp [habove]
    · split at h
      · cases h
        simpa using hdir
      · cases h

/-- The location to which a path leads lies in a directory. -/
theorem lookup_dropLast_of_locate (h : t.locate path = .ok loc) :
  t.lookup loc.dropLast = some .dir
  := by
  obtain ⟨-, -, hwalk⟩ := locate_eq_ok.mp h
  have hne : Path.steps path ≠ [] := Text.splitOn_ne_nil '/' path
  rw [← List.dropLast_append_getLast hne] at hwalk
  obtain ⟨dir, -, hdir, hlast⟩ := walk_concat_eq_ok.mp hwalk
  apply lookup_dropLast_of_stepFrom hdir hlast

/-! ### Trees with the same directories -/

/-- Two trees have directories at the same locations, and the same working directory. -/
structure SameDirs (t t' : Tree) : Prop where
  here : t'.here = t.here
  lookup_dir : ∀ loc, t'.lookup loc = some .dir ↔ t.lookup loc = some .dir

namespace SameDirs

theorem refl (t : Tree) :
  SameDirs t t
  := ⟨rfl, fun _ => Iff.rfl⟩

theorem trans {t'' : Tree} (h : SameDirs t t') (h' : SameDirs t' t'') :
  SameDirs t t''
  := by
  constructor
  · rw [h'.here, h.here]
  · intro loc
    rw [h'.lookup_dir, h.lookup_dir]

theorem walk_eq_ok (h : SameDirs t t') {steps : List String} :
  t'.walk loc steps = .ok loc' ↔ t.walk loc steps = .ok loc'
  := by
  induction steps generalizing loc with
  | nil => rfl
  | cons step steps ih => simp only [walk_cons_eq_ok, h.lookup_dir, ih]

/-- Paths lead to the same locations in trees with the same directories. -/
theorem locate_eq_ok (h : SameDirs t t') :
  t'.locate path = .ok loc ↔ t.locate path = .ok loc
  := by
  have horigin : t'.origin path = t.origin path := by
    simp only [origin, h.here]
  rw [Tree.locate_eq_ok, Tree.locate_eq_ok, horigin, h.walk_eq_ok]

end SameDirs

end Tree

end Gallery.Files
