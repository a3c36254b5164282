import Gallery.Proofs.Site.Sources

/-!
# Building without reports

A build reports records between the steps in which it reads and writes.  Here the same steps are
taken without any report (`buildQuietly`), and what they leave and how they end is the same on every
tree (`sameEffect_build`): a report has no effect, wherever it stands.
-/

namespace Gallery

open Files

namespace Action

variable {α β : Type} {t : Tree} {x y z : Action α} {f g : α → Action β}

/-! ### Actions with the same effect -/

/-- Two actions leave the same tree and end with the same result, whatever they report. -/
def SameEffect (x y : Action α) : Prop :=
  ∀ t, (x.run t).tree = (y.run t).tree ∧ (x.run t).result = (y.run t).result

namespace SameEffect

theorem refl (x : Action α) :
  SameEffect x x
  := fun _ => ⟨rfl, rfl⟩

/-- Sequences of actions have the same effect if their parts do. -/
theorem bind (h : SameEffect x y) (hf : ∀ a, SameEffect (f a) (g a)) :
  SameEffect (x >>= f) (y >>= g)
  := by
  intro t
  obtain ⟨htree, hresult⟩ := h t
  rcases hx : x.run t with ⟨t₁, log, result⟩
  rcases hy : y.run t with ⟨t₁', log', result'⟩
  rw [hx, hy] at htree hresult
  cases htree
  cases hresult
  rcases result with e | a
  · rw [run_bind_error hx, run_bind_error hy]
    exact ⟨rfl, rfl⟩
  · rw [run_bind_ok hx, run_bind_ok hy]
    apply hf a

end SameEffect

/-- A report behind an action has no effect. -/
theorem sameEffect_bind_report (x : Action Unit) (level : Log.Level) (text : String) :
  SameEffect (x >>= fun _ => report level text) x
  := by
  intro t
  rcases hx : x.run t with ⟨t₁, log, e | a⟩
  · rw [run_bind_error hx]
    exact ⟨rfl, rfl⟩
  · rw [run_bind_ok hx]
    exact ⟨rfl, rfl⟩

/-! ### Actions without reports -/

/-- Reads something from the tree. -/
def ask (f : Tree → Except Failure α) : Action α :=
  fun t => ⟨t, [], f t⟩

/-- An action that only reads has the effect of reading. -/
theorem sameEffect_ask {result : Tree → Except Failure α} (h : ∀ t, x.Answers t (result t)) :
  SameEffect x (ask result)
  := by
  intro t
  obtain ⟨log, hrun⟩ := h t
  rw [hrun]
  exact ⟨rfl, rfl⟩

/-- The action reports nothing. -/
def Silent (x : Action α) : Prop :=
  ∀ t, (x.run t).log = []

theorem silent_pure (a : α) :
  Silent (pure a)
  := fun _ => rfl

theorem silent_ask (f : Tree → Except Failure α) :
  Silent (ask f)
  := fun _ => rfl

theorem silent_change (f : Tree → Tree × Except Failure Unit) :
  Silent (change f)
  := fun _ => rfl

theorem silent_replace (f : Tree → Except Failure Tree) :
  Silent (replace f)
  := by
  intro t
  rcases h : f t with e | t' <;> simp [replace, run, h]

theorem Silent.bind (h : Silent x) (hf : ∀ a, Silent (f a)) :
  Silent (x >>= f)
  := by
  intro t
  have hlog := h t
  rcases hx : x.run t with ⟨t₁, log, e | a⟩
  · rw [run_bind_error hx]
    rwa [hx] at hlog
  · rw [hx] at hlog
    rw [run_bind_ok hx, hf a t₁, List.append_nil]
    apply hlog

end Action

variable {c : Config} {t : Tree} {language : Language}

/-! ### The phases -/

/-- The directories of the selected examples, if there is a directory of examples. -/
def dirsIn (t : Tree) (dir : String) (only : List Glob.Pattern) : Except Failure (List String) :=
  if t.isDir dir then .ok (exampleDirs t dir only) else .error (.noExamplesDir dir)

/-- Writes text files, one after another. -/
def writeQuietly : List (String × String) → Action Unit
  | [] => pure ()
  | (path, text) :: files => do
    Action.replace fun t => (t.write path text.toUTF8).mapError (.cannotWrite path)
    writeQuietly files

theorem sameEffect_writeFiles (files : List (String × String)) :
  Action.SameEffect (writeFiles files) (writeQuietly files)
  := by
  induction files with
  | nil => apply Action.SameEffect.refl
  | cons file files ih =>
    apply Action.SameEffect.bind (Action.sameEffect_bind_report _ _ _)
    intro _
    apply ih

theorem silent_writeQuietly (files : List (String × String)) :
  Action.Silent (writeQuietly files)
  := by
  induction files with
  | nil => apply Action.silent_pure
  | cons file files ih =>
    apply Action.Silent.bind (Action.silent_replace _)
    intro _
    apply ih

/-- Copies the stylesheet, if there is one. -/
def copyQuietly (c : Config) : Action Unit :=
  match c.stylesheet with
  | none => pure ()
  | some path =>
    Action.replace fun t => (t.copy path (stylesheetPath c)).mapError (.cannotCopyStylesheet path)

theorem sameEffect_copyStylesheet (c : Config) :
  Action.SameEffect (copyStylesheet c) (copyQuietly c)
  := by
  rw [copyStylesheet, copyQuietly]
  rcases c.stylesheet with _ | path
  · apply Action.SameEffect.refl
  · apply Action.sameEffect_bind_report

theorem silent_copyQuietly (c : Config) :
  Action.Silent (copyQuietly c)
  := by
  rw [copyQuietly]
  rcases c.stylesheet with _ | path
  · apply Action.silent_pure
  · apply Action.silent_replace

/-! ### All phases -/

/-- Builds a site and reports nothing. -/
def buildQuietly (c : Config) : Action Summary := do
  let dirs ← Action.ask fun t => dirsIn t c.examplesDir c.only
  makeOutputDir c.outputDir
  let loaded ← Action.ask fun t => loadedIn t c.site.language dirs
  writeQuietly (outputFiles c loaded.examples)
  copyQuietly c
  return ⟨loaded.examples.length, loaded.skipped⟩

/-- A build has the same effect without its reports. -/
theorem sameEffect_build (c : Config) :
  Action.SameEffect (build c) (buildQuietly c)
  := by
  apply Action.SameEffect.bind
  · apply Action.sameEffect_ask
    intro t
    apply discover_answers
  intro dirs
  apply Action.SameEffect.bind (Action.SameEffect.refl _)
  intro _
  apply Action.SameEffect.bind
  · apply Action.sameEffect_ask
    intro t
    apply loadAll_answers
  intro loaded
  apply Action.SameEffect.bind (sameEffect_writeFiles _)
  intro _
  apply Action.SameEffect.bind (sameEffect_copyStylesheet _)
  intro _
  apply Action.SameEffect.refl

theorem silent_buildQuietly (c : Config) :
  Action.Silent (buildQuietly c)
  := by
  apply Action.Silent.bind (Action.silent_ask _)
  intro dirs
  apply Action.Silent.bind (Action.silent_change _)
  intro _
  apply Action.Silent.bind (Action.silent_ask _)
  intro loaded
  apply Action.Silent.bind (silent_writeQuietly _)
  intro _
  apply Action.Silent.bind (silent_copyQuietly _)
  intro _
  apply Action.silent_pure

end Gallery
