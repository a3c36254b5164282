import Gallery.Files.Tree.Change
import Gallery.Glob
import Gallery.Language
import Gallery.Log

/-!
# Actions and their failures

A failure is a reason for which a site is not built.  It has a text of its own and perhaps a cause,
with a text that is shown after it.

An action is run on a file tree.  It leaves a tree, reports records, and succeeds with a value or
fails; an action that fails leaves the tree as it has made it up to then.

Actions form a monad.  What an action leaves and whether it succeeds cannot depend on what has
been reported, since no action can look at the records: the equations for `tree` and `result`
of a sequence of actions do not mention the logs.
-/

namespace Gallery

open Files Log

/-! ### Failures -/

/-- A reason for which a site is not built. -/
inductive Failure where
  | unknownFormat (name : String)
  | unknownLanguage (name : String)
  /-- The extension of a file belongs to no language. -/
  | unsupportedFile (path : String)
  | invalidPattern (pattern : String) (cause : Glob.Error)
  /-- There is no directory of examples. -/
  | noExamplesDir (dir : String)
  | cannotMakeOutput (dir : String) (cause : Files.Error)
  | cannotRead (path : String) (cause : Files.Error)
  | cannotWrite (path : String) (cause : Files.Error)
  | cannotCopyStylesheet (path : String) (cause : Files.Error)
  deriving DecidableEq, Repr

namespace Failure

/-- The text of a failure. -/
def message : Failure → String
  | .unknownFormat name => "unknown format: " ++ name ++ ". Use html or json"
  | .unknownLanguage name =>
    "unknown language: " ++ name ++ ". Use one of: " ++ Language.names
  | .unsupportedFile path => "unsupported file type: " ++ path
  | .invalidPattern pattern _ => "invalid glob pattern: " ++ pattern
  | .noExamplesDir dir => "examples directory not found: " ++ dir
  | .cannotMakeOutput dir _ => "failed to create output directory: " ++ dir
  | .cannotRead path _ => "failed to read " ++ path
  | .cannotWrite path _ => "failed to write " ++ path
  | .cannotCopyStylesheet path _ => "failed to copy stylesheet: " ++ path

/-- The text of the cause of a failure. -/
def cause? : Failure → Option String
  | .invalidPattern _ cause => some cause.message
  | .cannotMakeOutput _ cause => some cause.message
  | .cannotRead _ cause => some cause.message
  | .cannotWrite _ cause => some cause.message
  | .cannotCopyStylesheet _ cause => some cause.message
  | _ => none

end Failure

/-! ### Actions -/

/-- What is there after an action. -/
structure Outcome (α : Type) where
  tree : Tree
  /-- The records that have been reported, in order. -/
  log : List Record
  result : Except Failure α

/-- An action on a file tree. -/
def Action (α : Type) : Type :=
  Tree → Outcome α

namespace Action

/-- Runs an action on a tree. -/
def run {α : Type} (x : Action α) (t : Tree) : Outcome α :=
  x t

instance : Monad Action where
  pure a := fun t => ⟨t, [], .ok a⟩
  bind x f := fun t =>
    match x.run t with
    | ⟨t', log, .ok a⟩ =>
      let rest := (f a).run t'
      { rest with log := log ++ rest.log }
    | ⟨t', log, .error e⟩ => ⟨t', log, .error e⟩

/-- The tree on which the rest is run. -/
def currentTree : Action Tree :=
  fun t => ⟨t, [], .ok t⟩

/-- Reports a record. -/
def report (level : Level) (text : String) : Action Unit :=
  fun t => ⟨t, [⟨level, text⟩], .ok ()⟩

/-- Takes a value that may be a failure. -/
def ofExcept {α : Type} (x : Except Failure α) : Action α :=
  fun t => ⟨t, [], x⟩

/-- Fails. -/
def fail {α : Type} (e : Failure) : Action α :=
  ofExcept (.error e)

/-- Changes the tree, also when that fails. -/
def change (f : Tree → Tree × Except Failure Unit) : Action Unit :=
  fun t => ⟨(f t).1, [], (f t).2⟩

/-- Replaces the tree, unless that fails. -/
def replace (f : Tree → Except Failure Tree) : Action Unit :=
  fun t =>
    match f t with
    | .ok t' => ⟨t', [], .ok ()⟩
    | .error e => ⟨t, [], .error e⟩

section Equations

variable {α β : Type}

@[simp]
theorem run_pure (a : α) (t : Tree) :
  (pure a : Action α).run t = ⟨t, [], .ok a⟩
  := rfl

@[simp]
theorem run_currentTree (t : Tree) :
  currentTree.run t = ⟨t, [], .ok t⟩
  := rfl

@[simp]
theorem run_report (level : Level) (text : String) (t : Tree) :
  (report level text).run t = ⟨t, [⟨level, text⟩], .ok ()⟩
  := rfl

@[simp]
theorem run_fail (e : Failure) (t : Tree) :
  (fail e : Action α).run t = ⟨t, [], .error e⟩
  := rfl

theorem run_bind_ok {x : Action α} {t t' : Tree} {log : List Record} {a : α}
    (h : x.run t = ⟨t', log, .ok a⟩) (f : α → Action β) :
  (x >>= f).run t
    = ⟨((f a).run t').tree, log ++ ((f a).run t').log, ((f a).run t').result⟩
  := by
  simp only [bind, run] at h ⊢
  rw [h]

theorem run_bind_error {x : Action α} {t t' : Tree} {log : List Record} {e : Failure}
    (h : x.run t = ⟨t', log, .error e⟩) (f : α → Action β) :
  (x >>= f).run t = ⟨t', log, .error e⟩
  := by
  simp only [bind, run] at h ⊢
  rw [h]

end Equations

instance : LawfulMonad Action := LawfulMonad.mk' Action
  (by
    intro α x
    funext t
    change (x >>= fun a => pure a).run t = x.run t
    rcases h : x.run t with ⟨t', log, a | a⟩
    · exact run_bind_error h _
    · simp [run_bind_ok h])
  (by
    intro α β a f
    funext t
    change (pure a >>= f).run t = (f a).run t
    simp [run_bind_ok (run_pure a t)])
  (by
    intro α β γ x f g
    funext t
    change ((x >>= f) >>= g).run t = (x >>= fun a => f a >>= g).run t
    rcases h : x.run t with ⟨t', log, a | a⟩
    · rw [run_bind_error h, run_bind_error (run_bind_error h f)]
    · rcases h' : (f a).run t' with ⟨t'', log', b | b⟩
      · have hxf : (x >>= f).run t = ⟨t'', log ++ log', .error b⟩ := by
          rw [run_bind_ok h, h']
        rw [run_bind_error hxf, run_bind_ok h, run_bind_error h']
      · have hxf : (x >>= f).run t = ⟨t'', log ++ log', .ok b⟩ := by
          rw [run_bind_ok h, h']
        rw [run_bind_ok hxf, run_bind_ok h, run_bind_ok h']
        simp)

end Action

end Gallery
