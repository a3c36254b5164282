import Gallery.CommandLine.Run
import Gallery.Proofs.Site.Quiet

/-!
# The log has no influence

How much is shown of what a run reports depends on the verbosity that its arguments ask for and on
the specification of the filter.  Nothing else does: the exit code, the standard output and the tree
are those of a run that reports nothing (`runQuietly`), and the log is all that is added to its
standard error (`run_verbosity`).
-/

namespace Gallery.CommandLine

open Files Log

/-- The invocation with another verbosity. -/
def Invocation.withVerbosity (i : Invocation) (verbosity : Nat) : Invocation :=
  { i with verbosity := verbosity }

/-- Two command lines ask for the same, except for the verbosity. -/
def SameButVerbosity (args args' : List String) : Prop :=
  (Invocation.ofArguments args).map (·.withVerbosity 0)
    = (Invocation.ofArguments args').map (·.withVerbosity 0)

/-- The ending with a log before all else on its standard error. -/
def Ending.withLog (log : String) (ending : Ending) : Ending :=
  { ending with stderr := log ++ ending.stderr }

@[simp]
theorem Ending.exitCode_withLog (log : String) (ending : Ending) :
  (ending.withLog log).exitCode = ending.exitCode
  := rfl

@[simp]
theorem Ending.stdout_withLog (log : String) (ending : Ending) :
  (ending.withLog log).stdout = ending.stdout
  := rfl

@[simp]
theorem Ending.tree_withLog (log : String) (ending : Ending) :
  (ending.withLog log).tree = ending.tree
  := rfl

/-! ### Runs without reports -/

/-- Builds the site that an invocation asks for, and reports nothing. -/
def buildQuietlyFor (i : Invocation) : Action Summary := do
  buildQuietly (← Action.ask fun _ => configOf i)

theorem sameEffect_buildFor (i : Invocation) :
  Action.SameEffect (buildFor i) (buildQuietlyFor i)
  := by
  apply Action.SameEffect.bind
  · apply Action.sameEffect_ask
    intro t
    apply Action.answers_ofExcept
  · apply sameEffect_build

theorem silent_buildQuietlyFor (i : Invocation) :
  Action.Silent (buildQuietlyFor i)
  := by
  apply Action.Silent.bind (Action.silent_ask _)
  apply silent_buildQuietly

/-- Runs an invocation without a log. -/
def runQuietly (i : Invocation) (t : Tree) : Ending :=
  let outcome := (buildQuietlyFor i).run t
  match outcome.result with
  | .ok summary => ⟨0, summaryLine i.output summary, "", outcome.tree⟩
  | .error e => ⟨1, "", failureText e, outcome.tree⟩

/-- A run of an invocation is one without a log, and the log. -/
theorem runInvocation_eq (i : Invocation) (spec : Option String) (t : Tree) :
  runInvocation i spec t
    = (runQuietly i t).withLog (logText i.verbosity spec ((buildFor i).run t).log)
  := by
  obtain ⟨htree, hresult⟩ := sameEffect_buildFor i t
  rw [runInvocation, runQuietly, hresult, htree]
  rcases ((buildQuietlyFor i).run t).result with e | summary
  · rfl
  · simp [Ending.withLog]

/-! ### Runs that differ in the verbosity -/

theorem buildFor_withVerbosity (i : Invocation) (verbosity : Nat) :
  buildFor (i.withVerbosity verbosity) = buildFor i
  := rfl

theorem runQuietly_withVerbosity (i : Invocation) (verbosity : Nat) (t : Tree) :
  runQuietly (i.withVerbosity verbosity) t = runQuietly i t
  := rfl

/-- Invocations that differ in the verbosity report the same records. -/
theorem exists_runInvocation {i i' : Invocation} (h : i.withVerbosity 0 = i'.withVerbosity 0)
    (spec spec' : Option String) (t : Tree) :
  ∃ records, runInvocation i spec t = (runQuietly i t).withLog (logText i.verbosity spec records)
    ∧ runInvocation i' spec' t = (runQuietly i t).withLog (logText i'.verbosity spec' records)
  := by
  use ((buildFor i).run t).log, runInvocation_eq i spec t
  rw [runInvocation_eq, ← runQuietly_withVerbosity i' 0, ← buildFor_withVerbosity i' 0, ← h,
    runQuietly_withVerbosity, buildFor_withVerbosity]

/-- The log has no influence on a run.  If two command lines ask for the same, except for the
verbosity, then they have the same exit code, the same standard output and the same tree, whatever
the filters are.  Both end as a run that reports nothing does, with a log of the same records before
what else is on the standard error. -/
theorem run_verbosity {args args' : List String} (h : SameButVerbosity args args')
    (spec spec' : Option String) (t : Tree) :
  ((run args spec t).exitCode = (run args' spec' t).exitCode
      ∧ (run args spec t).stdout = (run args' spec' t).stdout
      ∧ (run args spec t).tree = (run args' spec' t).tree)
    ∧ ∀ i i', Invocation.ofArguments args = .ok i → Invocation.ofArguments args' = .ok i' →
      ((buildQuietlyFor i).run t).log = []
        ∧ ∃ records, run args spec t = (runQuietly i t).withLog (logText i.verbosity spec records)
          ∧ run args' spec' t = (runQuietly i t).withLog (logText i'.verbosity spec' records)
  := by
  rcases hargs : Invocation.ofArguments args with stop | i <;>
    rcases hargs' : Invocation.ofArguments args' with stop' | i' <;>
    rw [SameButVerbosity, hargs, hargs'] at h
  · cases h
    have heq : run args spec t = run args' spec' t := by
      rw [run, run, hargs, hargs']
      rcases stop with _ | refusal <;> rfl
    rw [heq]
    use ⟨rfl, rfl, rfl⟩
    intro i i' hi
    cases hi
  · cases h
  · cases h
  · have heq : i.withVerbosity 0 = i'.withVerbosity 0 := Except.ok.inj h
    obtain ⟨records, hinvocation, hinvocation'⟩ := exists_runInvocation heq spec spec' t
    have hrun : run args spec t = runInvocation i spec t := by
      rw [run, hargs]
    have hrun' : run args' spec' t = runInvocation i' spec' t := by
      rw [run, hargs']
    rw [hrun, hrun', hinvocation, hinvocation']
    constructor
    · simp
    · intro j j' hj hj'
      cases hj
      cases hj'
      exact ⟨silent_buildQuietlyFor i t, records, rfl, rfl⟩

theorem run_verbosity_twice :
  Invocation.ofArguments ["tour"] = .ok (.ofStored [(.examples, ["tour"])])
    ∧ Invocation.ofArguments ["tour", "-vv"]
      = .ok (.ofStored [(.examples, ["tour"]), (.verbose, ["", ""])])
    ∧ (run ["tour"] none .fresh).exitCode = (run ["tour", "-vv"] (some "trace") .fresh).exitCode
    ∧ (run ["tour"] none .fresh).stdout = (run ["tour", "-vv"] (some "trace") .fresh).stdout
    ∧ (run ["tour"] none .fresh).tree = (run ["tour", "-vv"] (some "trace") .fresh).tree
  := by
  have hargs : Invocation.ofArguments ["tour"] = .ok (.ofStored [(.examples, ["tour"])]) := by
    decide +kernel
  have hargs' : Invocation.ofArguments ["tour", "-vv"]
      = .ok (.ofStored [(.examples, ["tour"]), (.verbose, ["", ""])]) := by
    decide +kernel
  have hsame : SameButVerbosity ["tour"] ["tour", "-vv"] := by
    rw [SameButVerbosity, hargs, hargs']
    rfl
  use hargs, hargs'
  apply (run_verbosity hsame none (some "trace") .fresh).1

end Gallery.CommandLine
