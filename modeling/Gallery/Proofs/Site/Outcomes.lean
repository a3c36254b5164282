import Gallery.Proofs.Files.Walk
import Gallery.Site.Action

/-!
# How actions end

`x.Yields t a t'` says that the action `x`, run on the tree `t`, succeeds with `a` and leaves the
tree `t'`.  A sequence of actions yields what its parts yield, one after another, and the
elementary actions have equations of their own, so a run that has succeeded can be followed from
its start to its end.

`x.Fails t e t'` says that the action `x`, run on the tree `t`, fails with `e` and leaves the tree
`t'`.  A sequence of actions fails when its first part does, or when the rest does after the first
part has succeeded.  Every run of an action yields or fails, so what a run leaves is known when
both are (`yields_or_fails`).

`x.Answers t result` says that the action `x`, run on the tree `t`, leaves it as it is and ends with
`result`: it only reads.
-/

namespace Gallery.Action

open Files

variable {α β : Type} {t t' t'' : Tree} {e e' : Failure}

/-! ### Actions that succeed -/

/-- The action, run on the first tree, succeeds with a value and leaves the second tree. -/
def Yields (x : Action α) (t : Tree) (a : α) (t' : Tree) : Prop :=
  (x.run t).result = .ok a ∧ (x.run t).tree = t'

theorem yields_of_result {x : Action α} {a : α} (h : (x.run t).result = .ok a) :
  x.Yields t a (x.run t).tree
  := ⟨h, rfl⟩

/-- A run succeeds with one value only. -/
theorem eq_of_yields {x : Action α} {a b : α} (h : x.Yields t a t') (h' : x.Yields t b t'') :
  a = b
  := by
  apply Except.ok.inj
  rw [← h.1, ← h'.1]

theorem yields_bind {x : Action α} {f : α → Action β} {b : β} :
  (x >>= f).Yields t b t'' ↔ ∃ a t', x.Yields t a t' ∧ (f a).Yields t' b t''
  := by
  rcases h : x.run t with ⟨t₁, log, e | a⟩
  · simp [Yields, run_bind_error h, h]
  · simp [Yields, run_bind_ok h, h]

theorem yields_pure {a b : α} :
  (pure a : Action α).Yields t b t' ↔ b = a ∧ t' = t
  := by
  simp [Yields, eq_comm]

theorem yields_report {level : Log.Level} {text : String} {u : Unit} :
  (report level text).Yields t u t' ↔ t' = t
  := by
  simp [Yields, eq_comm]

theorem yields_replace {f : Tree → Except Failure Tree} {u : Unit} :
  (replace f).Yields t u t' ↔ f t = .ok t'
  := by
  rcases h : f t with e | t₁ <;> simp [Yields, replace, run, h]

theorem yields_change {f : Tree → Tree × Except Failure Unit} {u : Unit} :
  (change f).Yields t u t' ↔ f t = (t', .ok u)
  := by
  simp [Yields, change, run, Prod.ext_iff, and_comm]

/-! ### Actions that fail -/

/-- The action, run on the first tree, fails and leaves the second tree. -/
def Fails (x : Action α) (t : Tree) (e : Failure) (t' : Tree) : Prop :=
  (x.run t).result = .error e ∧ (x.run t).tree = t'

theorem fails_of_result {x : Action α} (h : (x.run t).result = .error e) :
  x.Fails t e (x.run t).tree
  := ⟨h, rfl⟩

theorem yields_or_fails (x : Action α) (t : Tree) :
  (∃ a, x.Yields t a (x.run t).tree) ∨ ∃ e, x.Fails t e (x.run t).tree
  := by
  rcases h : (x.run t).result with e | a
  · right
    use e
    apply fails_of_result h
  · left
    use a
    apply yields_of_result h

theorem fails_bind {x : Action α} {f : α → Action β} :
  (x >>= f).Fails t e t'' ↔ x.Fails t e t'' ∨ ∃ a t', x.Yields t a t' ∧ (f a).Fails t' e t''
  := by
  rcases h : x.run t with ⟨t₁, log, e₁ | a⟩
  · simp [Fails, Yields, run_bind_error h, h]
  · simp [Fails, Yields, run_bind_ok h, h]

theorem not_fails_pure {a : α} :
  ¬ (pure a : Action α).Fails t e t'
  := by
  simp [Fails]

theorem not_fails_report {level : Log.Level} {text : String} :
  ¬ (report level text).Fails t e t'
  := by
  simp [Fails]

theorem fails_replace {f : Tree → Except Failure Tree} :
  (replace f).Fails t e t' ↔ f t = .error e ∧ t' = t
  := by
  rcases h : f t with e | t₁ <;> simp [Fails, replace, run, h, eq_comm]

theorem fails_change {f : Tree → Tree × Except Failure Unit} :
  (change f).Fails t e t' ↔ f t = (t', .error e)
  := by
  simp [Fails, change, run, Prod.ext_iff, and_comm]

/-! ### Actions that only read -/

/-- Run on the tree, the action leaves it as it is and ends with the result. -/
def Answers (x : Action α) (t : Tree) (result : Except Failure α) : Prop :=
  ∃ log, x.run t = ⟨t, log, result⟩

theorem answers_pure (a : α) :
  (pure a : Action α).Answers t (.ok a)
  := ⟨_, rfl⟩

theorem answers_currentTree :
  currentTree.Answers t (.ok t)
  := ⟨_, rfl⟩

theorem answers_report (level : Log.Level) (text : String) :
  (report level text).Answers t (.ok ())
  := ⟨_, rfl⟩

theorem answers_ofExcept (x : Except Failure α) :
  (ofExcept x).Answers t x
  := ⟨_, rfl⟩

/-- A sequence of actions that only read answers what its parts answer, in sequence. -/
theorem answers_bind {x : Action α} {f : α → Action β} {result : Except Failure α}
    {rest : α → Except Failure β} (hx : x.Answers t result) (hf : ∀ a, (f a).Answers t (rest a)) :
  (x >>= f).Answers t (result >>= rest)
  := by
  obtain ⟨log, hrun⟩ := hx
  cases result with
  | error e => exact ⟨log, run_bind_error hrun f⟩
  | ok a =>
    obtain ⟨log', hrun'⟩ := hf a
    use log ++ log'
    rw [run_bind_ok hrun, hrun']
    rfl

theorem answers_bind_ok {x : Action α} {f : α → Action β} {a : α} {result : Except Failure β}
    (hx : x.Answers t (.ok a)) (hf : (f a).Answers t result) :
  (x >>= f).Answers t result
  := by
  obtain ⟨log, hrun⟩ := hx
  obtain ⟨log', hrun'⟩ := hf
  use log ++ log'
  rw [run_bind_ok hrun, hrun']

theorem answers_fail_bind (e : Failure) (f : α → Action β) :
  (fail e >>= f).Answers t (.error e)
  := ⟨_, run_bind_error (run_fail e t) f⟩

namespace Answers

variable {x : Action α} {result : Except Failure α} {a : α}

theorem result_eq (h : x.Answers t result) :
  (x.run t).result = result
  := by
  obtain ⟨log, hrun⟩ := h
  rw [hrun]

theorem yields_iff (h : x.Answers t result) :
  x.Yields t a t' ↔ result = .ok a ∧ t' = t
  := by
  obtain ⟨log, hrun⟩ := h
  simp [Yields, hrun, eq_comm]

theorem fails_iff (h : x.Answers t result) :
  x.Fails t e t' ↔ result = .error e ∧ t' = t
  := by
  obtain ⟨log, hrun⟩ := h
  simp [Fails, hrun, eq_comm]

end Answers

end Gallery.Action
