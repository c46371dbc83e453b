/-
  EventWallet.Service.TransactionalStep — `executeTransactionalStep`, the leg of a
  transfer (`transfer-saga.entity.spec.ts`, the service after the entity's tests):
  `executeWithRetry` around `transactionManager.execute(…, { isolationLevel: 'READ COMMITTED' })`.

  `executeWithRetry` runs the operation at most `maxRetries` times
  (`for (let attempt = 0; attempt < maxRetries; attempt++)`). An attempt that returns ends
  the loop. An attempt that throws an error `isRetryableError` accepts (Postgres code
  40001, 40P01 or 23505, or an OptimisticLockVersionMismatchError) is followed by
  `performExponentialBackoff(attempt, initialBackoffMs)` and the next turn; any other
  error is rethrown. When every turn threw a retryable error the loop throws
  'Operation failed due to concurrent modification. Please retry.'.

  An attempt is one `execute` with no lock key whose operation buffers one outbox row
  (`Attempt.run`). The world decides how each awaited call of attempt `n` ends and what
  each throw carries (`Attempt`), and what `Math.random()` returns at each backoff. The
  loop is written by recursion on the turns left; `RetryLog` keeps what each attempt
  left and each sleep.

  The system model takes a leg as one transaction that returns, throws with no effect,
  or commits and throws (`Sys.tx` with a `Fault`). Proved:
  - `transactionalStep_refines_tx`: when no call that runs after a commit throws a
    retryable error, the loop's attempts commit exactly as often as `Sys.tx` does under
    the loop's outcome (`legFault`): never twice.
  - `executeWithRetry_exhausted`: when every attempt throws a retryable error, the loop
    makes `maxRetries` attempts and `maxRetries` backoffs, the last one after its last
    attempt, then throws the concurrent-modification error.
  - `executeWithRetry_sleeps_le`: the loop sleeps at most
    `∑ attempt < maxRetries, min(2^attempt · initialBackoffMs, 5000) + 100` ms.
-/

import Mathlib.Algebra.Order.Field.Rat
import Mathlib.Algebra.Order.BigOperators.Group.List
import EventWallet.Service.TransactionManager

namespace EventWallet

/-- What is read of a thrown error: its `name`, its Postgres `code` when it has one, its
    `message`. -/
structure ThrownError where
  name : String
  code : Option String
  message : String
  deriving DecidableEq, Repr

/-- `isRetryableError(error)`: a serialization failure, a deadlock, a unique violation or
    an optimistic lock mismatch. -/
def isRetryableError (error : ThrownError) : Bool :=
  error.code == some "40001" || error.code == some "40P01" || error.code == some "23505" ||
    error.name == "OptimisticLockVersionMismatchError"

/-- The error `executeWithRetry` throws when its turns are used up. -/
def concurrentModificationError : ThrownError :=
  ⟨"Error", none, "Operation failed due to concurrent modification. Please retry."⟩

/-- `performExponentialBackoff(attempt, initialBackoffMs)`: the sleep in ms, `random`
    being what `Math.random()` returned. -/
def performExponentialBackoff (attempt : Nat) (initialBackoffMs random : ℚ) : ℚ :=
  min (2 ^ attempt * initialBackoffMs) 5000 + random * 100

/-- `AppConfigService.maxRetries` and `initialBackoffMs` when their variables are unset. -/
def defaultMaxRetries : Nat := 10

def defaultInitialBackoffMs : ℚ := 50

/-- What the world does to one attempt: how each awaited call of its `execute` ends, and
    what a throw carries. -/
structure Attempt where
  faults : TmCall → Fault
  error : TmError → ThrownError

/-- The attempt: `execute` with no lock key, whose operation buffers one outbox row. -/
def Attempt.run (a : Attempt) : Except TmError Unit × TmWorld := executeRun a.faults false true true

/-- What the loop did: the end of each attempt and what its `execute` left, and each
    backoff's sleep, in order. -/
structure RetryLog where
  attempts : List (Except TmError Unit × TmWorld)
  sleeps : List ℚ

section Loop

variable (initialBackoffMs : ℚ) (env : Nat → Attempt) (random : Nat → ℚ)

/-- The `for` loop of `executeWithRetry` from `attempt`, `left` turns before
    `attempt < maxRetries` fails. -/
def retryFrom : Nat → Nat → Except ThrownError Unit × RetryLog
  | _, 0 => (.error concurrentModificationError, ⟨[], []⟩)
  | attempt, left + 1 =>
    match (env attempt).run with
    | (.ok (), w) => (.ok (), ⟨[(.ok (), w)], []⟩)
    | (.error e, w) =>
      if isRetryableError ((env attempt).error e) then
        let r := retryFrom (attempt + 1) left
        (r.1, ⟨(.error e, w) :: r.2.attempts,
          performExponentialBackoff attempt initialBackoffMs (random attempt) :: r.2.sleeps⟩)
      else (.error ((env attempt).error e), ⟨[(.error e, w)], []⟩)

/-- `executeWithRetry(operation)` with the configuration's `maxRetries`. -/
def executeWithRetry (maxRetries : Nat) : Except ThrownError Unit × RetryLog :=
  retryFrom initialBackoffMs env random 0 maxRetries

end Loop

/-! ## One attempt -/

/-- No call that runs after the attempt's commit took effect throws a retryable error:
    `commitTransaction` when it is not refused, then `rollbackTransaction` and `release`. -/
def Attempt.FinalAfterCommit (a : Attempt) : Prop :=
  a.faults .commitTransaction ≠ .fails →
    ∀ c ∈ [TmCall.commitTransaction, .rollbackTransaction, .release], isRetryableError (a.error (.thrown c)) = false

/-- An attempt that returns committed. -/
theorem Attempt.committed_of_ok {a : Attempt} {w : TmWorld} (h : a.run = (.ok (), w)) : w.committed = true := by
  have := executeRun_ok_committed a.faults false true true (congrArg Prod.fst h)
  rwa [← Attempt.run, h] at this

/-- An attempt whose error is retried did not commit. -/
theorem Attempt.not_committed_of_retryable {a : Attempt} (ha : a.FinalAfterCommit) {e : TmError} {w : TmWorld}
    (h : a.run = (.error e, w)) (hr : isRetryableError (a.error e) = true) : w.committed = false := by
  refine Bool.eq_false_iff.mpr fun hc => ?_
  have hc' : (executeRun a.faults false true true).2.committed = true := by rw [← Attempt.run, h]; exact hc
  have hfin := ha (executeRun_committed a.faults false true true hc')
  rcases executeRun_error_committed a.faults true true (by rw [← Attempt.run, h]) hc' with rfl | rfl | rfl <;>
    simp_all

/-! ## The loop, turn by turn -/

section Loop

variable {initialBackoffMs : ℚ} {env : Nat → Attempt} {random : Nat → ℚ} {attempt left : Nat} {e : TmError}
  {w : TmWorld}

theorem retryFrom_ok (h : (env attempt).run = (.ok (), w)) :
    retryFrom initialBackoffMs env random attempt (left + 1) = (.ok (), ⟨[(.ok (), w)], []⟩) := by
  simp [retryFrom, h]

theorem retryFrom_retry (h : (env attempt).run = (.error e, w)) (hr : isRetryableError ((env attempt).error e) = true) :
    retryFrom initialBackoffMs env random attempt (left + 1) =
      let r := retryFrom initialBackoffMs env random (attempt + 1) left
      (r.1, ⟨(.error e, w) :: r.2.attempts,
        performExponentialBackoff attempt initialBackoffMs (random attempt) :: r.2.sleeps⟩) := by
  simp [retryFrom, h, hr]

theorem retryFrom_rethrow (h : (env attempt).run = (.error e, w))
    (hr : isRetryableError ((env attempt).error e) = false) :
    retryFrom initialBackoffMs env random attempt (left + 1) = (.error ((env attempt).error e), ⟨[(.error e, w)], []⟩) := by
  simp [retryFrom, h, hr]

end Loop

/-! ## At most one commit -/

/-- The attempts whose transaction committed. -/
def RetryLog.commits (log : RetryLog) : Nat := log.attempts.countP (·.2.committed)

/-- How `Sys.tx` sees a run of the loop: it returned; it threw with no attempt committed;
    it threw after one committed. -/
def legFault (r : Except ThrownError Unit × RetryLog) : Fault :=
  match r.1 with
  | .ok () => .ok
  | .error _ => bif r.2.attempts.any (·.2.committed) then .lost else .fails

/-- The commits `Sys.tx` makes under a fault when its body computes its writes. -/
def Fault.commits : Fault → Nat
  | .fails => 0
  | _ => 1

section Commits

variable {initialBackoffMs : ℚ} {env : Nat → Attempt} {random : Nat → ℚ}

/-- From any turn, the loop's attempts commit as often as `Sys.tx` under its outcome. -/
theorem retryFrom_commits (h : ∀ n, (env n).FinalAfterCommit) (attempt left : Nat) :
    (retryFrom initialBackoffMs env random attempt left).2.commits =
      (legFault (retryFrom initialBackoffMs env random attempt left)).commits := by
  induction left generalizing attempt with
  | zero => rfl
  | succ left ih =>
    rcases hrun : (env attempt).run with ⟨e | _, w⟩
    · cases hr : isRetryableError ((env attempt).error e)
      · rw [retryFrom_rethrow hrun hr]
        cases hc : w.committed <;> simp [RetryLog.commits, legFault, Fault.commits, hc]
      · rw [retryFrom_retry hrun hr]
        have hw := Attempt.not_committed_of_retryable (h attempt) hrun hr
        have ih := ih (attempt + 1)
        generalize retryFrom initialBackoffMs env random (attempt + 1) left = r at ih ⊢
        rcases r with ⟨_ | _, log⟩ <;> simpa [RetryLog.commits, legFault, hw] using ih
    · rw [retryFrom_ok hrun]
      simp [RetryLog.commits, legFault, Fault.commits, Attempt.committed_of_ok hrun]

variable {M : Type}

/-- The leg's retry loop refines the one transaction the system model takes it for:
    when no call that runs after a commit throws a retryable error, `Sys.tx` under the
    loop's outcome writes the store exactly as often as the loop's attempts committed. -/
theorem transactionalStep_refines_tx (h : ∀ n, (env n).FinalAfterCommit) (maxRetries : Nat) (s : Sys M) (i : Nat)
    (ws : List (Write M)) (next : Call M) (onErr : Err M → Call M) :
    (s.tx i (legFault (executeWithRetry initialBackoffMs env random maxRetries)) (.ok ws) next onErr).store =
      (·.commit ws)^[(executeWithRetry initialBackoffMs env random maxRetries).2.commits] s.store := by
  rw [executeWithRetry, retryFrom_commits h]
  cases legFault (retryFrom initialBackoffMs env random 0 maxRetries) <;> rfl

end Commits

/-- A deadlock (40P01) in the operation, the error `QueryFailedError` carries. -/
def deadlock : ThrownError := ⟨"QueryFailedError", some "40P01", "deadlock detected"⟩

/-- Attempt 0 meets a deadlock in its operation; later attempts run through. Other
    throws carry a lost connection, which is not retried. -/
def deadlockOnce (n : Nat) : Attempt where
  faults c := if n = 0 ∧ c = .operation then .fails else .ok
  error e := if e = .thrown .operation then deadlock else ⟨"Error", none, "Connection terminated unexpectedly"⟩

theorem deadlock_once_commits_once :
    (∀ n, (deadlockOnce n).FinalAfterCommit) ∧
      ((Sys.init Store.empty 0 : Sys ℤ).tx 0 (legFault (executeWithRetry 50 deadlockOnce (fun _ => 0) 10)) (.ok [])
        (.returned .unit) .threw).store =
        (·.commit [])^[(executeWithRetry 50 deadlockOnce (fun _ => 0) 10).2.commits] (Sys.init Store.empty 0).store :=
  have h : ∀ n, (deadlockOnce n).FinalAfterCommit := fun n _ => by simp [deadlockOnce, isRetryableError]
  ⟨h, transactionalStep_refines_tx h 10 _ 0 [] _ _⟩

/-! ## Exhaustion and backoff -/

section Backoff

variable {initialBackoffMs : ℚ} {env : Nat → Attempt} {random : Nat → ℚ}

/-- From a turn on which every attempt throws a retryable error, the loop runs them all,
    backs off after each, and throws the concurrent-modification error. -/
theorem retryFrom_exhausted (attempt left : Nat)
    (h : ∀ n, attempt ≤ n → n < attempt + left →
      ∃ e, ((env n).run).1 = .error e ∧ isRetryableError ((env n).error e) = true) :
    retryFrom initialBackoffMs env random attempt left =
      (.error concurrentModificationError, ⟨(List.range' attempt left).map fun n => (env n).run,
        (List.range' attempt left).map fun n => performExponentialBackoff n initialBackoffMs (random n)⟩) := by
  induction left generalizing attempt with
  | zero => rfl
  | succ left ih =>
    obtain ⟨e, he, hr⟩ := h attempt le_rfl (by omega)
    have hrun : (env attempt).run = (.error e, ((env attempt).run).2) := Prod.ext he rfl
    rw [retryFrom_retry hrun hr, ih (attempt + 1) fun n h1 h2 => h n (by omega) (by omega)]
    simp [List.range'_succ, ← hrun]

/-- When every attempt throws a retryable error, `executeWithRetry` makes `maxRetries`
    attempts and `maxRetries` backoffs, the last after its last attempt, then throws
    'Operation failed due to concurrent modification. Please retry.'. -/
theorem executeWithRetry_exhausted (maxRetries : Nat)
    (h : ∀ n < maxRetries, ∃ e, ((env n).run).1 = .error e ∧ isRetryableError ((env n).error e) = true) :
    executeWithRetry initialBackoffMs env random maxRetries =
      (.error concurrentModificationError, ⟨(List.range maxRetries).map fun n => (env n).run,
        (List.range maxRetries).map fun n => performExponentialBackoff n initialBackoffMs (random n)⟩) := by
  rw [executeWithRetry, retryFrom_exhausted 0 maxRetries fun n _ hn => h n (by omega), List.range_eq_range']

/-- Every attempt meets a deadlock in its operation. -/
def alwaysDeadlocks (_ : Nat) : Attempt := ⟨fun c => if c = .operation then .fails else .ok, fun _ => deadlock⟩

theorem deadlocks_exhaust_retries :
    (∀ n < 3, ∃ e, ((alwaysDeadlocks n).run).1 = .error e ∧ isRetryableError ((alwaysDeadlocks n).error e) = true) ∧
      executeWithRetry 50 alwaysDeadlocks (fun _ => 0) 3 =
        (.error concurrentModificationError, ⟨(List.range 3).map fun n => (alwaysDeadlocks n).run,
          (List.range 3).map fun n => performExponentialBackoff n 50 0⟩) :=
  have h : ∀ n < 3, ∃ e, ((alwaysDeadlocks n).run).1 = .error e ∧ isRetryableError ((alwaysDeadlocks n).error e) = true :=
    fun _ _ => ⟨.thrown .operation, rfl, rfl⟩
  ⟨h, executeWithRetry_exhausted 3 h⟩

/-- The loop's sleeps are the backoffs of its first turns. -/
theorem retryFrom_sleeps (attempt left : Nat) :
    ∃ k ≤ left, (retryFrom initialBackoffMs env random attempt left).2.sleeps =
      (List.range' attempt k).map fun n => performExponentialBackoff n initialBackoffMs (random n) := by
  induction left generalizing attempt with
  | zero => exact ⟨0, le_rfl, rfl⟩
  | succ left ih =>
    rcases hrun : (env attempt).run with ⟨e | _, w⟩
    · cases hr : isRetryableError ((env attempt).error e)
      · exact ⟨0, by omega, by rw [retryFrom_rethrow hrun hr]; rfl⟩
      · obtain ⟨k, hk, hs⟩ := ih (attempt + 1)
        exact ⟨k + 1, by omega, by rw [retryFrom_retry hrun hr]; simp [hs, List.range'_succ]⟩
    · exact ⟨0, by omega, by rw [retryFrom_ok hrun]; rfl⟩

/-- Each backoff sleeps less than its capped exponential delay plus 100 ms. -/
theorem performExponentialBackoff_le (attempt : Nat) {random : ℚ} (hr : random < 1) :
    performExponentialBackoff attempt initialBackoffMs random ≤ min (2 ^ attempt * initialBackoffMs) 5000 + 100 := by
  unfold performExponentialBackoff
  linarith

/-- With a nonnegative initial backoff and `Math.random()` below 1, `executeWithRetry`
    sleeps at most `∑ attempt < maxRetries, min(2^attempt · initialBackoffMs, 5000) + 100`
    ms in all. -/
theorem executeWithRetry_sleeps_le (hb : 0 ≤ initialBackoffMs) (hr : ∀ n, random n < 1) (maxRetries : Nat) :
    (executeWithRetry initialBackoffMs env random maxRetries).2.sleeps.sum ≤
      ((List.range maxRetries).map fun n => min (2 ^ n * initialBackoffMs) 5000 + 100).sum := by
  obtain ⟨k, hk, hs⟩ := @retryFrom_sleeps initialBackoffMs env random 0 maxRetries
  have hcap : ∀ n, 0 ≤ min (2 ^ n * initialBackoffMs) 5000 + 100 := fun n => by positivity
  calc (executeWithRetry initialBackoffMs env random maxRetries).2.sleeps.sum
      ≤ ((List.range k).map fun n => min (2 ^ n * initialBackoffMs) 5000 + 100).sum := by
        rw [executeWithRetry, hs, ← List.range_eq_range']
        exact List.sum_le_sum fun n _ => performExponentialBackoff_le n (hr n)
    _ ≤ ((List.range maxRetries).map fun n => min (2 ^ n * initialBackoffMs) 5000 + 100).sum :=
        ((List.range_sublist.mpr hk).map _).sum_le_sum fun _ hx => by
          obtain ⟨n, -, rfl⟩ := List.mem_map.mp hx
          exact hcap n

theorem default_retries_sleep_le :
    (0 ≤ defaultInitialBackoffMs ∧ ∀ n : Nat, (fun _ => (0.99 : ℚ)) n < 1) ∧
      (executeWithRetry defaultInitialBackoffMs alwaysDeadlocks (fun _ => 0.99) defaultMaxRetries).2.sleeps.sum ≤
        ((List.range defaultMaxRetries).map fun n => min (2 ^ n * defaultInitialBackoffMs) 5000 + 100).sum :=
  have hb : 0 ≤ defaultInitialBackoffMs := by norm_num [defaultInitialBackoffMs]
  have hr : ∀ n : Nat, (fun _ => (0.99 : ℚ)) n < 1 := fun _ => by norm_num
  ⟨⟨hb, hr⟩, executeWithRetry_sleeps_le hb hr defaultMaxRetries⟩

example : ((List.range defaultMaxRetries).map fun n => min (2 ^ n * defaultInitialBackoffMs) 5000 + 100).sum = 22350 := by
  norm_num [defaultMaxRetries, defaultInitialBackoffMs, List.range_succ]

end Backoff

end EventWallet
