/-
  EventWallet.Service.TransactionManager — `TransactionManager.execute`
  (`003_production_security.sql`, the service after the script), await by await.

  `execute` takes the request lock when it has a `lockKey`
  (`SET lockKey PROCESSING EX lockTtl NX`; a key already set throws
  `ConflictException`), creates a query runner, `connect`s it and starts the
  transaction: all before its `try`. The `try` runs the operation, saves the outbox rows
  when there are any (`saveAll`) and commits; the `catch` rolls back and rethrows; the
  `finally` releases the runner, then deletes the lock key. Each awaited call returns,
  throws with no effect, or takes effect and then throws (`Fault`). The blocks are
  written with Lean's `try … catch … finally`, in which, as in JavaScript, a throw in
  the `finally` replaces the completion it runs after.

  Proved, for every outcome of every awaited call:
  - `executeRun_committed`: `execute` commits only through a `commitTransaction` that
    takes effect.
  - `executeRun_error_committed`: without a lock key, an `execute` whose commit took
    effect throws only the error of `commitTransaction`, `rollbackTransaction` or
    `release`.
  Both are what `executeTransactionalStep`'s retry loop relies on
  (`Service.TransactionalStep`).

  As built:
  - `connect_failure_keeps_lock`: a `connect` that throws leaves `lock:req:<id>` set
    and the runner open, and a `release` that throws after the commit makes `execute`
    throw though its transaction committed.
-/

import EventWallet.Service.System

namespace EventWallet

/-- The calls `execute` awaits. -/
inductive TmCall where
  /-- `redis.set(lockKey, 'PROCESSING', 'EX', lockTtl, 'NX')`. -/
  | set
  | connect
  | startTransaction
  | operation
  | saveAll
  | commitTransaction
  | rollbackTransaction
  | release
  /-- `redis.del(lockKey)`. -/
  | del
  deriving DecidableEq, Repr

/-- What `execute` has left: its lock key, its query runner, its transaction. -/
structure TmWorld where
  /-- The lock key this call set and has not deleted. -/
  lockHeld : Bool
  /-- A runner created and not released. -/
  runnerOpen : Bool
  committed : Bool
  deriving DecidableEq, Repr

/-- What `execute` throws: `ConflictException`, or the error of an awaited call. -/
inductive TmError where
  | conflict
  | thrown (c : TmCall)
  deriving DecidableEq, Repr

abbrev TmM := ExceptT TmError (StateM TmWorld)

/-- An awaited call with outcome `f` and effect `eff`. -/
def awaitCall (f : Fault) (c : TmCall) (eff : TmWorld → TmWorld) : TmM Unit :=
  match f with
  | .ok => modify eff
  | .fails => throw (.thrown c)
  | .lost => do modify eff; throw (.thrown c)

section Execute

variable (faults : TmCall → Fault)

/-- Before the `try`: the lock, `createQueryRunner()`, `connect()`, `startTransaction()`. -/
def beginTx (lockKey lockFree : Bool) : TmM Unit := do
  if lockKey then
    awaitCall (faults .set) .set fun w => if lockFree then { w with lockHeld := true } else w
    unless lockFree do throw .conflict
  modify fun w => { w with runnerOpen := true }
  awaitCall (faults .connect) .connect id
  awaitCall (faults .startTransaction) .startTransaction id

/-- The `try`: the operation, `saveAll` when it buffered outbox rows, the commit. -/
def runOperation (hasEvents : Bool) : TmM Unit := do
  awaitCall (faults .operation) .operation id
  if hasEvents then awaitCall (faults .saveAll) .saveAll id
  awaitCall (faults .commitTransaction) .commitTransaction fun w => { w with committed := true }

/-- The `catch`: roll back, rethrow. -/
def rollBack (e : TmError) : TmM Unit := do
  awaitCall (faults .rollbackTransaction) .rollbackTransaction id
  throw e

/-- The `finally`: release the runner, then delete the lock key. -/
def releaseAll (lockKey : Bool) : TmM Unit := do
  awaitCall (faults .release) .release fun w => { w with runnerOpen := false }
  if lockKey then awaitCall (faults .del) .del fun w => { w with lockHeld := false }

def execute (lockKey lockFree hasEvents : Bool) : TmM Unit := do
  beginTx faults lockKey lockFree
  try
    runOperation faults hasEvents
  catch e =>
    rollBack faults e
  finally
    releaseAll faults lockKey

/-- `execute` from a world where nothing is held: how it ends and what it leaves. -/
def executeRun (lockKey lockFree hasEvents : Bool) : Except TmError Unit × TmWorld :=
  (execute faults lockKey lockFree hasEvents).run.run ⟨false, false, false⟩

end Execute

/-! ## Running the monad -/

section Run

variable {α β : Type}

theorem TmM.run_bind (x : TmM α) (f : α → TmM β) (w : TmWorld) :
    (x >>= f).run.run w = match x.run.run w with
      | (.ok a, w') => (f a).run.run w'
      | (.error e, w') => (.error e, w') := by
  rcases hx : x.run.run w with ⟨_ | _, w'⟩ <;> replace hx : x w = _ := hx <;>
    simp [bind, ExceptT.bind, ExceptT.run, StateT.run, ExceptT.bindCont, StateT.bind, ExceptT.mk, hx, pure, StateT.pure]

theorem TmM.run_tryCatch (x : TmM α) (h : TmError → TmM α) (w : TmWorld) :
    (tryCatch x h).run.run w = match x.run.run w with
      | (.ok a, w') => (.ok a, w')
      | (.error e, w') => (h e).run.run w' := by
  rcases hx : x.run.run w with ⟨_ | _, w'⟩ <;> replace hx : x w = _ := hx <;>
    simp [bind, tryCatch, tryCatchThe, MonadExceptOf.tryCatch, ExceptT.tryCatch, ExceptT.run, StateT.run,
      StateT.bind, ExceptT.mk, hx, pure, StateT.pure]

theorem TmM.run_tryFinally (x : TmM α) (f : TmM β) (w : TmWorld) :
    (tryFinally x f).run.run w = match x.run.run w with
      | (r, w') => match f.run.run w' with
        | (.ok _, w'') => (r, w'')
        | (.error e, w'') => (.error e, w'') := by
  rcases hx : x.run.run w with ⟨_ | _, w'⟩ <;> replace hx : x w = _ := hx <;>
    rcases hf : f.run.run w' with ⟨_ | _, w''⟩ <;> replace hf : f w' = _ := hf <;>
    simp [tryFinally, MonadFinally.tryFinally', ExceptT.run, StateT.run, ExceptT.mk, bind, StateT.bind,
      Functor.map, StateT.map, ExceptT.map, pure, StateT.pure, hx, hf]

@[simp] theorem awaitCall_run (f : Fault) (c : TmCall) (eff : TmWorld → TmWorld) (w : TmWorld) :
    (awaitCall f c eff).run.run w = match f with
      | .ok => (.ok (), eff w)
      | .fails => (.error (.thrown c), w)
      | .lost => (.error (.thrown c), eff w) := by
  cases f <;> rfl

end Run

/-! ## The blocks -/

section Blocks

variable (faults : TmCall → Fault)

@[simp] theorem TmM.run_pure {α : Type} (a : α) (w : TmWorld) : (pure a : TmM α).run.run w = (.ok a, w) := rfl

@[simp] theorem TmM.run_throw {α : Type} (e : TmError) (w : TmWorld) : (throw e : TmM α).run.run w = (.error e, w) := rfl

@[simp] theorem TmM.run_modify (f : TmWorld → TmWorld) (w : TmWorld) :
    (modify f : TmM Unit).run.run w = (.ok (), f w) := rfl

/-- The `try` reaches `commitTransaction`: the operation and `saveAll` returned. -/
def ReachesCommit (hasEvents : Bool) : Prop :=
  faults .operation = .ok ∧ (hasEvents = true → faults .saveAll = .ok)

/-- The `try` changes only the commit flag; it commits when it reaches a commit that
    takes effect, and completes when that commit returns. -/
theorem runOperation_spec (hasEvents : Bool) (w : TmWorld) :
    let r := (runOperation faults hasEvents).run.run w
    r.2.lockHeld = w.lockHeld ∧ r.2.runnerOpen = w.runnerOpen ∧
      (r.2.committed = true ↔ w.committed = true ∨ ReachesCommit faults hasEvents ∧ faults .commitTransaction ≠ .fails) ∧
      (r.1 = .ok () ↔ ReachesCommit faults hasEvents ∧ faults .commitTransaction = .ok) := by
  simp only [runOperation, ReachesCommit]
  cases hasEvents <;> simp only [TmM.run_bind, awaitCall_run, TmM.run_pure, Bool.false_eq_true, if_true, if_false]
  all_goals cases faults .operation <;> cases faults .saveAll <;> cases faults .commitTransaction <;> simp

/-- The `catch` changes nothing and rethrows. -/
theorem rollBack_spec (e : TmError) (w : TmWorld) :
    ((rollBack faults e).run.run w).2 = w ∧ ((rollBack faults e).run.run w).1 ≠ .ok () := by
  simp only [rollBack]
  cases faults .rollbackTransaction <;> simp [TmM.run_bind]

/-- The `try` with its `catch` leaves what the `try` left, and completes when it does. -/
theorem tryCatch_spec (hasEvents : Bool) (w : TmWorld) :
    let r := (tryCatch (runOperation faults hasEvents) (rollBack faults)).run.run w
    r.2 = ((runOperation faults hasEvents).run.run w).2 ∧
      (r.1 = .ok () ↔ ((runOperation faults hasEvents).run.run w).1 = .ok ()) := by
  rw [TmM.run_tryCatch]
  rcases (runOperation faults hasEvents).run.run w with ⟨_ | _, w'⟩
  · exact ⟨(rollBack_spec faults _ w').1, by simpa using (rollBack_spec faults _ w').2⟩
  · exact ⟨rfl, Iff.rfl⟩

/-- The `finally` releases the runner unless `release` fails, and deletes the lock key
    when `release` returned and `del` did not fail. -/
theorem releaseAll_spec (lockKey : Bool) (w : TmWorld) :
    let r := (releaseAll faults lockKey).run.run w
    r.2.committed = w.committed ∧
      (r.2.runnerOpen = true ↔ w.runnerOpen = true ∧ faults .release = .fails) ∧
      (r.2.lockHeld = true ↔ w.lockHeld = true ∧ ¬(lockKey = true ∧ faults .release = .ok ∧ faults .del ≠ .fails)) ∧
      (r.1 = .ok () ↔ faults .release = .ok ∧ (lockKey = true → faults .del = .ok)) := by
  simp only [releaseAll]
  cases lockKey <;> simp only [TmM.run_bind, awaitCall_run, TmM.run_pure, Bool.false_eq_true, if_true, if_false]
  all_goals cases faults .release <;> cases faults .del <;> simp

/-- Once its commit took effect, the `try` throws the error of `commitTransaction`. -/
theorem runOperation_error_committed (hasEvents : Bool) (w : TmWorld) (hw : w.committed = false) {e : TmError}
    (he : ((runOperation faults hasEvents).run.run w).1 = .error e)
    (hc : ((runOperation faults hasEvents).run.run w).2.committed = true) : e = .thrown .commitTransaction := by
  revert he hc
  simp only [runOperation]
  cases hasEvents <;> simp only [TmM.run_bind, awaitCall_run, TmM.run_pure, Bool.false_eq_true, if_true, if_false]
  all_goals cases faults .operation <;> cases faults .saveAll <;> cases faults .commitTransaction <;> simp [hw, eq_comm]

/-- The `catch` rethrows its error, or the error of `rollbackTransaction`. -/
theorem rollBack_error (e : TmError) (w : TmWorld) {e' : TmError} (h : ((rollBack faults e).run.run w).1 = .error e') :
    e' = e ∨ e' = .thrown .rollbackTransaction := by
  revert h
  simp only [rollBack]
  cases faults .rollbackTransaction <;> simp [TmM.run_bind] <;> rintro rfl <;> simp

/-- Without a lock key, the `finally` throws only the error of `release`. -/
theorem releaseAll_error (w : TmWorld) {e : TmError} (h : ((releaseAll faults false).run.run w).1 = .error e) :
    e = .thrown .release := by
  revert h
  simp only [releaseAll]
  cases faults .release <;> simp [TmM.run_bind] <;> rintro rfl <;> rfl

/-- The lock is taken: there is no lock key, or the `SET … NX` returned and set it. -/
def Acquired (lockKey lockFree : Bool) : Prop :=
  lockKey = true → faults .set = .ok ∧ lockFree = true

/-- Before the `try`: the key is set when it was free and the `SET` took effect, the
    runner is created once the lock is taken, and the block completes when `connect`
    and `startTransaction` return. -/
theorem beginTx_spec (lockKey lockFree : Bool) (w : TmWorld) :
    let r := (beginTx faults lockKey lockFree).run.run w
    r.2.committed = w.committed ∧
      (r.2.lockHeld = true ↔ w.lockHeld = true ∨ lockKey = true ∧ lockFree = true ∧ faults .set ≠ .fails) ∧
      (r.2.runnerOpen = true ↔ w.runnerOpen = true ∨ Acquired faults lockKey lockFree) ∧
      (r.1 = .ok () ↔ Acquired faults lockKey lockFree ∧ faults .connect = .ok ∧ faults .startTransaction = .ok) := by
  simp only [beginTx, Acquired]
  cases lockKey <;> cases lockFree <;>
    simp only [TmM.run_bind, awaitCall_run, TmM.run_throw, TmM.run_modify, TmM.run_pure, Bool.false_eq_true, if_true,
      if_false]
  all_goals cases faults .set <;> cases faults .connect <;> cases faults .startTransaction <;> simp

end Blocks

/-! ## `execute` -/

section Execute

variable (faults : TmCall → Fault) (lockKey lockFree hasEvents : Bool)

/-- `execute` stops where the block before the `try` throws; past it, it leaves what
    the `finally` leaves after the `try`, and returns when the `try` and the `finally`
    both completed. -/
theorem executeRun_spec :
    let b := (beginTx faults lockKey lockFree).run.run ⟨false, false, false⟩
    let t := (runOperation faults hasEvents).run.run b.2
    let f := (releaseAll faults lockKey).run.run t.2
    (b.1 ≠ .ok () → executeRun faults lockKey lockFree hasEvents = b) ∧
      (b.1 = .ok () → (executeRun faults lockKey lockFree hasEvents).2 = f.2 ∧
        ((executeRun faults lockKey lockFree hasEvents).1 = .ok () ↔ t.1 = .ok () ∧ f.1 = .ok ())) := by
  simp only [executeRun, execute, TmM.run_bind]
  rcases (beginTx faults lockKey lockFree).run.run ⟨false, false, false⟩ with ⟨_ | _, w1⟩
  · exact ⟨fun _ => rfl, fun h => nomatch h⟩
  refine ⟨fun h => absurd rfl h, fun _ => ?_⟩
  obtain ⟨hw, hok⟩ := tryCatch_spec faults hasEvents w1
  dsimp only
  rw [TmM.run_tryFinally, ← hw]
  revert hok
  rcases (tryCatch (runOperation faults hasEvents) (rollBack faults)).run.run w1 with ⟨r, w2⟩
  rintro (hok : r = _ ↔ _)
  dsimp only
  split <;> rename_i h <;> simp [h, ← hok]

/-- When `execute` returns, its transaction committed. -/
theorem executeRun_ok_committed (h : (executeRun faults lockKey lockFree hasEvents).1 = .ok ()) :
    (executeRun faults lockKey lockFree hasEvents).2.committed = true := by
  have hb : ((beginTx faults lockKey lockFree).run.run ⟨false, false, false⟩).1 = .ok () := by
    by_contra hb
    rw [(executeRun_spec faults lockKey lockFree hasEvents).1 hb] at h
    exact hb h
  obtain ⟨hw, hok⟩ := (executeRun_spec faults lockKey lockFree hasEvents).2 hb
  obtain ⟨ht, -⟩ := hok.mp h
  obtain ⟨-, -, hoc, hook⟩ := runOperation_spec faults hasEvents _
  obtain ⟨hfc, -, -, -⟩ := releaseAll_spec faults lockKey _
  obtain ⟨hreach, hcommit⟩ := hook.mp ht
  rw [hw, hfc]
  exact hoc.mpr (.inr ⟨hreach, by rw [hcommit]; decide⟩)

/-- `execute` commits only through a `commitTransaction` that takes effect. -/
theorem executeRun_committed (h : (executeRun faults lockKey lockFree hasEvents).2.committed = true) :
    faults .commitTransaction ≠ .fails := by
  obtain ⟨hbc, -, -, -⟩ := beginTx_spec faults lockKey lockFree ⟨false, false, false⟩
  by_cases hb : ((beginTx faults lockKey lockFree).run.run ⟨false, false, false⟩).1 = .ok ()
  · obtain ⟨-, -, hoc, -⟩ := runOperation_spec faults hasEvents _
    obtain ⟨hfc, -, -, -⟩ := releaseAll_spec faults lockKey _
    rw [((executeRun_spec faults lockKey lockFree hasEvents).2 hb).1, hfc, hoc, hbc] at h
    exact (by simpa using h : ReachesCommit faults hasEvents ∧ _).2
  · rw [(executeRun_spec faults lockKey lockFree hasEvents).1 hb, hbc] at h
    cases h

/-- Without a lock key, once its commit took effect `execute` throws only the error of
    `commitTransaction`, `rollbackTransaction` or `release`. -/
theorem executeRun_error_committed {e : TmError} (he : (executeRun faults false lockFree hasEvents).1 = .error e)
    (hc : (executeRun faults false lockFree hasEvents).2.committed = true) :
    e = .thrown .commitTransaction ∨ e = .thrown .rollbackTransaction ∨ e = .thrown .release := by
  obtain ⟨hbc, -, -, -⟩ := beginTx_spec faults false lockFree ⟨false, false, false⟩
  revert he hc
  simp only [executeRun, execute, TmM.run_bind]
  rcases hb : (beginTx faults false lockFree).run.run ⟨false, false, false⟩ with ⟨_ | _, w1⟩ <;> rw [hb] at hbc
  · simp_all
  dsimp only at hbc ⊢
  rw [TmM.run_tryFinally, TmM.run_tryCatch]
  have hrc := @runOperation_error_committed faults hasEvents w1 hbc
  rcases ho : (runOperation faults hasEvents).run.run w1 with ⟨e0 | _, w2⟩ <;> rw [ho] at hrc <;> dsimp only
  · have hr : ∀ e1, _ → e1 = e0 ∨ _ := fun _ => rollBack_error faults e0 w2
    have hrw := (rollBack_spec faults e0 w2).1
    rcases hrb : (rollBack faults e0).run.run w2 with ⟨e1 | _, w3⟩ <;> rw [hrb] at hr hrw <;> dsimp only at hrw ⊢
    · subst hrw
      obtain ⟨hfc, -, -, -⟩ := releaseAll_spec faults false w3
      rcases hf : (releaseAll faults false).run.run w3 with ⟨e2 | _, w4⟩ <;> rw [hf] at hfc <;> dsimp only at hfc ⊢
      · rintro ⟨⟩ -
        exact .inr (.inr (releaseAll_error faults w3 (by rw [hf])))
      · rintro ⟨⟩ hc
        rcases hr _ rfl with rfl | rfl
        · exact .inl (hrc rfl (hfc ▸ hc))
        · exact .inr (.inl rfl)
    · exact absurd (by rw [hrb]) (rollBack_spec faults e0 w2).2
  · rcases hf : (releaseAll faults false).run.run w2 with ⟨e2 | _, w4⟩ <;> dsimp only
    · rintro ⟨⟩ -
      exact .inr (.inr (releaseAll_error faults w2 (by rw [hf])))
    · simp

end Execute

/-- Only `connect` throws. -/
def connectFails : TmCall → Fault
  | .connect => .fails
  | _ => .ok

/-- Only `release` throws. -/
def releaseFails : TmCall → Fault
  | .release => .fails
  | _ => .ok

/-- As built: a `connect` that throws leaves the lock key set and the runner open; a
    `release` that throws after the commit makes `execute` throw with its transaction
    committed, the runner open and the lock key set. -/
theorem connect_failure_keeps_lock :
    executeRun connectFails true true true = (.error (.thrown .connect), ⟨true, true, false⟩) ∧
      executeRun releaseFails true true true = (.error (.thrown .release), ⟨true, true, true⟩) :=
  ⟨rfl, rfl⟩

end EventWallet
