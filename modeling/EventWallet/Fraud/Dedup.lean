/-
  EventWallet.Fraud.Dedup — `processFraudChecks` runs at most once per idempotency key
  within the key's TTL, over every run of the consumer.

  The key is set only by a `SET … NX` that found no live key, and nothing deletes it
  before its TTL ends; a run starts only on such a SET, at the instant of the SET. A
  run writes its alerts in the order of `processFraudChecks`, at most one of each type.
  The invariant (`Good`) says so with the alerts each worker's run may still write.

  Proved, over every run of the consumer from its start, with any number of workers,
  any interleaving, any redelivery or duplicate, and any Redis call failing:
  - `fraud_checks_once_per_key`: two runs on payloads of one key lock at least 24 h
    apart; two alerts of one type whose runs have one key come from runs at least 24 h
    apart; every alert belongs to a run.

  The relay publishes an outbox row's stored payload and `publishEventsAsync` the one it
  saved (`Outbox.Pairing`): every delivery of a row has the row's key.
-/

import Mathlib.Data.List.Nodup
import Mathlib.Data.List.Perm.Subperm
import EventWallet.Fraud.Consumer

namespace EventWallet

open scoped List

/-- The alerts a run standing at `pc` may still write, each with its run. -/
def ConsumerPc.pending : ConsumerPc → List (AlertType × Nat)
  | .acquireLock => []
  | .zadd n | .zremrangebyscore n | .expire n | .zcard n | .saveRapidWithdrawals n _ =>
    [(.RAPID_WITHDRAWALS, n), (.HIGH_VALUE_TRANSACTION, n)]
  | .saveHighValue n => [(.HIGH_VALUE_TRANSACTION, n)]

variable {M : Type} [LinearOrderedCommRing M]

def Worker.pending : Worker M → List (AlertType × Nat)
  | .idle => []
  | .busy _ pc => pc.pending

/-- Two runs lock at least the key's TTL apart, in either order. -/
def FraudRun.Apart (r r' : FraudRun M) : Prop :=
  r.lockedAt + idempotencyTtl ≤ r'.lockedAt ∨ r'.lockedAt + idempotencyTtl ≤ r.lockedAt

/-- Runs of one key lock at least the key's TTL apart. -/
def Separated (runs : List (FraudRun M)) : Prop :=
  runs.Pairwise fun r r' => generateIdempotencyKey r.payload = generateIdempotencyKey r'.payload →
    r.lockedAt + idempotencyTtl ≤ r'.lockedAt

namespace FraudSys

/-- The alerts written, each with its run, then the alerts the workers' runs may
    still write. -/
def written (f : FraudSys M) : List (AlertType × Nat) :=
  f.alerts.map (fun a => (a.1.alertType, a.2)) ++ f.workers.flatMap Worker.pending

structure Good (f : FraudSys M) : Prop where
  separated : Separated f.runs
  /-- Each run's key is held at least until the TTL from the run's lock ends. -/
  marked : ∀ r ∈ f.runs, ∃ t, f.processed (generateIdempotencyKey r.payload) = some t ∧
    r.lockedAt + idempotencyTtl ≤ t
  /-- No alert is written twice for one run, nor still to be written once it is. -/
  written_nodup : f.written.Nodup
  written_run : ∀ a ∈ f.written, a.2 < f.runs.length

/-! ## Lists -/

theorem nodup_of_subperm {α : Type} {l₁ l₂ : List α} (h : l₁ <+~ l₂) (hn : l₂.Nodup) : l₁.Nodup :=
  let ⟨_, p, s⟩ := h
  (hn.sublist s).perm p

/-- The `flatMap` of a list around its entry `i`, before and after `set`. -/
theorem flatMap_set {α β : Type} {l : List α} {i : Nat} {a : α} (h : l[i]? = some a) (b : α) (g : α → List β) :
    ∃ A B, l.flatMap g = A ++ (g a ++ B) ∧ (l.set i b).flatMap g = A ++ (g b ++ B) := by
  induction l generalizing i with
  | nil => simp at h
  | cons x l ih =>
    cases i with
    | zero => simp only [List.getElem?_cons_zero, Option.some.injEq] at h; subst h; exact ⟨[], _, rfl, rfl⟩
    | succ i =>
      obtain ⟨A, B, h1, h2⟩ := ih (by simpa using h)
      exact ⟨g x ++ A, B, by simp [h1], by simp [h2]⟩

/-- Moving entries from the middle of a list to before it, dropping some of them. -/
theorem subperm_move {α : Type} (K A B add w w' : List α) (h : add ++ w' <+~ w) :
    K ++ add ++ (A ++ (w' ++ B)) <+~ K ++ (A ++ (w ++ B)) := by
  have p : K ++ add ++ (A ++ (w' ++ B)) ~ K ++ (A ++ ((add ++ w') ++ B)) := by
    simpa only [List.append_assoc] using (List.perm_append_comm_assoc add A (w' ++ B)).append_left K
  exact p.subperm.trans ((List.subperm_append_left K).mpr ((List.subperm_append_left A).mpr
    ((List.subperm_append_right B).mpr h)))

/-! ## What each change keeps -/

variable {f : FraudSys M}

/-- A change that keeps the runs and the keys, and writes alerts only from a run's
    pending ones, keeps the invariant. -/
theorem Good.frame (h : f.Good) {g : FraudSys M} (hr : g.runs = f.runs) (hp : g.processed = f.processed)
    (hw : g.written <+~ f.written) : g.Good where
  separated := hr ▸ h.separated
  marked := by rw [hr, hp]; exact h.marked
  written_nodup := nodup_of_subperm hw h.written_nodup
  written_run a ha := hr ▸ h.written_run a (hw.subset ha)

omit [LinearOrderedCommRing M] in
/-- Worker `i` moves from `w` to `w'`, writing alerts `add` of its pending ones. -/
theorem written_setWorker {i : Nat} {w : Worker M} (hw : f.workers[i]? = some w) (w' : Worker M)
    (add : List (FraudAlert M × Nat)) (h : add.map (fun a => (a.1.alertType, a.2)) ++ w'.pending <+~ w.pending) :
    ({ f with alerts := f.alerts ++ add }.setWorker i w').written <+~ f.written := by
  obtain ⟨A, B, h1, h2⟩ := flatMap_set hw w' Worker.pending
  simp only [written, setWorker, List.map_append, h1, h2]
  exact subperm_move _ _ _ _ _ _ h

theorem Good.setWorker (h : f.Good) {i : Nat} {w : Worker M} (hw : f.workers[i]? = some w) {w' : Worker M}
    (hp : w'.pending <+~ w.pending) : (f.setWorker i w').Good :=
  h.frame rfl rfl (by simpa using written_setWorker hw w' [] (by simpa using hp))

theorem Good.alert (h : f.Good) {i : Nat} {w : Worker M} (hw : f.workers[i]? = some w) {w' : Worker M}
    (a : FraudAlert M) (n : Nat) (hp : (a.alertType, n) :: w'.pending <+~ w.pending) :
    ((f.addAlert a n).setWorker i w').Good :=
  h.frame rfl rfl (written_setWorker hw w' [(a, n)] hp)

theorem Good.setWithdrawals (h : f.Good) (w : WalletId) (v : Option (List Nat × Option Nat)) :
    (f.setWithdrawals w v).Good :=
  h.frame rfl rfl (List.Subperm.refl _)

theorem Good.zadd (h : f.Good) (w : WalletId) (t : Nat) : (f.zadd w t).Good := h.setWithdrawals _ _

theorem Good.zremrangebyscore (h : f.Good) (w : WalletId) (c : Int) : (f.zremrangebyscore w c).Good := by
  unfold FraudSys.zremrangebyscore; split
  · exact h.setWithdrawals _ _
  · exact h

theorem Good.expire (h : f.Good) (w : WalletId) (t : Nat) : (f.expire w t).Good := by
  unfold FraudSys.expire; split
  · exact h.setWithdrawals _ _
  · exact h

theorem Good.handleProcessingError (h : f.Good) {i : Nat} {w : Worker M} (hw : f.workers[i]? = some w)
    (msg : FraudMsg M) : (f.handleProcessingError i msg).Good := by
  have h' : (f.setWorker i .idle).Good := h.setWorker hw List.nil_subperm
  unfold FraudSys.handleProcessingError; split
  · exact h'.frame rfl rfl (List.Subperm.refl _)
  · exact h'.frame rfl rfl (List.Subperm.refl _)

theorem Good.io (h : f.Good) {i : Nat} {w : Worker M} (hw : f.workers[i]? = some w) (msg : FraudMsg M)
    (fault : Fault) {eff next : FraudSys M → FraudSys M} (he : (eff f).Good) (hwe : (eff f).workers = f.workers)
    (hn : (next (eff f)).Good) : (f.io i msg fault eff next).Good := by
  cases fault
  · exact hn
  · exact h.handleProcessingError hw msg
  · exact he.handleProcessingError (hwe ▸ hw) msg

/-- A key set by a `SET … NX` that found it absent outlasts every run of the key. -/
theorem Good.setProcessed (h : f.Good) {key : IdempotencyKey M} (hl : f.processedLive key = false) :
    (f.setProcessed key).Good := by
  refine ⟨h.separated, fun r hr => ?_, h.written_nodup, h.written_run⟩
  obtain ⟨t, ht, hle⟩ := h.marked r hr
  by_cases hk : generateIdempotencyKey r.payload = key
  · subst hk
    have : t ≤ f.now := by simpa [processedLive, ht] using hl
    exact ⟨_, Function.update_same _ _ _, by omega⟩
  · exact ⟨t, by simp [FraudSys.setProcessed, Function.update_noteq hk, ht], hle⟩

omit [LinearOrderedCommRing M] in
/-- A new run: worker `i` leaves `acquireLock` for `w'`, whose alerts are all new. -/
theorem written_start {i : Nat} {msg : FraudMsg M} (hw : f.workers[i]? = some (.busy msg .acquireLock))
    (w' : Worker M) (r : FraudRun M) :
    ({ f with runs := f.runs ++ [r] }.setWorker i w').written ~ w'.pending ++ f.written := by
  obtain ⟨A, B, h1, h2⟩ := flatMap_set hw w' Worker.pending
  simp only [written, setWorker, h2, h1, Worker.pending, ConsumerPc.pending, List.nil_append]
  exact ((List.perm_append_comm_assoc A _ B).append_left _).trans (List.perm_append_comm_assoc _ _ _)

/-- The run a successful `SET … NX` starts locks at least the TTL after every earlier
    run of its key, and its alerts are all still to be written. -/
theorem Good.startRun (h : f.Good) {i : Nat} {msg : FraudMsg M} (hw : f.workers[i]? = some (.busy msg .acquireLock))
    (hl : f.processedLive (generateIdempotencyKey msg.payload) = false) :
    ((f.setProcessed (generateIdempotencyKey msg.payload)).startRun i msg f.now).Good := by
  have hs := h.setProcessed hl
  have sep : Separated (f.runs ++ [FraudRun.mk msg.payload f.now]) := by
    refine List.pairwise_append.mpr ⟨h.separated, by simp, fun r hr r' hr' hk => ?_⟩
    obtain ⟨t, ht, hle⟩ := h.marked r hr
    simp only [List.mem_singleton] at hr'
    subst hr'
    rw [hk] at ht
    have : t ≤ f.now := by simpa [processedLive, ht] using hl
    exact le_trans hle this
  have fresh : ∀ w' : Worker M, (∀ a ∈ w'.pending, a.2 = f.runs.length) → w'.pending.Nodup →
      ({ f.setProcessed (generateIdempotencyKey msg.payload) with runs := f.runs ++ [FraudRun.mk msg.payload f.now] }.setWorker
        i w').Good := by
    intro w' hn hd
    have hp : ({ f.setProcessed (generateIdempotencyKey msg.payload) with
        runs := f.runs ++ [FraudRun.mk msg.payload f.now] }.setWorker i w').written ~ w'.pending ++ f.written :=
      written_start hw w' ⟨msg.payload, f.now⟩
    refine ⟨sep, fun r hr => ?_, hp.nodup_iff.mpr (List.nodup_append.mpr ⟨hd, h.written_nodup, fun a ha hb => ?_⟩),
      fun a ha => ?_⟩
    · rcases List.mem_append.mp hr with hr | hr
      · exact hs.marked r hr
      · simp only [List.mem_singleton] at hr; subst hr
        exact ⟨_, Function.update_same _ _ _, le_rfl⟩
    · exact absurd (hn a ha) (h.written_run a hb).ne
    · show a.2 < (f.runs ++ [FraudRun.mk msg.payload f.now]).length
      rcases List.mem_append.mp (hp.subset ha) with ha | ha
      · simp [hn a ha]
      · simpa using Nat.lt_succ_of_lt (h.written_run a ha)
  unfold FraudSys.startRun
  split
  · exact fresh _ (by simp [Worker.pending, ConsumerPc.pending]; rfl) (by simp [Worker.pending, ConsumerPc.pending])
  · exact fresh .idle (by simp [Worker.pending]) List.nodup_nil

theorem afterRapid_pending (cfg : FraudConfig M) (msg : FraudMsg M) (n : Nat) :
    (afterRapid cfg msg n).pending <+ [(.HIGH_VALUE_TRANSACTION, n)] := by
  unfold afterRapid; split <;> simp [Worker.pending, ConsumerPc.pending]

/-- `saveFraudAlert` writes one of the run's pending alerts, or nothing. -/
theorem Good.saveFraudAlert (h : f.Good) {i : Nat} {w : Worker M} (hw : f.workers[i]? = some w) (fault : Fault)
    (a : FraudAlert M) (n : Nat) {w' : Worker M} (hp : (a.alertType, n) :: w'.pending <+~ w.pending) :
    ((f.saveFraudAlert fault a n).setWorker i w').Good := by
  cases fault
  · exact h.alert hw a n hp
  · exact h.setWorker hw ((List.sublist_cons_self _ _).subperm.trans hp)
  · exact h.alert hw a n hp

/-- Every step of a worker keeps the invariant. -/
theorem Good.stepWorker (h : f.Good) (cfg : FraudConfig M) {i : Nat} {msg : FraudMsg M} {pc : ConsumerPc}
    (hw : f.workers[i]? = some (.busy msg pc)) (fault : Fault) : (f.stepWorker cfg i msg fault pc).Good := by
  have keep : ∀ {g : FraudSys M} (pc' : ConsumerPc), g.Good → g.workers = f.workers → pc'.pending = pc.pending →
      (g.setWorker i (.busy msg pc')).Good :=
    fun pc' hg hgw hp => hg.setWorker (hgw ▸ hw) (by show pc'.pending <+~ pc.pending; rw [hp])
  cases pc with
  | acquireLock =>
    dsimp only [FraudSys.stepWorker]
    split
    · exact h.io hw msg fault h rfl (h.setWorker hw List.nil_subperm)
    · rename_i hl
      exact h.io hw msg fault (h.setProcessed (by simpa using hl)) rfl (h.startRun hw (by simpa using hl))
  | zadd n =>
    dsimp only [FraudSys.stepWorker]
    refine h.io hw msg fault (h.zadd _ _) rfl ?_
    exact keep _ (h.zadd _ _) rfl rfl
  | zremrangebyscore n =>
    dsimp only [FraudSys.stepWorker]
    refine h.io hw msg fault (h.zremrangebyscore _ _) (by simp) ?_
    exact keep _ (h.zremrangebyscore _ _) (by simp) rfl
  | expire n =>
    dsimp only [FraudSys.stepWorker]
    refine h.io hw msg fault (h.expire _ _) (by simp) ?_
    exact keep _ (h.expire _ _) (by simp) rfl
  | zcard n =>
    dsimp only [FraudSys.stepWorker]
    refine h.io hw msg fault h rfl ?_
    refine h.setWorker hw ?_
    split
    · exact List.Subperm.refl _
    · exact ((afterRapid_pending cfg msg n).trans (List.sublist_cons_self _ _)).subperm
  | saveRapidWithdrawals n count =>
    exact h.saveFraudAlert hw fault _ n ((afterRapid_pending cfg msg n).cons₂ _).subperm
  | saveHighValue n =>
    dsimp only [FraudSys.stepWorker]
    split
    · exact h.saveFraudAlert hw fault _ n (List.Subperm.refl _)
    · exact h.setWorker hw List.nil_subperm

/-- Every event of the consumer's environment keeps the invariant. -/
theorem Good.stepFraud (h : f.Good) (cfg : FraudConfig M) (e : FraudEv M) : (stepFraud cfg f e).Good := by
  have same : ∀ {g : FraudSys M}, g.runs = f.runs → g.processed = f.processed → g.alerts = f.alerts →
      g.workers = f.workers → g.Good :=
    fun hr hp ha hw => h.frame hr hp (by simp only [written, ha, hw]; exact List.Subperm.refl _)
  cases e with
  | publish p => dsimp only [EventWallet.stepFraud]; split <;> exact same rfl rfl rfl rfl
  | duplicate j => dsimp only [EventWallet.stepFraud]; split <;> exact same rfl rfl rfl rfl
  | deliver i j =>
    dsimp only [EventWallet.stepFraud]
    split
    · rename_i m hw _
      have h' : (f.setWorker i (.busy m .acquireLock)).Good := h.setWorker hw List.nil_subperm
      exact h'.frame rfl rfl (List.Subperm.refl _)
    · exact h
  | step i fault =>
    dsimp only [EventWallet.stepFraud]
    split
    · exact h.stepWorker cfg ‹_› fault
    · exact h
  | crash i =>
    dsimp only [EventWallet.stepFraud]
    split
    · rename_i hw
      have h' : (f.setWorker i .idle).Good := h.setWorker hw List.nil_subperm
      exact h'.frame rfl rfl (List.Subperm.refl _)
    · exact h
  | addWorker =>
    exact h.frame rfl rfl (by simp [written, EventWallet.stepFraud, Worker.pending]; exact List.Subperm.refl _)
  | expireWaiting j requeue =>
    dsimp only [EventWallet.stepFraud]
    split
    · split <;> exact same rfl rfl rfl rfl
    · exact h
  | tick dt => exact same rfl rfl rfl rfl

theorem Good.runFraud (h : f.Good) (cfg : FraudConfig M) (evs : List (FraudEv M)) :
    (EventWallet.runFraud cfg f evs).Good := by
  induction evs generalizing f with
  | nil => exact h
  | cons e evs ih => exact ih (h.stepFraud cfg e)

theorem Good.init : (init : FraudSys M).Good where
  separated := List.Pairwise.nil
  marked _ h := nomatch h
  written_nodup := List.nodup_nil
  written_run _ h := nomatch h

end FraudSys

/-- Two runs of one key at different places of the log lock at least the TTL apart. -/
theorem Separated.apart {runs : List (FraudRun M)} (h : Separated runs) {i j : Nat} (hij : i ≠ j)
    {r r' : FraudRun M} (hi : runs[i]? = some r) (hj : runs[j]? = some r')
    (hk : generateIdempotencyKey r.payload = generateIdempotencyKey r'.payload) : r.Apart r' := by
  obtain ⟨hi', rfl⟩ := List.getElem?_eq_some_iff.mp hi
  obtain ⟨hj', rfl⟩ := List.getElem?_eq_some_iff.mp hj
  rcases Nat.lt_or_gt_of_ne hij with hlt | hlt
  · exact .inl (List.pairwise_iff_getElem.mp h i j hi' hj' hlt hk)
  · exact .inr (List.pairwise_iff_getElem.mp h j i hj' hi' hlt hk.symm)

/-- Whatever the deliveries, workers, interleavings and failures: two runs of
    `processFraudChecks` on payloads of one key lock at least 24 h apart, every alert
    belongs to a run, and two alerts of one type whose runs have one key come from runs
    at least 24 h apart. -/
theorem fraud_checks_once_per_key (cfg : FraudConfig M) (evs : List (FraudEv M)) :
    let f := runFraud cfg FraudSys.init evs
    Separated f.runs ∧ (∀ a ∈ f.alerts, a.2 < f.runs.length) ∧
      f.alerts.Pairwise fun a b => a.1.alertType = b.1.alertType → ∀ r r', f.runs[a.2]? = some r →
        f.runs[b.2]? = some r' → generateIdempotencyKey r.payload = generateIdempotencyKey r'.payload → r.Apart r' := by
  intro f
  have h : f.Good := FraudSys.Good.init.runFraud cfg evs
  have hk : (f.alerts.map fun a => (a.1.alertType, a.2)).Nodup := h.written_nodup.sublist (List.sublist_append_left _ _)
  refine ⟨h.separated, fun a ha => h.written_run _ (List.mem_append_left _ (List.mem_map_of_mem _ ha)), ?_⟩
  exact (List.pairwise_map.mp hk).imp fun hab ht _ _ hr hr' hkey =>
    h.separated.apart (fun e => hab (by rw [ht, e])) hr hr' hkey

/-- A withdrawal's message published twice (post-commit and by the relay), taken by two
    workers: the second finds the key and acknowledges; one high-value alert. -/
example :
    let p : Payload ℤ := ⟨.FUNDS_WITHDRAWN, 0, some 500, .request none, 1000⟩
    let f := runFraud ⟨100, 5, 60⟩ FraudSys.init
      ([.addWorker, .addWorker, .publish p, .publish p, .deliver 0 0, .deliver 1 0, .step 0 .ok, .step 1 .ok] ++
        List.replicate 5 (.step 0 .ok))
    f.runs.length = 1 ∧ f.alerts.map (·.1) = [⟨0, .HIGH_VALUE_TRANSACTION, .highValue 500 100⟩] ∧
      f.workers = [.idle, .idle] := by
  decide

end EventWallet
