/-
  EventWallet.Fraud.Alerts — what every alert of the consumer stands on, over every run.

  `processFraudChecks` checks withdrawals only: a run on a TRANSFER_COMPLETED payload is
  acknowledged at once. A RAPID_WITHDRAWALS alert saves the `zcard` count that passed
  `count > fraudDetectionMaxWithdrawals`, with the configured window; a
  HIGH_VALUE_TRANSACTION alert saves the amount that passed `amount > threshold`, read
  from the payload again at the save. Each alert is saved by the run it belongs to, on
  that run's payload: a worker keeps its message from its lock to its ack.

  Proved, over every run of the consumer from its start, with any number of workers,
  any interleaving, any redelivery or duplicate, and any Redis call failing:
  - `fraud_alerts_are_justified`: every alert belongs to a run on a FUNDS_WITHDRAWN
    payload of the alert's wallet; a RAPID_WITHDRAWALS alert records a count above
    `fraudDetectionMaxWithdrawals` and the configured window; a HIGH_VALUE_TRANSACTION
    alert records the payload's amount and the configured threshold, the amount above it.

  The count is `zcard` of `withdrawals:<walletId>`, whose members are timestamps: it
  holds every timestamp processed within the window's TTL above the cutoff, later ones
  delivered earlier included, and one member for withdrawals of one millisecond. So it is
  not the number of processed withdrawals in `(t − W, t]` (`inWindow`).

  As built:
  - `rapid_alert_counts_delivery_order`: withdrawals at 4, 3, 2, 1 ms delivered in that
    order raise an alert on the last with a count of 4, though it alone lies in its
    window; four withdrawals in one millisecond raise none, though all four do.
-/

import EventWallet.Fraud.Consumer

namespace EventWallet

variable {M : Type}

/-- Run `n` of the log is on `msg`'s payload, a withdrawal. -/
def RunOf (runs : List (FraudRun M)) (n : Nat) (msg : FraudMsg M) : Prop :=
  runs[n]?.map (·.payload) = some msg.payload ∧ msg.payload.eventType = .FUNDS_WITHDRAWN

/-- What a worker past its lock holds: its run, and at `saveRapidWithdrawals` a count
    above the maximum. -/
def Worker.Sound (cfg : FraudConfig M) (runs : List (FraudRun M)) : Worker M → Prop
  | .idle | .busy _ .acquireLock => True
  | .busy msg (.zadd n) | .busy msg (.zremrangebyscore n) | .busy msg (.expire n) | .busy msg (.zcard n)
  | .busy msg (.saveHighValue n) => RunOf runs n msg
  | .busy msg (.saveRapidWithdrawals n count) => RunOf runs n msg ∧ cfg.fraudDetectionMaxWithdrawals < count

theorem RunOf.append {runs : List (FraudRun M)} (l : List (FraudRun M)) {n : Nat} {msg : FraudMsg M}
    (h : RunOf runs n msg) : RunOf (runs ++ l) n msg := by
  obtain ⟨r, hr, -⟩ := Option.map_eq_some'.mp h.1
  exact ⟨by rw [List.getElem?_append_left (List.getElem?_eq_some_iff.mp hr).1]; exact h.1, h.2⟩

theorem Worker.Sound.append {cfg : FraudConfig M} {runs : List (FraudRun M)} (l : List (FraudRun M))
    {w : Worker M} (h : w.Sound cfg runs) : w.Sound cfg (runs ++ l) := by
  rcases w with _ | ⟨msg, _ | n | n | n | n | ⟨n, c⟩ | n⟩
  case busy.saveRapidWithdrawals => exact ⟨h.1.append l, h.2⟩
  all_goals first | trivial | exact RunOf.append l h

variable [LinearOrderedCommRing M]

/-- What an alert saved by run `n` records of that run's payload and of the configuration. -/
def AlertSound (cfg : FraudConfig M) (runs : List (FraudRun M)) (a : FraudAlert M) (n : Nat) : Prop :=
  ∃ r, runs[n]? = some r ∧ r.payload.eventType = .FUNDS_WITHDRAWN ∧ a.walletId = r.payload.walletId ∧
    (a.alertType = .RAPID_WITHDRAWALS → ∃ count, cfg.fraudDetectionMaxWithdrawals < count ∧
      a.details = .rapidWithdrawals count cfg.fraudDetectionTimeWindowMinutes) ∧
    (a.alertType = .HIGH_VALUE_TRANSACTION → ∃ amount, r.payload.amount = some amount ∧
      cfg.fraudDetectionThreshold < amount ∧ a.details = .highValue amount cfg.fraudDetectionThreshold)

theorem AlertSound.append {cfg : FraudConfig M} {runs : List (FraudRun M)} (l : List (FraudRun M))
    {a : FraudAlert M} {n : Nat} (h : AlertSound cfg runs a n) : AlertSound cfg (runs ++ l) a n :=
  let ⟨r, hr, rest⟩ := h
  ⟨r, by rw [List.getElem?_append_left (List.getElem?_eq_some_iff.mp hr).1]; exact hr, rest⟩

namespace FraudSys

/-- Every alert stands on its run, and every worker holds what its await expects. -/
structure Sound (cfg : FraudConfig M) (f : FraudSys M) : Prop where
  alerts : ∀ a ∈ f.alerts, AlertSound cfg f.runs a.1 a.2
  workers : ∀ w ∈ f.workers, w.Sound cfg f.runs

/-! ## What each change keeps -/

variable {cfg : FraudConfig M} {f : FraudSys M}

/-- A change that keeps the runs, the alerts and the workers. -/
theorem Sound.of_eq (h : f.Sound cfg) {g : FraudSys M} (hr : g.runs = f.runs) (ha : g.alerts = f.alerts)
    (hw : g.workers = f.workers) : g.Sound cfg :=
  ⟨by rw [hr, ha]; exact h.alerts, by rw [hr, hw]; exact h.workers⟩

theorem Sound.setWorker (h : f.Sound cfg) (i : Nat) (w : Worker M) (hw : w.Sound cfg f.runs) :
    (f.setWorker i w).Sound cfg :=
  ⟨h.alerts, fun w' hw' => (List.mem_or_eq_of_mem_set hw').elim (h.workers w') (· ▸ hw)⟩

theorem Sound.handleProcessingError (h : f.Sound cfg) (i : Nat) (msg : FraudMsg M) :
    (f.handleProcessingError i msg).Sound cfg := by
  have h' := h.setWorker i .idle trivial
  unfold FraudSys.handleProcessingError; split
  · exact h'.of_eq rfl rfl rfl
  · exact h'.of_eq rfl rfl rfl

theorem Sound.io (h : f.Sound cfg) {i : Nat} {msg : FraudMsg M} {fault : Fault} {eff next : FraudSys M → FraudSys M}
    (he : (eff f).Sound cfg) (hn : (next (eff f)).Sound cfg) : (f.io i msg fault eff next).Sound cfg := by
  cases fault
  · exact hn
  · exact h.handleProcessingError i msg
  · exact he.handleProcessingError i msg

theorem Sound.zremrangebyscore (h : f.Sound cfg) (w : WalletId) (c : Int) : (f.zremrangebyscore w c).Sound cfg := by
  unfold FraudSys.zremrangebyscore; split
  · exact h.of_eq rfl rfl rfl
  · exact h

theorem Sound.expire (h : f.Sound cfg) (w : WalletId) (t : Nat) : (f.expire w t).Sound cfg := by
  unfold FraudSys.expire; split
  · exact h.of_eq rfl rfl rfl
  · exact h

/-- A run starts on the worker's message: the worker at `zadd` holds it as its run. -/
theorem Sound.startRun (h : f.Sound cfg) (i : Nat) (msg : FraudMsg M) (t : Nat) : (f.startRun i msg t).Sound cfg := by
  have hr : ({ f with runs := f.runs ++ [FraudRun.mk msg.payload t] } : FraudSys M).Sound cfg :=
    ⟨fun a ha => (h.alerts a ha).append _, fun w hw => (h.workers w hw).append _⟩
  unfold FraudSys.startRun
  split
  · exact hr.setWorker i _ ⟨by simp, ‹_›⟩
  · exact hr.setWorker i .idle trivial

theorem Sound.saveFraudAlert (h : f.Sound cfg) (fault : Fault) {a : FraudAlert M} {n : Nat}
    (ha : AlertSound cfg f.runs a n) : (f.saveFraudAlert fault a n).Sound cfg := by
  have added : (f.addAlert a n).Sound cfg :=
    ⟨fun b hb => (List.mem_append.mp hb).elim (h.alerts b) fun hb => by
      rw [List.mem_singleton] at hb; subst hb; exact ha, h.workers⟩
  cases fault
  · exact added
  · exact h
  · exact added

omit [LinearOrderedCommRing M] in
theorem afterRapid_sound [LinearOrderedCommRing M] {runs : List (FraudRun M)} {msg : FraudMsg M} {n : Nat}
    (h : RunOf runs n msg) : (afterRapid cfg msg n).Sound cfg runs := by
  unfold afterRapid; split
  · exact h
  · trivial

/-- Every step of a worker keeps the invariant: the alerts it saves are read off its
    run's payload and the checks that passed. -/
theorem Sound.stepWorker (h : f.Sound cfg) {i : Nat} {msg : FraudMsg M} {pc : ConsumerPc}
    (hw : f.workers[i]? = some (.busy msg pc)) (fault : Fault) : (f.stepWorker cfg i msg fault pc).Sound cfg := by
  have hpc : (Worker.busy msg pc).Sound cfg f.runs := h.workers _ (List.getElem?_mem hw)
  cases pc with
  | acquireLock =>
    dsimp only [FraudSys.stepWorker]
    have hp : (f.setProcessed (generateIdempotencyKey msg.payload)).Sound cfg := h.of_eq rfl rfl rfl
    split
    · exact h.io h (h.setWorker i .idle trivial)
    · exact h.io hp (hp.startRun i msg f.now)
  | zadd n =>
    dsimp only [FraudSys.stepWorker]
    have hz : (f.zadd msg.payload.walletId msg.payload.timestamp).Sound cfg := h.of_eq rfl rfl rfl
    exact h.io hz (hz.setWorker i (.busy msg (.zremrangebyscore n)) hpc)
  | zremrangebyscore n =>
    dsimp only [FraudSys.stepWorker]
    have hz := h.zremrangebyscore msg.payload.walletId
      ((msg.payload.timestamp : Int) - cfg.fraudDetectionTimeWindowMinutes * 60000)
    exact h.io hz (hz.setWorker i (.busy msg (.expire n)) (by simpa using hpc))
  | expire n =>
    dsimp only [FraudSys.stepWorker]
    have hz := h.expire msg.payload.walletId (cfg.fraudDetectionTimeWindowMinutes * 60000)
    exact h.io hz (hz.setWorker i (.busy msg (.zcard n)) (by simpa using hpc))
  | zcard n =>
    dsimp only [FraudSys.stepWorker]
    refine h.io h (h.setWorker i _ ?_)
    split
    · exact ⟨hpc, ‹_›⟩
    · exact afterRapid_sound hpc
  | saveRapidWithdrawals n count =>
    obtain ⟨⟨hrun, hwd⟩, hc⟩ := hpc
    obtain ⟨r, hr, hp⟩ := Option.map_eq_some'.mp hrun
    dsimp only [FraudSys.stepWorker]
    refine (h.saveFraudAlert fault ?_).setWorker i _ (by simpa using afterRapid_sound ⟨hrun, hwd⟩)
    exact ⟨r, hr, hp ▸ hwd, hp ▸ rfl, fun _ => ⟨count, hc, rfl⟩, fun he => AlertType.noConfusion he⟩
  | saveHighValue n =>
    obtain ⟨hrun, hwd⟩ := hpc
    obtain ⟨r, hr, hp⟩ := Option.map_eq_some'.mp hrun
    dsimp only [FraudSys.stepWorker]
    split
    · rename_i a ha
      obtain ⟨ham, hpa⟩ := Option.filter_eq_some.mp ha
      refine (h.saveFraudAlert fault ?_).setWorker i .idle trivial
      exact ⟨r, hr, hp ▸ hwd, hp ▸ rfl, fun he => AlertType.noConfusion he,
        fun _ => ⟨a, hp ▸ ham, (of_decide_eq_true hpa).2, rfl⟩⟩
    · exact h.setWorker i .idle trivial

/-- Every event of the consumer's environment keeps the invariant. -/
theorem Sound.stepFraud (h : f.Sound cfg) (e : FraudEv M) : (stepFraud cfg f e).Sound cfg := by
  cases e with
  | publish p => dsimp only [EventWallet.stepFraud]; split <;> exact h.of_eq rfl rfl rfl
  | duplicate j => dsimp only [EventWallet.stepFraud]; split <;> exact h.of_eq rfl rfl rfl
  | deliver i j =>
    dsimp only [EventWallet.stepFraud]
    split
    · exact (h.setWorker i (.busy _ .acquireLock) trivial).of_eq rfl rfl rfl
    · exact h
  | step i fault =>
    dsimp only [EventWallet.stepFraud]
    split
    · exact h.stepWorker ‹_› fault
    · exact h
  | crash i =>
    dsimp only [EventWallet.stepFraud]
    split
    · exact (h.setWorker i .idle trivial).of_eq rfl rfl rfl
    · exact h
  | addWorker =>
    exact ⟨h.alerts, fun w hw => (List.mem_append.mp hw).elim (h.workers w) fun hw => by
      rw [List.mem_singleton] at hw; subst hw; trivial⟩
  | expireWaiting j requeue =>
    dsimp only [EventWallet.stepFraud]
    split
    · split <;> exact h.of_eq rfl rfl rfl
    · exact h
  | tick dt => exact h.of_eq rfl rfl rfl

theorem Sound.runFraud (h : f.Sound cfg) (evs : List (FraudEv M)) : (EventWallet.runFraud cfg f evs).Sound cfg := by
  induction evs generalizing f with
  | nil => exact h
  | cons e evs ih => exact ih (h.stepFraud e)

theorem Sound.init : (init : FraudSys M).Sound cfg where
  alerts _ h := nomatch h
  workers _ h := nomatch h

end FraudSys

/-- Whatever the deliveries, workers, interleavings and failures: every alert belongs to a
    run on a FUNDS_WITHDRAWN payload of its wallet, and records the check that passed on
    that payload — a count above the maximum with the window, or the payload's amount
    above the threshold with the threshold. -/
theorem fraud_alerts_are_justified (cfg : FraudConfig M) (evs : List (FraudEv M)) :
    ∀ a ∈ (runFraud cfg FraudSys.init evs).alerts, AlertSound cfg (runFraud cfg FraudSys.init evs).runs a.1 a.2 :=
  (FraudSys.Sound.init.runFraud evs).alerts

/-- A withdrawal of 500 published twice (post-commit and by the relay) and taken by two
    workers, under a threshold of 100: one run, one high-value alert. -/
def withdrawalPublishedTwice : List (FraudEv ℤ) :=
  [.addWorker, .addWorker, .publish ⟨.FUNDS_WITHDRAWN, 0, some 500, .request none, 1000⟩,
    .publish ⟨.FUNDS_WITHDRAWN, 0, some 500, .request none, 1000⟩, .deliver 0 0, .deliver 1 0, .step 0 .ok,
    .step 1 .ok] ++ List.replicate 5 (.step 0 .ok)

theorem high_value_alert_is_justified :
    (⟨0, .HIGH_VALUE_TRANSACTION, .highValue 500 100⟩, 0) ∈
        (runFraud ⟨100, 5, 60⟩ FraudSys.init withdrawalPublishedTwice).alerts ∧
      AlertSound ⟨100, 5, 60⟩ (runFraud ⟨100, 5, 60⟩ FraudSys.init withdrawalPublishedTwice).runs
        ⟨0, .HIGH_VALUE_TRANSACTION, .highValue 500 100⟩ 0 :=
  have h : ((⟨0, .HIGH_VALUE_TRANSACTION, .highValue 500 100⟩ : FraudAlert ℤ), 0) ∈
      (runFraud ⟨100, 5, 60⟩ FraudSys.init withdrawalPublishedTwice).alerts := by decide
  ⟨h, fraud_alerts_are_justified _ _ _ h⟩

/-! ## What `zcard` counts -/

/-- The processed withdrawals whose timestamps lie in `(t − W, t]`, `W` the window. -/
def inWindow (cfg : FraudConfig M) (runs : List (FraudRun M)) (t : Nat) : Nat :=
  (runs.filter fun r => decide ((t : Int) - cfg.fraudDetectionTimeWindowMinutes * 60000 < r.payload.timestamp ∧
    r.payload.timestamp ≤ t)).length

/-- A withdrawal from wallet 0. -/
def withdrawalAt (amount : ℤ) (t : Nat) : FraudEv ℤ := .publish ⟨.FUNDS_WITHDRAWN, 0, some amount, .request none, t⟩

/-- One worker takes the four queued messages in turn and handles each to its ack. -/
def handleFour : List (FraudEv ℤ) := [0, 1, 2, 3].flatMap fun _ => .deliver 0 0 :: List.replicate 6 (.step 0 .ok)

set_option maxRecDepth 2000 in
/-- As built: delivered latest first, the withdrawals at 4, 3, 2 and 1 ms raise an alert
    with a count of 4 on the last, alone in its window; four withdrawals at 7 ms raise
    none, all four in the window of each. -/
theorem rapid_alert_counts_delivery_order :
    (let f := runFraud defaultFraudConfig FraudSys.init
      (.addWorker :: [4, 3, 2, 1].map (withdrawalAt 50) ++ handleFour)
    f.alerts = [(⟨0, .RAPID_WITHDRAWALS, .rapidWithdrawals 4 5⟩, 3)] ∧ inWindow defaultFraudConfig f.runs 1 = 1) ∧
      (let f := runFraud defaultFraudConfig FraudSys.init
        (.addWorker :: [10, 20, 30, 40].map (withdrawalAt · 7) ++ handleFour)
      f.alerts = [] ∧ f.runs.length = 4 ∧ inWindow defaultFraudConfig f.runs 7 = 4) := by
  decide

end EventWallet
