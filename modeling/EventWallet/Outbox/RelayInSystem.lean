/-
  EventWallet.Outbox.RelayInSystem — the relay with its `isProcessing` flags
  (`Outbox.Relay`) played by the system's relay calls (`Service.Run`), which have none.

  A handler that fires in an idle process starts a relay call (`Ev.handleCron`); an
  await of a running tick steps the call that plays it, with the same fault
  (`Ev.step`); a handler that returns at once, its flag being set, and an await of an
  ended tick are played by nothing (`playEvent`). Tick `t` is call `offset + t`, where
  `offset` counts the calls in flight when the relay starts. The relay's commits of new
  rows stand for the other services' transactions, each of them several system events,
  so the runs played here have none.

  Proved, over every run of fired handlers and awaits, with any faults, from any system
  state whose outbox and marks the relay starts from:
  - `flagged_relay_refines_system`: the system plays the run: its outbox and marked rows
    end as the relay's, the broker holds what it held and then the relay's messages,
    and each tick stands where its call does.
-/

import EventWallet.Outbox.Relay
import EventWallet.Service.Run

namespace EventWallet

variable {M : Type}

/-- The system call that plays tick `k`: the relay call at the tick's await, or the call
    returned once the tick's `finally` has run. -/
def tickCall (k : Tick) : Call M :=
  match k.pc with
  | some pc => .relay pc
  | none => .returned .unit

/-- The system events that play relay event `e` from `r`. -/
def playEvent (offset : Nat) (r : Relay M) : RelayEv M → List (Ev M)
  | .commit _ => []
  | .handleCron p => if r.isProcessing p then [] else [.handleCron]
  | .step t f =>
    match r.ticks[t]? with
    | some ⟨_, _, some _⟩ => [.step (offset + t) f]
    | _ => []

/-- The system events that play a run of relay events from `r`. -/
def playRun (offset : Nat) : Relay M → List (RelayEv M) → List (Ev M)
  | _, [] => []
  | r, e :: evs => playEvent offset r e ++ playRun offset (r.step e) evs

/-- The system state `s` plays the relay state `r`: the same outbox and marks, the
    broker holds `base` and then the relay's messages, and tick `t` stands where call
    `offset + t` does. -/
structure RelaySim (base : List (Payload M)) (offset : Nat) (r : Relay M) (s : Sys M) : Prop where
  outbox : s.store.outbox = r.outbox
  publishedIds : s.store.publishedIds = r.publishedIds
  published : s.published = base ++ r.broker.map (·.2)
  calls_length : s.calls.length = offset + r.ticks.length
  calls : ∀ t k, r.ticks[t]? = some k → s.calls[offset + t]? = some (tickCall k)

theorem RelaySim.init (s : Sys M) :
    RelaySim s.published s.calls.length (Relay.init s.store.outbox s.store.publishedIds) s :=
  ⟨rfl, rfl, by simp [Relay.init], by simp [Relay.init], fun _ _ ht => by simp [Relay.init] at ht⟩

section Steps

variable {base : List (Payload M)} {offset t : Nat} {k : Tick} {r : Relay M} {s : Sys M}

theorem RelaySim.unpublished_eq (h : RelaySim base offset r s) : s.unpublished = r.unpublished := by
  simp only [Sys.unpublished, Relay.unpublished, h.outbox, h.publishedIds]

/-- A step of running tick `t` that leaves it as `k'`, played by setting call
    `offset + t` to the call that plays `k'`. -/
theorem RelaySim.retick (h : RelaySim base offset r s) (ht : r.ticks[t]? = some k) (k' : Tick)
    {r' : Relay M} {s' : Sys M} (hticks : r'.ticks = r.ticks.set t k')
    (hcalls : s'.calls = s.calls.set (offset + t) (tickCall k')) (hout : s'.store.outbox = r'.outbox)
    (hpub : s'.store.publishedIds = r'.publishedIds) (hbroker : s'.published = base ++ r'.broker.map (·.2)) :
    RelaySim base offset r' s' := by
  have hlt : t < r.ticks.length := (List.getElem?_eq_some_iff.mp ht).1
  refine ⟨hout, hpub, hbroker, by simp [hcalls, hticks, h.calls_length], fun u m hm => ?_⟩
  rw [hticks, List.getElem?_set] at hm
  rw [hcalls, List.getElem?_set]
  by_cases hu : t = u
  · subst hu
    simp only [if_true, hlt, Option.some.injEq] at hm
    subst hm
    simp [h.calls_length, hlt]
  · rw [if_neg hu] at hm
    rw [if_neg (by omega)]
    exact h.calls u m hm

theorem RelaySim.setPc (h : RelaySim base offset r s) (ht : r.ticks[t]? = some k) (pc : RelayPc) :
    RelaySim base offset (r.setPc t k pc) (s.setCall (offset + t) (.relay pc)) :=
  h.retick ht _ rfl rfl h.outbox h.publishedIds h.published

theorem RelaySim.finish (h : RelaySim base offset r s) (ht : r.ticks[t]? = some k) :
    RelaySim base offset (r.finish t k) (s.setCall (offset + t) (.returned .unit)) :=
  h.retick ht _ rfl rfl h.outbox h.publishedIds h.published

/-- A `publish` that hands `p` to the broker, its await ending at `pc`. -/
theorem RelaySim.publish (h : RelaySim base offset r s) (ht : r.ticks[t]? = some k) (pc : RelayPc)
    (p : Payload M) (acked : List (Nat × Nat)) :
    RelaySim base offset { r.setPc t k pc with broker := r.broker ++ [(t, p)], acked := acked }
      ((s.publish p).setCall (offset + t) (.relay pc)) :=
  h.retick ht _ rfl rfl h.outbox h.publishedIds (by simp [Sys.publish, h.published])

/-- A `markAsPublished(ids)` that commits, played by the transaction's commit. -/
theorem RelaySim.markAsPublished (h : RelaySim base offset r s) (ht : r.ticks[t]? = some k) (ids : List Nat) :
    RelaySim base offset { r.finish t k with publishedIds := r.publishedIds ++ ids }
      ((s.commit [.published ids]).setCall (offset + t) (.returned .unit)) :=
  h.retick ht _ rfl rfl h.outbox (congrArg (· ++ ids) h.publishedIds) h.published

/-- Each await of a running tick, with any fault, is played by the step of its call. -/
theorem RelaySim.stepTick (h : RelaySim base offset r s) (ht : r.ticks[t]? = some k) (f : Fault)
    (pc : RelayPc) : RelaySim base offset (r.stepTick t k f pc) (s.stepRelay (offset + t) f pc) := by
  cases pc with
  | findUnpublished =>
    by_cases hu : r.unpublished = []
    · cases f <;> simp only [Relay.stepTick, Sys.stepRelay, Sys.io, h.unpublished_eq, hu, if_true, id] <;>
        exact h.finish ht
    · cases f <;> simp only [Relay.stepTick, Sys.stepRelay, Sys.io, h.unpublished_eq, hu, if_false, id]
      · exact h.retick ht _ rfl rfl h.outbox h.publishedIds h.published
      all_goals exact h.finish ht
  | publish pending ids =>
    cases pending with
    | nil => exact h.setPc ht _
    | cons j rest =>
      simp only [Relay.stepTick, Sys.stepRelay, h.outbox]
      rcases r.outbox[j]? with _ | row
      · exact h.setPc ht _
      · cases f
        · exact h.publish ht _ row.payload _
        · exact h.setPc ht _
        · exact h.publish ht _ row.payload _
  | markAsPublished ids =>
    by_cases hi : ids = []
    · simp only [Relay.stepTick, Sys.stepRelay, hi, if_true]
      exact h.finish ht
    · simp only [Relay.stepTick, Sys.stepRelay, hi, if_false]
      cases f
      · exact h.markAsPublished ht ids
      · exact h.finish ht
      · exact h.markAsPublished ht ids

variable [LinearOrderedCommRing M]

/-- A fired handler: returned at once in the relay, its flag set, and played by
    nothing; or a new tick, played by a new relay call. -/
theorem RelaySim.handleCron (h : RelaySim base offset r s) (cfg : Config) (p : Nat) :
    RelaySim base offset (r.step (.handleCron p)) (run cfg s (playEvent offset r (.handleCron p))) := by
  simp only [Relay.step, playEvent]
  split
  · exact h
  · have hget := Relay.getElem?_append_singleton r.ticks ⟨p, [], some .findUnpublished⟩
    refine ⟨h.outbox, h.publishedIds, h.published, by simp [step, Sys.spawn, h.calls_length]; omega,
      fun u m hm => ?_⟩
    rw [hget] at hm
    simp only [run_cons, run_nil, step, Sys.spawn, Relay.getElem?_append_singleton, h.calls_length]
    split_ifs at hm with hu
    · cases hm; simp [hu, tickCall]
    · rw [if_neg (by omega)]
      exact h.calls u m hm

/-- Every relay event but a commit is played. -/
theorem RelaySim.event (h : RelaySim base offset r s) (cfg : Config) :
    ∀ e : RelayEv M, (∀ rows, e ≠ .commit rows) → RelaySim base offset (r.step e) (run cfg s (playEvent offset r e))
  | .commit rows, hc => absurd rfl (hc rows)
  | .handleCron p, _ => h.handleCron cfg p
  | .step u f, _ => by
    rcases ht : r.ticks[u]? with _ | ⟨proc, fetched, _ | pc⟩
    · simpa [Relay.step, playEvent, ht] using h
    · simpa [Relay.step, playEvent, ht] using h
    · have hc := h.calls u _ ht
      simp only [Relay.step, playEvent, ht, run_cons, run_nil, step, hc, tickCall, Sys.stepCall]
      exact h.stepTick ht f pc

/-- Every run of fired handlers and awaits is played. -/
theorem RelaySim.events (h : RelaySim base offset r s) (cfg : Config) (evs : List (RelayEv M))
    (hc : ∀ rows, RelayEv.commit rows ∉ evs) :
    RelaySim base offset (runRelay r evs) (run cfg s (playRun offset r evs)) := by
  induction evs generalizing r s with
  | nil => exact h
  | cons e evs ih =>
    rw [playRun, run_append]
    exact ih (h.event cfg e fun rows he => hc rows (he ▸ List.mem_cons_self _ _))
      fun rows hm => hc rows (List.mem_cons_of_mem _ hm)

end Steps

/-- The flag-free relay of the system model plays every run of the flagged relay with
    no commit between: from the system's outbox and marks, the outbox and marks end the
    same, the broker gets the relay's messages in order after what it held, and tick `t`
    stands where the call it started as does. -/
theorem flagged_relay_refines_system [LinearOrderedCommRing M] (cfg : Config) (s : Sys M)
    (evs : List (RelayEv M)) (hc : ∀ rows, RelayEv.commit rows ∉ evs) :
    (let r := runRelay (Relay.init s.store.outbox s.store.publishedIds) evs
    let s' := run cfg s (playRun s.calls.length (Relay.init s.store.outbox s.store.publishedIds) evs)
    s'.store.outbox = r.outbox ∧ s'.store.publishedIds = r.publishedIds ∧
      s'.published = s.published ++ r.broker.map (·.2) ∧
      ∀ t k, r.ticks[t]? = some k → s'.calls[s.calls.length + t]? = some (tickCall k)) :=
  let h := (RelaySim.init s).events cfg evs hc
  ⟨h.outbox, h.publishedIds, h.published, h.calls⟩

/-- Processes 0 and 1 fire over the two rows of `twoRowsFired`, and 0 fires again while
    its tick runs; the ticks' awaits interleave, one `publish` losing its answer. -/
def twoProcessRun : List (RelayEv ℤ) :=
  [.handleCron 0, .handleCron 1, .handleCron 0, .step 0 .ok, .step 1 .ok, .step 0 .lost, .step 1 .ok,
    .step 0 .ok, .step 0 .ok, .step 1 .fails]

theorem two_process_run_played :
    (∀ rows, RelayEv.commit rows ∉ twoProcessRun) ∧
      (let s := Sys.init { (Store.empty : Store ℤ) with outbox := Relay.twoRowsFired.outbox } 0
      let r := runRelay (Relay.init s.store.outbox s.store.publishedIds) twoProcessRun
      let s' := run ⟨60000⟩ s (playRun s.calls.length (Relay.init s.store.outbox s.store.publishedIds) twoProcessRun)
      s'.store.outbox = r.outbox ∧ s'.store.publishedIds = r.publishedIds ∧
        s'.published = s.published ++ r.broker.map (·.2) ∧
        ∀ t k, r.ticks[t]? = some k → s'.calls[s.calls.length + t]? = some (tickCall k)) :=
  have hc : ∀ rows, RelayEv.commit rows ∉ twoProcessRun := fun rows h => by simp [twoProcessRun] at h
  ⟨hc, flagged_relay_refines_system ⟨60000⟩ _ twoProcessRun hc⟩

end EventWallet
