/-
  EventWallet.Outbox.Relay — `OutboxRelayService.handleCron` with its `isProcessing`
  flag, in any number of processes (replicas) sharing the outbox table.

  Each process's `@Cron` handler returns at once while its flag is set; otherwise it
  sets the flag and runs a tick body: `findUnpublished(100)`, one `publish` per row
  fetched (a row whose `publish` returned is pushed to `publishedIds`), then
  `markAsPublished(publishedIds)` when there is one; its `finally` clears the flag.
  Ticks of different processes, and commits of new rows, interleave freely, and any
  `findUnpublished`, `publish` or `markAsPublished` may throw, with or without its
  effect. The messages handed to the broker are kept with the tick that handed them,
  and the rows whose `publish` returned with their tick (`acked`): ghost state.

  `Service.Run` steps the relay without the flag, as one more call among the
  services'; here the flag is kept and the other services are the commits of rows.

  Proved, over every run from any outbox with no tick running:
  - `relay_ticks_safe`: a step sets `published` only on rows its own tick fetched and
    whose `publish` returned in that tick, the payload handed to the broker; no step
    clears a flag or changes a row; no process runs two tick bodies at once.

  Proved, from any state:
  - `tick_without_faults_marks_fetched`: a tick just started that runs with nothing in
    between, every await returning, marks every row it fetched, ends and clears its
    process's flag.
  - `fault_free_ticks_drain_outbox`: ticks of one idle process in a row, every await
    returning, mark unpublished rows only, no row twice, 100 per tick, until none is
    left; which rows of one `createdAt` a tick takes first plays no part.
-/

import Mathlib.Logic.Function.Basic
import EventWallet.Service.System

namespace EventWallet

/-- A tick body of `handleCron`. -/
structure Tick where
  proc : Nat
  /-- The rows its `findUnpublished` returned. -/
  fetched : List Nat
  /-- Where it stands; `none` once its `finally` has run. -/
  pc : Option RelayPc
  deriving DecidableEq, Repr

structure Relay (M : Type) where
  outbox : List (OutboxRow M)
  /-- The rows with `published = true`. -/
  publishedIds : List Nat
  /-- The messages handed to the broker, each with its tick. -/
  broker : List (Nat × Payload M)
  /-- Each row whose `publish` returned, with its tick. -/
  acked : List (Nat × Nat)
  isProcessing : Nat → Bool
  ticks : List Tick

/-- What the relay's environment does. -/
inductive RelayEv (M : Type) where
  /-- A transaction commits new outbox rows. -/
  | commit (rows : List (OutboxRow M))
  /-- The `@Cron('*/5 * * * * *')` handler fires in process `p`. -/
  | handleCron (p : Nat)
  /-- The next await of tick `t`. -/
  | step (t : Nat) (fault : Fault)

/-- The rows a tick holds: pushed to its `publishedIds`, or still to publish. -/
def RelayPc.ids : RelayPc → List Nat
  | .findUnpublished => []
  | .publish _ ids | .markAsPublished ids => ids

def RelayPc.pending : RelayPc → List Nat
  | .publish pending _ => pending
  | _ => []

namespace Relay

variable {M : Type} (r : Relay M)

def init (outbox : List (OutboxRow M)) (publishedIds : List Nat) : Relay M :=
  ⟨outbox, publishedIds, [], [], fun _ => false, []⟩

/-- The rows `handleCron`'s `findUnpublished(100)` returns. -/
def unpublished : List Nat := findUnpublished r.outbox r.publishedIds 100

def setPc (t : Nat) (k : Tick) (pc : RelayPc) : Relay M := { r with ticks := r.ticks.set t { k with pc := some pc } }

/-- The `finally`: the tick ends and its process's flag is cleared. -/
def finish (t : Nat) (k : Tick) : Relay M :=
  { r with ticks := r.ticks.set t { k with pc := none }, isProcessing := Function.update r.isProcessing k.proc false }

/-- One await of tick `t` (`k`) at `pc`; a throw goes to the `catch`, then the `finally`. -/
def stepTick (t : Nat) (k : Tick) (fault : Fault) : RelayPc → Relay M
  | .findUnpublished =>
    match fault with
    | .ok => if r.unpublished = [] then r.finish t k
      else { r with ticks := r.ticks.set t { k with fetched := r.unpublished, pc := some (.publish r.unpublished []) } }
    | _ => r.finish t k
  | .publish [] ids => r.setPc t k (.markAsPublished ids)
  | .publish (j :: rest) ids =>
    match r.outbox[j]? with
    | some row =>
      match fault with
      | .ok => { r.setPc t k (.publish rest (ids ++ [j])) with
          broker := r.broker ++ [(t, row.payload)], acked := r.acked ++ [(t, j)] }
      | .fails => r.setPc t k (.publish rest ids)
      | .lost => { r.setPc t k (.publish rest ids) with broker := r.broker ++ [(t, row.payload)] }
    | none => r.setPc t k (.publish rest ids)
  | .markAsPublished ids =>
    if ids = [] then r.finish t k
    else match fault with
      | .fails => r.finish t k
      | _ => { r.finish t k with publishedIds := r.publishedIds ++ ids }

def step : RelayEv M → Relay M
  | .commit rows => { r with outbox := r.outbox ++ rows }
  | .handleCron p =>
    if r.isProcessing p then r
    else { r with isProcessing := Function.update r.isProcessing p true, ticks := r.ticks ++ [⟨p, [], some .findUnpublished⟩] }
  | .step t fault =>
    match r.ticks[t]? with
    | some k => match k.pc with
      | some pc => r.stepTick t k fault pc
      | none => r
    | none => r

end Relay

def runRelay {M : Type} (r : Relay M) (evs : List (RelayEv M)) : Relay M := evs.foldl Relay.step r

/-! ## The invariant -/

/-- A tick holds only rows it fetched, and has pushed only rows whose `publish` returned
    in it. -/
def TickOk (acked : List (Nat × Nat)) (t : Nat) (k : Tick) : Prop :=
  ∀ pc, k.pc = some pc → (∀ j ∈ pc.ids, (t, j) ∈ acked ∧ j ∈ k.fetched) ∧ ∀ j ∈ pc.pending, j ∈ k.fetched

theorem TickOk.mono {acked acked' : List (Nat × Nat)} {t : Nat} {k : Tick} (h : TickOk acked t k)
    (hs : acked ⊆ acked') : TickOk acked' t k := fun pc hpc =>
  ⟨fun j hj => ⟨hs ((h pc hpc).1 j hj).1, ((h pc hpc).1 j hj).2⟩, (h pc hpc).2⟩

namespace Relay

variable {M : Type}

/-- What every reachable relay state keeps. -/
structure Inv (r : Relay M) : Prop where
  ticks : ∀ (t : Nat) (k : Tick), r.ticks[t]? = some k → TickOk r.acked t k
  /-- A `publish` that returned handed its row's payload to the broker. -/
  acked : ∀ t j : Nat, (t, j) ∈ r.acked → ∃ row, r.outbox[j]? = some row ∧ (t, row.payload) ∈ r.broker
  /-- A process's flag is set while one of its ticks runs. -/
  flag : ∀ (t : Nat) (k : Tick), r.ticks[t]? = some k → k.pc.isSome → r.isProcessing k.proc = true
  /-- No process runs two ticks at once. -/
  one : ∀ (t t' : Nat) (k k' : Tick), r.ticks[t]? = some k → r.ticks[t']? = some k' → k.proc = k'.proc →
    k.pc.isSome → k'.pc.isSome → t = t'

theorem Inv.init (outbox : List (OutboxRow M)) (publishedIds : List Nat) : (init outbox publishedIds).Inv where
  ticks _ _ h := nomatch h
  acked _ _ h := nomatch h
  flag _ _ h := nomatch h
  one _ _ _ _ h := nomatch h

/-- A step of running tick `t` that leaves it as `k'`, with the outbox as it was and the
    flag of its process cleared when it ends. -/
theorem Inv.retick {r r' : Relay M} (h : r.Inv) {t : Nat} {k k' : Tick} (ht : r.ticks[t]? = some k)
    (hrun : k.pc.isSome) (hticks : r'.ticks = r.ticks.set t k') (hproc : k'.proc = k.proc)
    (hflag : r'.isProcessing = if k'.pc.isSome then r.isProcessing else Function.update r.isProcessing k.proc false)
    (hout : r'.outbox = r.outbox) (hsub : r.acked ⊆ r'.acked) (hbroker : r.broker ⊆ r'.broker)
    (hnew : ∀ j, (t, j) ∈ r'.acked → (t, j) ∉ r.acked → ∃ row, r.outbox[j]? = some row ∧ (t, row.payload) ∈ r'.broker)
    (hacked : ∀ u j, (u, j) ∈ r'.acked → (u, j) ∈ r.acked ∨ u = t)
    (hok : TickOk r'.acked t k') : r'.Inv := by
  have hget : ∀ u, r'.ticks[u]? = if u = t then some k' else r.ticks[u]? := fun u => by
    rw [hticks, List.getElem?_set]
    by_cases hu : u = t
    · subst hu; simp [(List.getElem?_eq_some_iff.mp ht).1]
    · simp [Ne.symm hu, hu]
  -- the other running ticks belong to other processes
  have hother : ∀ u m, r.ticks[u]? = some m → m.pc.isSome → u ≠ t → m.proc ≠ k.proc := fun u m hm hs hu he =>
    hu (h.one u t m k hm ht he hs hrun)
  refine ⟨fun u m hm => ?_, fun u j hj => ?_, fun u m hm hs => ?_, fun u u' m m' hm hm' hp hs hs' => ?_⟩
  · rw [hget] at hm
    split_ifs at hm with hu
    · cases hm; exact hu ▸ hok
    · exact (h.ticks u m hm).mono hsub
  · rcases hacked u j hj with ho | rfl
    · obtain ⟨row, hrow, hb⟩ := h.acked u j ho
      exact ⟨row, hout ▸ hrow, hbroker hb⟩
    · by_cases ho : (u, j) ∈ r.acked
      · obtain ⟨row, hrow, hb⟩ := h.acked u j ho
        exact ⟨row, hout ▸ hrow, hbroker hb⟩
      · obtain ⟨row, hrow, hb⟩ := hnew j hj ho
        exact ⟨row, hout ▸ hrow, hb⟩
  · rw [hget] at hm
    rw [hflag]
    split_ifs at hm with hu
    · cases hm; simp [hs, hproc, h.flag t k ht hrun]
    · have hne := hother u m hm hs hu
      split_ifs
      · exact h.flag u m hm hs
      · rw [Function.update_noteq hne]; exact h.flag u m hm hs
  · rw [hget] at hm hm'
    split_ifs at hm hm' with hu hu'
    · exact hu.trans hu'.symm
    · cases hm; exact absurd (hproc ▸ hp).symm (hother u' m' hm' hs' hu')
    · cases hm'; exact absurd (hproc ▸ hp) (hother u m hm hs hu)
    · exact h.one u u' m m' hm hm' hp hs hs'

/-- The `finally` keeps the invariant. -/
theorem Inv.finish {r : Relay M} (h : r.Inv) {t : Nat} {k : Tick} (ht : r.ticks[t]? = some k) (hrun : k.pc.isSome) :
    (r.finish t k).Inv :=
  h.retick ht hrun rfl rfl rfl rfl (fun _ => id) (fun _ => id) (fun _ hj hn => absurd hj hn)
    (fun _ _ hj => .inl hj) (fun _ hpc => nomatch hpc)

/-- A step that moves a running tick to `pc` keeps the invariant when the tick holds
    only acknowledged and fetched rows there. -/
theorem Inv.setPc {r : Relay M} (h : r.Inv) {t : Nat} {k : Tick} (ht : r.ticks[t]? = some k) (hrun : k.pc.isSome)
    {pc : RelayPc} (hok : TickOk r.acked t { k with pc := some pc }) : (r.setPc t k pc).Inv :=
  h.retick ht hrun rfl rfl rfl rfl (fun _ => id) (fun _ => id) (fun _ hj hn => absurd hj hn)
    (fun _ _ hj => .inl hj) hok

/-- Every await of a running tick keeps the invariant. -/
theorem Inv.stepTick {r : Relay M} (h : r.Inv) {t : Nat} {k : Tick} {pc : RelayPc} (ht : r.ticks[t]? = some k)
    (hpc : k.pc = some pc) (fault : Fault) : (r.stepTick t k fault pc).Inv := by
  have hrun : k.pc.isSome := by simp [hpc]
  have hk := h.ticks t k ht pc hpc
  cases pc with
  | findUnpublished =>
    cases fault
    case ok =>
      simp only [Relay.stepTick]
      split
      · exact h.finish ht hrun
      · refine h.retick ht hrun rfl rfl rfl rfl (fun _ => id) (fun _ => id) (fun _ hj hn => absurd hj hn)
          (fun _ _ hj => .inl hj) fun pc' hpc' => ?_
        cases hpc'
        exact ⟨(fun _ hj => nomatch hj), fun _ hj => hj⟩
    all_goals exact h.finish ht hrun
  | publish pending ids =>
    cases pending with
    | nil => exact h.setPc ht hrun fun _ hpc' => by cases hpc'; exact ⟨hk.1, (fun _ hj => nomatch hj)⟩
    | cons j rest =>
      have hrest : TickOk r.acked t { k with pc := some (.publish rest ids) } := fun _ hpc' => by
        cases hpc'; exact ⟨hk.1, fun i hi => hk.2 i (List.mem_cons_of_mem j hi)⟩
      simp only [Relay.stepTick]
      split
      · rename_i row hrow
        cases fault
        case ok =>
          refine h.retick ht hrun rfl rfl rfl rfl (fun _ hx => List.mem_append_left _ hx)
            (fun _ hx => List.mem_append_left _ hx) (fun i hi hn => ?_) (fun u i hi => ?_) fun pc' hpc' => ?_
          · obtain rfl : i = j := by simpa [hn] using hi
            exact ⟨row, hrow, by simp⟩
          · rcases List.mem_append.mp hi with hi | hi
            · exact .inl hi
            · exact .inr (by simp at hi; exact hi.1)
          · cases hpc'
            refine ⟨fun i hi => ?_, fun i hi => hk.2 i (List.mem_cons_of_mem j hi)⟩
            rcases List.mem_append.mp hi with hi | hi
            · exact ⟨List.mem_append_left _ (hk.1 i hi).1, (hk.1 i hi).2⟩
            · obtain rfl : i = j := by simpa using hi
              exact ⟨by simp, hk.2 i (List.mem_cons_self i rest)⟩
        case fails => exact h.setPc ht hrun hrest
        case lost =>
          exact h.retick ht hrun rfl rfl rfl rfl (fun _ => id) (fun _ hx => List.mem_append_left _ hx)
            (fun _ hj hn => absurd hj hn) (fun _ _ hj => .inl hj) hrest
      · exact h.setPc ht hrun hrest
  | markAsPublished ids =>
    simp only [Relay.stepTick]
    split
    · exact h.finish ht hrun
    · have hf := h.finish ht hrun
      cases fault
      case fails => exact hf
      all_goals exact ⟨hf.ticks, hf.acked, hf.flag, hf.one⟩

/-- A commit appends rows and leaves every row found where it was. -/
theorem Inv.commit {r : Relay M} (h : r.Inv) (rows : List (OutboxRow M)) : (r.step (.commit rows)).Inv where
  ticks := h.ticks
  acked t j hj := by
    obtain ⟨row, hrow, hb⟩ := h.acked t j hj
    exact ⟨row, (List.getElem?_append_left (List.getElem?_eq_some_iff.mp hrow).1).trans hrow, hb⟩
  flag := h.flag
  one := h.one

theorem getElem?_append_singleton {α : Type} (l : List α) (a : α) (u : Nat) :
    (l ++ [a])[u]? = if u = l.length then some a else l[u]? := by
  rw [List.getElem?_append]
  split_ifs with hl hu hu
  · omega
  · rfl
  · subst hu; simp
  · rw [List.getElem?_eq_none (by simp; omega), List.getElem?_eq_none (by omega)]

/-- A fired handler either returns at once, its flag being set, or starts a tick in a
    process that runs none. -/
theorem Inv.handleCron {r : Relay M} (h : r.Inv) (p : Nat) : (r.step (.handleCron p)).Inv := by
  simp only [Relay.step]
  split
  · exact h
  · rename_i hidle
    have hget := getElem?_append_singleton r.ticks ⟨p, [], some .findUnpublished⟩
    refine ⟨fun u m hm => ?_, h.acked, fun u m hm hs => ?_, fun u u' m m' hm hm' hp hs hs' => ?_⟩
    · rw [hget] at hm
      split_ifs at hm
      · cases hm; exact fun _ hpc => by cases hpc; exact ⟨(fun _ hj => nomatch hj), fun _ hj => nomatch hj⟩
      · exact h.ticks u m hm
    · dsimp only at hm ⊢
      by_cases hp : m.proc = p
      · subst hp; exact Function.update_same _ _ _
      · rw [Function.update_noteq hp]
        rw [hget] at hm
        split_ifs at hm
        · cases hm; exact absurd rfl hp
        · exact h.flag u m hm hs
    · dsimp only at hm hm'
      rw [hget] at hm hm'
      split_ifs at hm hm' with hu hu'
      · exact hu.trans hu'.symm
      · cases hm; change p = m'.proc at hp; subst hp; exact absurd (h.flag u' m' hm' hs') hidle
      · cases hm'; change m.proc = p at hp; subst hp; exact absurd (h.flag u m hm hs) hidle
      · exact h.one u u' m m' hm hm' hp hs hs'

theorem Inv.step {r : Relay M} (h : r.Inv) : ∀ e : RelayEv M, (r.step e).Inv
  | .commit rows => h.commit rows
  | .handleCron p => h.handleCron p
  | .step t fault => by
    simp only [Relay.step]
    split
    · rename_i k hk
      split
      · rename_i pc hpc; exact h.stepTick hk hpc fault
      · exact h
    · exact h

theorem Inv.run {r : Relay M} (h : r.Inv) (evs : List (RelayEv M)) : (runRelay r evs).Inv := by
  induction evs generalizing r with
  | nil => exact h
  | cons e evs ih => exact ih (h.step e)

/-! ## What one step changes -/

variable (r : Relay M)

/-- An await of a tick adds to `published` only rows the tick holds, and changes no row. -/
theorem stepTick_frame (t : Nat) (k : Tick) (fault : Fault) (pc : RelayPc) :
    (∃ new ⊆ pc.ids, (r.stepTick t k fault pc).publishedIds = r.publishedIds ++ new) ∧
      (r.stepTick t k fault pc).outbox = r.outbox := by
  have keep : ∃ new ⊆ pc.ids, r.publishedIds = r.publishedIds ++ new := ⟨[], List.nil_subset _, by simp⟩
  cases pc with
  | findUnpublished =>
    cases fault <;> simp only [Relay.stepTick] <;> (try split) <;> exact ⟨keep, rfl⟩
  | publish pending ids =>
    cases pending with
    | nil => exact ⟨keep, rfl⟩
    | cons j rest =>
      simp only [Relay.stepTick]
      split
      · cases fault <;> exact ⟨keep, rfl⟩
      · exact ⟨keep, rfl⟩
  | markAsPublished ids =>
    simp only [Relay.stepTick]
    split
    · exact ⟨keep, rfl⟩
    · cases fault
      case fails => exact ⟨keep, rfl⟩
      all_goals exact ⟨⟨ids, List.Subset.refl _, rfl⟩, rfl⟩

/-- A step adds to `published` only rows that the running tick it steps holds, and only
    appends rows to the outbox. -/
theorem step_frame (e : RelayEv M) :
    (∃ new, (r.step e).publishedIds = r.publishedIds ++ new ∧
      ∀ j ∈ new, ∃ t k f pc, e = .step t f ∧ r.ticks[t]? = some k ∧ k.pc = some pc ∧ j ∈ pc.ids) ∧
      r.outbox <+: (r.step e).outbox := by
  have keep : ∃ new, r.publishedIds = r.publishedIds ++ new ∧
      ∀ j ∈ new, ∃ t k f pc, e = .step t f ∧ r.ticks[t]? = some k ∧ k.pc = some pc ∧ j ∈ pc.ids :=
    ⟨[], by simp, fun _ hj => nomatch hj⟩
  match e with
  | .commit rows => exact ⟨keep, List.prefix_append _ _⟩
  | .handleCron p =>
    simp only [Relay.step]
    split <;> exact ⟨keep, List.prefix_refl _⟩
  | .step t fault =>
    simp only [Relay.step]
    split
    · rename_i k hk
      split
      · rename_i pc hpc
        obtain ⟨⟨new, hnew, hp⟩, ho⟩ := r.stepTick_frame t k fault pc
        exact ⟨⟨new, hp, fun j hj => ⟨t, k, fault, pc, rfl, hk, hpc, hnew hj⟩⟩, ho ▸ List.prefix_refl _⟩
      · exact ⟨keep, List.prefix_refl _⟩
    · exact ⟨keep, List.prefix_refl _⟩

/-! ## A tick without faults -/

variable {t : Nat} {k : Tick}

theorem runRelay_cons (e : RelayEv M) (evs : List (RelayEv M)) : runRelay r (e :: evs) = runRelay (r.step e) evs := rfl

theorem runRelay_append (evs evs' : List (RelayEv M)) : runRelay r (evs ++ evs') = runRelay (runRelay r evs) evs' :=
  List.foldl_append _ _ _ _

theorem getElem?_ticks_set (ht : r.ticks[t]? = some k) (k' : Tick) : (r.ticks.set t k')[t]? = some k' := by
  simp [(List.getElem?_eq_some_iff.mp ht).1]

/-- An await of a running tick that returns. -/
theorem step_ok {pc : RelayPc} (ht : r.ticks[t]? = some k) (hpc : k.pc = some pc) :
    r.step (.step t .ok) = r.stepTick t k .ok pc := by
  simp [Relay.step, ht, hpc]

/-- The `for` loop with every `publish` returning: each row fetched is pushed, in order. -/
theorem runRelay_publish_ok (pending ids : List Nat) (r : Relay M) (ht : r.ticks[t]? = some k)
    (hpc : k.pc = some (.publish pending ids)) (hin : ∀ j ∈ pending, j < r.outbox.length) :
    let r' := runRelay r (List.replicate pending.length (.step t .ok))
    r'.ticks[t]? = some { k with pc := some (.publish [] (ids ++ pending)) } ∧ r'.publishedIds = r.publishedIds ∧
      r'.isProcessing = r.isProcessing ∧ r'.outbox = r.outbox := by
  induction pending generalizing r ids k with
  | nil =>
    cases k; cases hpc
    exact ⟨by simpa [runRelay] using ht, rfl, rfl, rfl⟩
  | cons j rest ih =>
    obtain ⟨row, hrow⟩ : ∃ row, r.outbox[j]? = some row :=
      ⟨_, List.getElem?_eq_getElem (hin j (List.mem_cons_self j rest))⟩
    let r1 := { r.setPc t k (.publish rest (ids ++ [j])) with
      broker := r.broker ++ [(t, row.payload)], acked := r.acked ++ [(t, j)] }
    have hstep : r.step (.step t .ok) = r1 := by rw [step_ok r ht hpc]; simp [Relay.stepTick, hrow, r1]
    rw [List.length_cons, List.replicate_succ, runRelay_cons, hstep]
    obtain ⟨h1, h2, h3, h4⟩ := ih (ids ++ [j]) r1 (getElem?_ticks_set r ht _) rfl
      (fun i hi => hin i (List.mem_cons_of_mem j hi))
    exact ⟨by simpa using h1, h2, h3, h4⟩

theorem lt_of_mem_unpublished {j : Nat} (h : j ∈ r.unpublished) : j < r.outbox.length :=
  (mem_unpublishedRows.mp (mem_findUnpublished h)).1

/-- Awaits of an ended tick change nothing. -/
theorem runRelay_ended (ht : r.ticks[t]? = some k) (hpc : k.pc = none) (n : Nat) (f : Fault) :
    runRelay r (List.replicate n (.step t f)) = r := by
  induction n with
  | zero => rfl
  | succ n ih => rw [List.replicate_succ, runRelay_cons, show r.step (.step t f) = r by simp [Relay.step, ht, hpc], ih]

/-- An await of tick `t` rewrites that tick and no other. -/
theorem stepTick_ticks (k : Tick) (f : Fault) (pc : RelayPc) : ∃ k', (r.stepTick t k f pc).ticks = r.ticks.set t k' := by
  unfold Relay.stepTick
  split <;> (repeat' split) <;> exact ⟨_, rfl⟩

/-- Awaits keep the outbox and the number of ticks. -/
theorem runRelay_steps_frame (n : Nat) (f : Fault) :
    (runRelay r (List.replicate n (.step t f))).outbox = r.outbox ∧
      (runRelay r (List.replicate n (.step t f))).ticks.length = r.ticks.length := by
  induction n generalizing r with
  | zero => exact ⟨rfl, rfl⟩
  | succ n ih =>
    rw [List.replicate_succ, runRelay_cons, (ih _).1, (ih _).2]
    simp only [Relay.step]
    split
    · rename_i k _
      split
      · rename_i pc _
        obtain ⟨k', hk'⟩ := r.stepTick_ticks k f pc
        exact ⟨(r.stepTick_frame t k f pc).2, by rw [hk', List.length_set]⟩
      · exact ⟨rfl, rfl⟩
    · exact ⟨rfl, rfl⟩

/-- A tick just started, given at least enough awaits and every one returning, marks
    every row it fetched, ends and clears its process's flag; the outbox and the number
    of ticks stay. -/
theorem runTick_ok (p n : Nat) (ht : r.ticks[t]? = some ⟨p, [], some .findUnpublished⟩)
    (hn : r.unpublished.length + 3 ≤ n) :
    (let r' := runRelay r (List.replicate n (.step t .ok))
    r'.publishedIds = r.publishedIds ++ r.unpublished ∧ r'.isProcessing p = false ∧
      r'.ticks[t]? = some ⟨p, r.unpublished, none⟩ ∧ r'.ticks.length = r.ticks.length ∧ r'.outbox = r.outbox) := by
  dsimp only
  obtain ⟨hout, hlen⟩ := r.runRelay_steps_frame n .ok (t := t)
  obtain ⟨m, rfl⟩ : ∃ m, n = r.unpublished.length + 3 + m := ⟨_, (Nat.add_sub_cancel' hn).symm⟩
  rw [← List.append_replicate_replicate, runRelay_append] at hout hlen ⊢
  suffices h : (runRelay r (List.replicate (r.unpublished.length + 3) (.step t .ok))).publishedIds =
      r.publishedIds ++ r.unpublished ∧
      (runRelay r (List.replicate (r.unpublished.length + 3) (.step t .ok))).isProcessing p = false ∧
      (runRelay r (List.replicate (r.unpublished.length + 3) (.step t .ok))).ticks[t]? = some ⟨p, r.unpublished, none⟩ by
    rw [runRelay_ended _ h.2.2 rfl] at hout hlen ⊢
    exact ⟨h.1, h.2.1, h.2.2, hlen, hout⟩
  have h1 := step_ok r ht rfl
  by_cases hU : r.unpublished = []
  · -- nothing to publish: the tick ends at once
    have hf : (r.finish t ⟨p, [], some .findUnpublished⟩).ticks[t]? = some ⟨p, [], none⟩ := getElem?_ticks_set r ht _
    rw [List.replicate_succ, runRelay_cons, h1]
    simp only [Relay.stepTick, hU, if_true]
    rw [runRelay_ended _ hf rfl]
    exact ⟨(List.append_nil _).symm, Function.update_same _ _ _, hf⟩
  · -- the fetch, the loop over the rows, the loop's exit, `markAsPublished`
    let k1 : Tick := ⟨p, r.unpublished, some (.publish r.unpublished [])⟩
    have hr1 : r.step (.step t .ok) = { r with ticks := r.ticks.set t k1 } := by
      rw [h1]; simp [Relay.stepTick, hU]
    obtain ⟨h2t, h2p, -, -⟩ := runRelay_publish_ok r.unpublished [] { r with ticks := r.ticks.set t k1 }
      (getElem?_ticks_set r ht k1) rfl (fun j hj => r.lt_of_mem_unpublished hj)
    have hrun : List.replicate (r.unpublished.length + 3) (RelayEv.step (M := M) t .ok) =
        .step t .ok :: (List.replicate r.unpublished.length (.step t .ok) ++ [.step t .ok, .step t .ok]) := by
      rw [List.replicate_succ, ← List.append_replicate_replicate]; rfl
    rw [hrun, runRelay_cons, hr1, runRelay_append]
    generalize runRelay { r with ticks := r.ticks.set t k1 } (List.replicate r.unpublished.length (.step t .ok))
      = r2 at h2t h2p ⊢
    rw [List.nil_append] at h2t
    let r3 := r2.setPc t ⟨p, r.unpublished, some (.publish [] r.unpublished)⟩ (.markAsPublished r.unpublished)
    have h3 : r3.ticks[t]? = some ⟨p, r.unpublished, some (.markAsPublished r.unpublished)⟩ := getElem?_ticks_set r2 h2t _
    rw [runRelay_cons, step_ok r2 h2t rfl, runRelay_cons]
    simp only [Relay.stepTick]
    rw [step_ok r3 h3 rfl]
    simp only [Relay.stepTick, hU, if_false]
    exact ⟨congrArg (· ++ r.unpublished) h2p, Function.update_same _ _ _, getElem?_ticks_set r3 h3 _⟩

/-- A tick whose every await returns marks every row it fetched, then ends and clears
    its process's flag. -/
theorem tick_without_faults_marks_fetched (p : Nat) (ht : r.ticks[t]? = some ⟨p, [], some .findUnpublished⟩) :
    (let r' := runRelay r (List.replicate (r.unpublished.length + 3) (.step t .ok))
    r'.publishedIds = r.publishedIds ++ r.unpublished ∧ r'.isProcessing p = false ∧
      r'.ticks[t]? = some ⟨p, r.unpublished, none⟩) :=
  let h := r.runTick_ok p _ ht le_rfl
  ⟨h.1, h.2.1, h.2.2.1⟩

/-- Two committed rows; process 0's handler has fired. -/
def twoRowsFired : Relay ℤ :=
  (init [⟨0, .FUNDS_DEPOSITED, ⟨.FUNDS_DEPOSITED, 0, some 10, .request none, 0⟩, 0⟩,
    ⟨1, .FUNDS_DEPOSITED, ⟨.FUNDS_DEPOSITED, 1, some 20, .request none, 0⟩, 0⟩] []).step (.handleCron 0)

theorem fault_free_tick_marks_both_rows :
    (twoRowsFired.ticks[0]? = some ⟨0, [], some .findUnpublished⟩ ∧ twoRowsFired.unpublished = [0, 1]) ∧
      (let r' := runRelay twoRowsFired (List.replicate (twoRowsFired.unpublished.length + 3) (.step 0 .ok))
      r'.publishedIds = twoRowsFired.publishedIds ++ twoRowsFired.unpublished ∧ r'.isProcessing 0 = false ∧
        r'.ticks[0]? = some ⟨0, twoRowsFired.unpublished, none⟩) :=
  ⟨⟨rfl, rfl⟩, twoRowsFired.tick_without_faults_marks_fetched 0 rfl⟩

/-! ## Draining the outbox -/

/-- Every row with `published = false`: what `findUnpublished` chooses from. -/
def unpublishedAll : List Nat := unpublishedRows r.outbox r.publishedIds

theorem unpublishedAll_nodup : r.unpublishedAll.Nodup := unpublishedRows_nodup

theorem unpublished_nodup : r.unpublished.Nodup := findUnpublished_nodup 100

theorem mem_unpublishedAll {j : Nat} (h : j ∈ r.unpublished) : j ∈ r.unpublishedAll := mem_findUnpublished h

/-- `k` firings of process `p`'s handler, the first starting tick `t`, each followed by
    enough awaits, all returning, for its tick to end. -/
def faultFreeTicks (p : Nat) : Nat → Nat → List (RelayEv M)
  | _, 0 => []
  | t, k + 1 => .handleCron p :: List.replicate 103 (.step t .ok) ++ faultFreeTicks p (t + 1) k

/-- Taking rows `D` out of the rows `U` leaves `|U| - |D|` of them. -/
theorem length_filter_not_mem {U D : List Nat} (hU : U.Nodup) (hD : D.Nodup) (hsub : ∀ j ∈ D, j ∈ U) :
    (U.filter (· ∉ D)).length = U.length - D.length := by
  have hperm : (U.filter (· ∈ D)).Perm D :=
    (List.perm_ext_iff_of_nodup (hU.filter _) hD).mpr fun j => by simpa using fun h => hsub j h
  have h : U.length = _ := List.length_eq_length_filter_add (fun j => decide (j ∈ D))
  rw [hperm.length_eq] at h
  simp only [decide_not]
  omega

/-- One firing of process `p`'s handler while its flag is clear, followed by enough awaits,
    all returning: the rows `findUnpublished` returns are marked, and the outbox stays. -/
theorem runRelay_round (p : Nat) (hp : r.isProcessing p = false) :
    (let r' := runRelay r (.handleCron p :: List.replicate 103 (.step r.ticks.length .ok))
    r'.publishedIds = r.publishedIds ++ r.unpublished ∧ r'.outbox = r.outbox ∧
      r'.isProcessing p = false ∧ r'.ticks.length = r.ticks.length + 1) := by
  have hr1 : r.step (.handleCron p) =
      { r with isProcessing := Function.update r.isProcessing p true, ticks := r.ticks ++ [⟨p, [], some .findUnpublished⟩] } := by
    simp [Relay.step, hp]
  have ht : (r.step (.handleCron p)).ticks[r.ticks.length]? = some ⟨p, [], some .findUnpublished⟩ := by simp [hr1]
  have hn : (r.step (.handleCron p)).unpublished.length + 3 ≤ 103 := by
    rw [unpublished, length_findUnpublished]
    omega
  obtain ⟨hpub, hproc, -, hlen, hout⟩ := (r.step (.handleCron p)).runTick_ok p 103 ht hn
  rw [hr1] at hpub hproc hlen hout
  rw [runRelay_cons, hr1]
  exact ⟨hpub, hout, hproc, by simpa using hlen⟩

/-- `k` fault-free ticks of process `p` in a row mark rows `D`: unpublished rows, no
    row twice, as many as `100 · k` or all of them. -/
theorem runRelay_faultFreeTicks (p k : Nat) (hp : r.isProcessing p = false) :
    (let r' := runRelay r (faultFreeTicks p r.ticks.length k)
    ∃ D, r'.publishedIds = r.publishedIds ++ D ∧ D.Nodup ∧ (∀ j ∈ D, j ∈ r.unpublishedAll) ∧
      D.length = min (100 * k) r.unpublishedAll.length ∧ r'.outbox = r.outbox ∧ r'.isProcessing p = false) := by
  induction k generalizing r with
  | zero => exact ⟨[], by simp [faultFreeTicks, runRelay], List.nodup_nil, by simp, by simp, rfl, hp⟩
  | succ k ih =>
    obtain ⟨h1, h2, h3, h4⟩ := r.runRelay_round p hp
    have hs : faultFreeTicks (M := M) p r.ticks.length (k + 1) =
        (.handleCron p :: List.replicate 103 (.step r.ticks.length .ok)) ++ faultFreeTicks p (r.ticks.length + 1) k :=
      rfl
    dsimp only
    rw [hs, runRelay_append]
    generalize runRelay r (.handleCron p :: List.replicate 103 (.step r.ticks.length .ok)) = r' at h1 h2 h3 h4 ⊢
    obtain ⟨D, i1, i2, i3, i4, i5, i6⟩ := h4 ▸ ih r' h3
    -- the rows left after the first tick are the unpublished rows but the ones it marked
    have hleft : r'.unpublishedAll = r.unpublishedAll.filter (· ∉ r.unpublished) := by
      rw [unpublishedAll, h1, h2, unpublishedRows_append]; rfl
    have hlen := length_filter_not_mem r.unpublishedAll_nodup r.unpublished_nodup fun _ => r.mem_unpublishedAll
    have hF : r.unpublished.length = min 100 r.unpublishedAll.length := length_findUnpublished 100
    rw [hleft] at i3 i4
    refine ⟨r.unpublished ++ D, by rw [i1, h1, List.append_assoc], ?_, ?_, ?_, i5.trans h2, i6⟩
    · exact List.nodup_append.mpr ⟨r.unpublished_nodup, i2,
        fun j hj hj' => by simpa [hj] using (List.mem_filter.mp (i3 j hj')).2⟩
    · intro j hj
      rcases List.mem_append.mp hj with hj | hj
      · exact r.mem_unpublishedAll hj
      · exact (List.mem_filter.mp (i3 j hj)).1
    · rw [List.length_append, i4, hlen, hF]
      omega

/-- From any state in which process `p` runs no tick, `k` ticks of `p` in a row, with
    nothing in between and every await returning, mark unpublished rows only, no row
    twice and 100 per tick until none is left: once `100 · k` covers the unpublished rows,
    every row of the outbox is published. Which rows a tick takes among rows of one
    `createdAt` plays no part. -/
theorem fault_free_ticks_drain_outbox (p k : Nat) (hp : r.isProcessing p = false) :
    (let r' := runRelay r (faultFreeTicks p r.ticks.length k)
    ∃ D, r'.publishedIds = r.publishedIds ++ D ∧ D.Nodup ∧ (∀ j ∈ D, j ∈ r.unpublishedAll) ∧
      D.length = min (100 * k) r.unpublishedAll.length ∧
      (r.unpublishedAll.length ≤ 100 * k → ∀ j < r'.outbox.length, j ∈ r'.publishedIds)) := by
  obtain ⟨D, h1, h2, h3, h4, h5, -⟩ := r.runRelay_faultFreeTicks p k hp
  refine ⟨D, h1, h2, h3, h4, fun hk j hj => ?_⟩
  -- `D` has as many rows as the unpublished ones, so it holds every one of them
  have hnil : r.unpublishedAll.filter (· ∉ D) = [] := List.eq_nil_of_length_eq_zero (by
    rw [length_filter_not_mem r.unpublishedAll_nodup h2 h3, h4]; omega)
  rw [h1, List.mem_append]
  by_cases hpub : j ∈ r.publishedIds
  · exact .inl hpub
  · have hu : j ∈ r.unpublishedAll := mem_unpublishedRows.mpr ⟨h5 ▸ hj, hpub⟩
    exact .inr (by simpa using List.filter_eq_nil_iff.mp hnil j hu)

/-- Process 1 drains both rows while process 0's tick has not started its fetch. -/
theorem second_process_drains_two_rows :
    twoRowsFired.isProcessing 1 = false ∧
      (let r' := runRelay twoRowsFired (faultFreeTicks 1 twoRowsFired.ticks.length 1)
      ∃ D, r'.publishedIds = twoRowsFired.publishedIds ++ D ∧ D.Nodup ∧ (∀ j ∈ D, j ∈ twoRowsFired.unpublishedAll) ∧
        D.length = min (100 * 1) twoRowsFired.unpublishedAll.length ∧
        (twoRowsFired.unpublishedAll.length ≤ 100 * 1 → ∀ j < r'.outbox.length, j ∈ r'.publishedIds)) :=
  ⟨rfl, twoRowsFired.fault_free_ticks_drain_outbox 1 1 rfl⟩

end Relay

/-- Over every run of commits, fired handlers and awaits with any faults, from any outbox
    with no tick running, the next step: rows it marks published were fetched by the tick
    it steps, and their `publish` returned in that tick after handing the row's payload
    to the broker; it unmarks nothing and changes no row; no process then runs two tick
    bodies. -/
theorem relay_ticks_safe {M : Type} (outbox : List (OutboxRow M)) (publishedIds : List Nat) (evs : List (RelayEv M))
    (e : RelayEv M) :
    (let r := runRelay (Relay.init outbox publishedIds) evs
    (∀ j ∈ (r.step e).publishedIds.drop r.publishedIds.length, ∃ t k f, e = .step t f ∧ r.ticks[t]? = some k ∧
      j ∈ k.fetched ∧ (t, j) ∈ r.acked ∧ ∃ row, r.outbox[j]? = some row ∧ (t, row.payload) ∈ r.broker) ∧
    r.publishedIds <+: (r.step e).publishedIds ∧ r.outbox <+: (r.step e).outbox ∧
    ∀ (t t' : Nat) (k k' : Tick), (r.step e).ticks[t]? = some k → (r.step e).ticks[t']? = some k' → k.proc = k'.proc →
      k.pc.isSome → k'.pc.isSome → t = t') := by
  intro r
  have h : r.Inv := (Relay.Inv.init outbox publishedIds).run evs
  obtain ⟨⟨new, hnew, hmark⟩, hout⟩ := r.step_frame e
  refine ⟨fun j hj => ?_, hnew ▸ List.prefix_append _ _, hout, (h.step e).one⟩
  rw [hnew, List.drop_left] at hj
  obtain ⟨t, k, f, pc, rfl, hk, hpc, hj⟩ := hmark j hj
  obtain ⟨hacked, hfetched⟩ := (h.ticks t k hk pc hpc).1 j hj
  exact ⟨t, k, f, rfl, hk, hfetched, hacked, h.acked t j hacked⟩

end EventWallet
