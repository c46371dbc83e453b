/-
  EventWallet.Service.Steps — what one step of the system can do, said once.

  A step of a call is an effect on the state the calls share (`Effect`: nothing, one
  transaction of `Commits`, a publish, a cache or lock write) and the call's next
  await, which holds what that await expects (`Call.OkIn`: `Call.Ok`, and an admin
  call's read is a row the store held). `step_cases` says it for every event of the
  environment; every invariant of the system is proved from it, by cases on `Effect`
  and on `Commits`, and never by unfolding a service's steps.
  `step_store_now` says the same of the store and the clock: a step leaves the store as
  it was while the clock moves forward, or commits one transaction of `Commits` at the
  instant it stands at.

  Also here: the invariant every reachable state keeps (`Sys.Wf`: rows at their ids,
  fresh saga ids, calls that hold what their awaits expect) and the run lemmas that
  turn a step lemma into an invariant of every state a run reaches (`run_induct`), or
  of every run that passes only through states where a side condition holds
  (`run_induct_while`).
-/

import EventWallet.Service.Run

namespace EventWallet

variable {M : Type}

/-- A transfer call at `saveCompleted` holds a COMPLETED saga, at `saveFailed` a FAILED one. -/
def TransferPc.Ok : TransferPc M → Prop
  | .saveCompleted g => g.state = .COMPLETED
  | .saveFailed g _ => g.state = .FAILED
  | _ => True

/-- What a call holds at its await: an admin call's read is the wallet of its id, and a
    transfer's saga is in the state it is about to save. -/
def Call.Ok : Call M → Prop
  | .admin _ walletId (.transaction read) => ∀ w, read = some w → w.id = walletId
  | .transfer _ _ _ _ pc => pc.Ok
  | _ => True

/-- Every call holds what its await expects. -/
def CallsOk (s : Sys M) : Prop := ∀ c ∈ s.calls, c.Ok

/-- What a call holds at its await, as it enters it from store `st`: an admin call's
    read is also a row of `st` (the one its `findById` returned). -/
def Call.OkIn (st : Store M) : Call M → Prop
  | .admin _ walletId (.transaction read) => ∀ w, read = some w → w.id = walletId ∧ ∃ v, st.wallets v = some w
  | c => c.Ok

theorem Call.OkIn.ok {st : Store M} {c : Call M} (h : c.OkIn st) : c.Ok := by
  unfold Call.OkIn at h; split at h
  · exact fun w hw => (h w hw).1
  · exact h

/-- A call that has not returned, thrown or crashed: a step of it runs its next await. -/
def Call.InFlight : Call M → Bool
  | .returned _ | .threw _ | .crashed => false
  | _ => true

/-- The messages `executeTransfer` and `recoverSaga` publish directly. -/
def SagaMessage (p : Payload M) : Prop :=
  p.eventType = .TRANSFER_INITIATED ∨ p.eventType = .TRANSFER_COMPLETED ∨ p.eventType = .TRANSFER_FAILED

/-- What every state a run reaches keeps. -/
structure Sys.Wf (s : Sys M) : Prop where
  store : s.store.Wf
  calls : CallsOk s

variable [LinearOrderedCommRing M]

/-- The transactions a call at its await can commit from `s`. -/
inductive Commits (s : Sys M) : List (Write M) → Prop
  | funds {ws : List (Write M)} (i : Nat) (f : Funds) (w : WalletId) (a : M) (r : Option RequestId)
      (resp : Response M) :
      s.calls[i]? = some (.funds f w a r .transaction) → idempotentTx f w a r s.store s.now = .ok (ws, resp) →
      Commits s ws
  | admin {ws : List (Write M)} (i : Nat) (op : AdminOp M) (w : WalletId) (read : Option (Wallet M)) :
      s.calls[i]? = some (.admin op w (.transaction read)) → stateChangeTx op w read s.now = .ok ws → Commits s ws
  | provision (i : Nat) (fr t : WalletId) (a : M) (r : Option RequestId) (cur : String) :
      s.calls[i]? = some (.transfer fr t a r (.getOrCreate cur)) → Commits s (getOrCreate s.store t cur s.now).2
  | createSaga (i : Nat) (fr t : WalletId) (a : M) (r : Option RequestId) (cur : String) :
      s.calls[i]? = some (.transfer fr t a r (.saveSaga cur)) →
      Commits s [.saga ⟨s.store.nextSagaId, fr, t, a, cur, .PENDING, s.now⟩]
  | debit {ws : List (Write M)} (i : Nat) (fr t : WalletId) (a : M) (r : Option RequestId) (g : TransferSaga M) :
      s.calls[i]? = some (.transfer fr t a r (.debitFromSender g)) → debitFromSender g s.store s.now = .ok ws →
      Commits s ws
  | credit {ws : List (Write M)} (g : TransferSaga M) : creditToReceiver g s.store s.now = .ok ws → Commits s ws
  | compensate {ws : List (Write M)} (g : TransferSaga M) :
      compensate g.id g.fromWalletId g.amount s.store s.now = .ok ws → Commits s ws
  /-- An autocommit `sagaRepository.save` of a saga the call holds: COMPLETED after
      `markAsCompleted`, or FAILED after `markAsFailed`. -/
  | saveSaga (g : TransferSaga M) :
      g.state = .COMPLETED ∨ g.state = .FAILED → Commits s [.saga { g with updatedAt := s.now }]
  | saveKey (r : RequestId) (res : TransferResult M) : Commits s [.idempotency r (.transfer res)]
  | markAsPublished (ids : List Nat) : Commits s [.published ids]

/-- What an await does to the state the calls share. -/
inductive Effect (s : Sys M) : Sys M → Prop
  | skip : Effect s s
  | commit {ws : List (Write M)} : Commits s ws → Effect s (s.commit ws)
  /-- A funds transaction's `finally` after its commit: `redis.del(lockKey)`. -/
  | commitRelease {ws : List (Write M)} (r : RequestId) : Commits s ws → Effect s ((s.commit ws).delLock r)
  | release (r : RequestId) : Effect s (s.delLock r)
  | setLock (r : RequestId) : Effect s (s.setLock r)
  /-- A direct publish of the saga service, or the relay's publish of a committed row. -/
  | publish (p : Payload M) : SagaMessage p ∨ (∃ row ∈ s.store.outbox, row.payload = p) → Effect s (s.publish p)
  | setBalanceCache (w : WalletId) (v : Option M) : Effect s (s.setBalanceCache w v)
  | invalidateBalanceCache (w : WalletId) : Effect s (s.invalidateBalanceCache w)

namespace Sys

/-- Call `i` moves: an effect, and its next await, entered from the store the effect
    leaves. -/
def CallStep (s t : Sys M) (i : Nat) : Prop := ∃ u c, Effect s u ∧ t = u.setCall i c ∧ c.OkIn u.store

section

variable {s : Sys M} {i : Nat}

theorem setCall_step (s : Sys M) {c : Call M} (hc : c.OkIn s.store) : s.CallStep (s.setCall i c) i :=
  ⟨_, _, .skip, rfl, hc⟩

omit [LinearOrderedCommRing M] in
/-- Setting call `i` to the call it is changes nothing. -/
theorem setCall_self (s : Sys M) {c : Call M} (hc : s.calls[i]? = some c) : s.setCall i c = s := by
  cases s
  simp only [setCall, Sys.mk.injEq, and_true, true_and]
  have hi := (List.getElem?_eq_some_iff.mp hc).1
  exact List.ext_getElem? fun j => by rw [List.getElem?_set]; split <;> simp_all

theorem io_step (s : Sys M) {f : Fault} {eff : Sys M → Sys M} {next onErr : Call M} (he : Effect s (eff s))
    (hn : next.OkIn (eff s).store) (ho : ∀ st, onErr.OkIn st) : s.CallStep (s.io i f eff next onErr) i := by
  cases f
  · exact ⟨_, _, he, rfl, hn⟩
  · exact ⟨_, _, .skip, rfl, ho _⟩
  · exact ⟨_, _, he, rfl, ho _⟩

theorem tx_step (s : Sys M) {f : Fault} {body : Except (Err M) (List (Write M))} {next : Call M} {onErr : Err M → Call M}
    (hb : ∀ ws, body = .ok ws → Commits s ws) (hn : ∀ st, next.OkIn st) (ho : ∀ e st, (onErr e).OkIn st) :
    s.CallStep (s.tx i f body next onErr) i := by
  unfold tx
  split
  · exact s.setCall_step (ho _ _)
  · exact s.setCall_step (ho _ _)
  · exact ⟨_, _, .commit (hb _ rfl), rfl, hn _⟩
  · exact ⟨_, _, .commit (hb _ rfl), rfl, ho _ _⟩

theorem stepFunds_step {f : Funds} {w : WalletId} {a : M} {r : Option RequestId} {fault : Fault} {pc : FundsPc M}
    (hc : s.calls[i]? = some (.funds f w a r pc)) : s.CallStep (s.stepFunds i f w a r fault pc) i := by
  cases pc with
  | findByRequestId =>
    cases r with
    | none => exact s.setCall_step trivial
    | some r => exact s.io_step .skip (by split <;> trivial) fun _ => trivial
  | acquireLock =>
    cases r with
    | none => exact s.setCall_step trivial
    | some r =>
      simp only [stepFunds]
      split
      · exact s.io_step .skip trivial fun _ => trivial
      · exact s.io_step (.setLock r) trivial fun _ => trivial
  | begin => exact s.io_step .skip trivial fun _ => trivial
  | transaction =>
    simp only [stepFunds]
    split
    · cases r <;> [exact s.setCall_step trivial; exact ⟨_, _, .release _, rfl, trivial⟩]
    · cases r <;> [exact s.setCall_step trivial; exact ⟨_, _, .release _, rfl, trivial⟩]
    · rename_i ws resp hb
      have hcm : Commits s ws := .funds i f w a r resp hc hb
      cases r <;> [exact ⟨_, _, .commit hcm, rfl, trivial⟩; exact ⟨_, _, .commitRelease _ hcm, rfl, trivial⟩]
    · rename_i ws resp hb
      exact ⟨_, _, .commit (.funds i f w a r resp hc hb), rfl, trivial⟩
  | setBalanceCache resp =>
    dsimp only [stepFunds]
    exact s.io_step (.setBalanceCache w resp.balance?) trivial fun _ => trivial

theorem stepAdmin_step {op : AdminOp M} {w : WalletId} {fault : Fault} {pc : AdminPc M} (hs : s.store.Wf)
    (hc : s.calls[i]? = some (.admin op w pc)) : s.CallStep (s.stepAdmin i op w fault pc) i := by
  cases pc with
  | begin => exact s.io_step .skip trivial fun _ => trivial
  | findById => exact s.io_step .skip (fun x hx => ⟨hs.wallet_id w x hx, w, hx⟩) fun _ => trivial
  | transaction read =>
    exact s.tx_step (fun _ h => .admin i op w read hc h) (fun _ => by split <;> trivial) fun _ _ => trivial
  | invalidateBalanceCache =>
    dsimp only [stepAdmin]
    exact s.io_step (.invalidateBalanceCache w) trivial fun _ => trivial

theorem stepBalance_step {w : WalletId} {fault : Fault} {pc : BalancePc M} :
    s.CallStep (s.stepBalance i w fault pc) i := by
  cases pc with
  | get => exact s.io_step .skip (by split <;> trivial) fun _ => trivial
  | findById => exact s.io_step .skip (by split <;> trivial) fun _ => trivial
  | setBalanceCache b =>
    dsimp only [stepBalance]
    exact s.io_step (.setBalanceCache w (some b)) trivial fun _ => trivial

theorem stepTransfer_step {fr t : WalletId} {a : M} {r : Option RequestId} {fault : Fault} {pc : TransferPc M}
    (hc : s.calls[i]? = some (.transfer fr t a r pc)) (hok : pc.Ok) :
    s.CallStep (s.stepTransfer i fr t a r fault pc) i := by
  cases pc <;> dsimp only [stepTransfer]
  case findByRequestId =>
    cases r with
    | none => exact s.setCall_step (by split <;> trivial)
    | some r => exact s.io_step .skip (by split <;> [trivial; split <;> trivial]) fun _ => trivial
  case findFrom => exact s.io_step .skip (by split <;> trivial) fun _ => trivial
  case getOrCreate cur =>
    exact s.tx_step (fun _ h => by cases h; exact .provision i fr t a r cur hc) (fun _ => by split <;> trivial)
      fun _ _ => trivial
  case saveSaga cur =>
    exact s.tx_step (fun _ h => by cases h; exact .createSaga i fr t a r cur hc) (fun _ => trivial) fun _ _ => trivial
  case publishInitiated g =>
    exact s.io_step (.publish ⟨.TRANSFER_INITIATED, fr, some a, .transfer g.id, s.now⟩ (.inl (.inl rfl))) trivial
      fun _ => trivial
  case debitFromSender g => exact s.tx_step (fun _ h => .debit i fr t a r g hc h) (fun _ => trivial) fun _ _ => trivial
  case invalidateFrom g => exact s.io_step (.invalidateBalanceCache g.fromWalletId) trivial fun _ => trivial
  case findDebited => exact s.io_step .skip (by split <;> trivial) fun _ => trivial
  case creditToReceiver g => exact s.tx_step (fun _ h => .credit g h) (fun _ => trivial) fun _ _ => trivial
  case invalidateTo g => exact s.io_step (.invalidateBalanceCache g.toWalletId) trivial fun _ => trivial
  case findCredited =>
    refine s.io_step .skip ?_ fun _ => trivial
    split
    · split
      · simp_all [Call.OkIn, Call.Ok, TransferPc.Ok]
      · trivial
    · trivial
  case saveCompleted g =>
    exact s.tx_step (fun _ h => by cases h; exact .saveSaga g (.inl hok)) (fun _ => trivial) fun _ _ => trivial
  case publishCompleted g =>
    exact s.io_step (.publish ⟨.TRANSFER_COMPLETED, fr, some a, .transfer g.id, s.now⟩ (.inl (.inr (.inl rfl))))
      (by split <;> trivial) fun _ => trivial
  case saveKey res =>
    cases r with
    | none => exact s.setCall_step trivial
    | some r => exact s.tx_step (fun _ h => by cases h; exact .saveKey r res) (fun _ => trivial) fun _ _ => trivial
  case findCurrent =>
    refine s.io_step .skip ?_ fun _ => trivial
    split
    · split
      · trivial
      · rfl
    · trivial
  case compensate g e => exact s.tx_step (fun _ h => .compensate g h) (fun _ => trivial) fun _ _ => trivial
  case publishFailed g e =>
    exact s.io_step (.publish ⟨.TRANSFER_FAILED, g.fromWalletId, some g.amount, .compensation g.id, s.now⟩
      (.inl (.inr (.inr rfl)))) trivial fun _ => trivial
  case saveFailed g e =>
    exact s.tx_step (fun _ h => by cases h; exact .saveSaga g (.inr hok)) (fun _ => trivial) fun _ _ => trivial

omit [LinearOrderedCommRing M] in
theorem nextRecover_ok (l : List SagaId) (st : Store M) : (nextRecover l : Call M).OkIn st := by cases l <;> trivial

theorem stepRecover_step {rest : List SagaId} {fault : Fault} {pc : RecoverPc M} :
    s.CallStep (s.stepRecover i rest fault pc) i := by
  cases pc <;> dsimp only [stepRecover]
  case findById =>
    refine s.io_step .skip ?_ (nextRecover_ok _)
    split
    · split
      · trivial
      · exact nextRecover_ok _ _
    · exact nextRecover_ok _ _
  case creditToReceiver g => exact s.tx_step (fun _ h => .credit g h) (fun _ => trivial) fun _ _ => trivial
  case invalidateTo g => exact s.io_step (.invalidateBalanceCache g.toWalletId) trivial fun _ => trivial
  case saveCompleted g =>
    split
    · rename_i g' hg
      obtain ⟨-, rfl⟩ := TransferSaga.markAsCompleted_ok.mp hg
      exact s.tx_step (fun _ h => by cases h; exact .saveSaga _ (.inl rfl)) (fun _ => trivial) fun _ _ => trivial
    · exact s.setCall_step trivial
  case publishCompleted g =>
    exact s.io_step (.publish ⟨.TRANSFER_COMPLETED, g.fromWalletId, some g.amount, .transfer g.id, s.now⟩
      (.inl (.inr (.inl rfl)))) (nextRecover_ok _ _) fun _ => trivial
  case compensate g => exact s.tx_step (fun _ h => .compensate g h) (fun _ => trivial) fun _ => nextRecover_ok _
  case publishFailed g =>
    exact s.io_step (.publish ⟨.TRANSFER_FAILED, g.fromWalletId, some g.amount, .compensation g.id, s.now⟩
      (.inl (.inr (.inr rfl)))) (nextRecover_ok _ _) (nextRecover_ok _)

theorem stepRelay_step {fault : Fault} {pc : RelayPc} : s.CallStep (s.stepRelay i fault pc) i := by
  cases pc with
  | findUnpublished => exact s.io_step .skip (by split <;> trivial) fun _ => trivial
  | publish pending ids =>
    cases pending with
    | nil => exact s.setCall_step trivial
    | cons j rest =>
      simp only [stepRelay]
      split
      · rename_i row hrow
        exact s.io_step (.publish row.payload (.inr ⟨row, List.getElem?_mem hrow, rfl⟩)) trivial fun _ => trivial
      · exact s.setCall_step trivial
  | markAsPublished ids =>
    simp only [stepRelay]
    split
    · exact s.setCall_step trivial
    · exact s.tx_step (fun _ h => by cases h; exact .markAsPublished ids) (fun _ => trivial) fun _ _ => trivial

theorem stepCall_step {cfg : Config} {fault : Fault} {c : Call M} (hw : s.Wf) (hc : s.calls[i]? = some c) :
    s.CallStep (s.stepCall cfg i fault c) i := by
  have hok : c.Ok := hw.calls c (List.getElem?_mem hc)
  cases c with
  | funds => exact stepFunds_step hc
  | admin => exact stepAdmin_step hw.store hc
  | getBalance => exact stepBalance_step
  | transfer => exact stepTransfer_step hc hok
  | recovery pc =>
    cases pc with
    | find => exact s.io_step .skip (nextRecover_ok _ _) fun _ => trivial
    | recover => exact stepRecover_step
  | relay => exact stepRelay_step
  | _ => exact ⟨_, _, .skip, (s.setCall_self hc).symm, trivial⟩

/-- A step of a call that is no longer in flight does nothing. -/
theorem stepCall_done {cfg : Config} {fault : Fault} {c : Call M} (h : c.InFlight = false) :
    s.stepCall cfg i fault c = s := by
  cases c <;> first | rfl | cases h

end

end Sys

/-- What one step of the system does: a call in flight moves (`CallStep`), a call
    starts at its entry point, time passes, or a post-commit publish runs or is dropped. -/
theorem step_cases (cfg : Config) {s : Sys M} (hw : s.Wf) (e : Ev M) :
    (∃ i c, s.calls[i]? = some c ∧ c.InFlight ∧ s.CallStep (step cfg s e) i) ∨
    (∃ c : Call M, c.OkIn s.store ∧ step cfg s e = s.spawn c) ∨
    (∃ dt, step cfg s e = { s with now := s.now + dt }) ∨
    (∃ i p, s.postCommit[i]? = some p ∧ ∃ ok : Bool, step cfg s e =
      { s with postCommit := s.postCommit.eraseIdx i, published := if ok then s.published ++ [p] else s.published }) ∨
    step cfg s e = s := by
  cases e with
  | step i f =>
    simp only [step]
    split
    · rename_i c hc
      cases hin : c.InFlight
      · exact .inr (.inr (.inr (.inr (Sys.stepCall_done hin))))
      · exact .inl ⟨i, c, hc, hin, Sys.stepCall_step hw hc⟩
    · exact .inr (.inr (.inr (.inr rfl)))
  | crash i =>
    simp only [step]
    split
    · exact .inr (.inr (.inr (.inr rfl)))
    · exact .inr (.inr (.inr (.inr rfl)))
    · exact .inr (.inr (.inr (.inr rfl)))
    · rename_i c _ _ hc
      cases hin : c.InFlight
      · obtain rfl : c = .crashed := by cases c <;> simp_all [Call.InFlight]
        exact .inr (.inr (.inr (.inr (s.setCall_self hc))))
      · exact .inl ⟨i, c, hc, hin, s.setCall_step trivial⟩
  | tick dt => exact .inr (.inr (.inl ⟨dt, rfl⟩))
  | flush i ok =>
    simp only [step]
    split
    · exact .inr (.inr (.inr (.inl ⟨i, _, ‹_›, ok, rfl⟩)))
    · exact .inr (.inr (.inr (.inr rfl)))
  | _ => exact .inr (.inl ⟨_, by trivial, rfl⟩)

/-! ## Runs -/

theorem Effect.now {s u : Sys M} (h : Effect s u) : u.now = s.now := by cases h <;> rfl

theorem Effect.calls {s u : Sys M} (h : Effect s u) : u.calls = s.calls := by cases h <;> rfl

/-- What a step leaves of the store and the clock: the store, with time moved forward,
    or the store with one transaction of `Commits` committed at the step's instant. -/
theorem step_store_now (cfg : Config) {s : Sys M} (hw : s.Wf) (e : Ev M) :
    ((step cfg s e).store = s.store ∧ s.now ≤ (step cfg s e).now) ∨
      ∃ ws, Commits s ws ∧ (step cfg s e).store = s.store.commit ws ∧ (step cfg s e).now = s.now := by
  rcases step_cases cfg hw e with ⟨i, -, -, -, u, c, hu, h, -⟩ | ⟨c, -, h⟩ | ⟨dt, h⟩ | ⟨i, p, -, ok, h⟩ | h <;> rw [h]
  · have hn := hu.now
    cases hu with
    | commit hc => exact .inr ⟨_, hc, rfl, hn⟩
    | commitRelease r hc => exact .inr ⟨_, hc, rfl, hn⟩
    | _ => exact .inl ⟨rfl, hn.ge⟩
  · exact .inl ⟨rfl, le_rfl⟩
  · exact .inl ⟨rfl, Nat.le_add_right _ _⟩
  all_goals exact .inl ⟨rfl, le_rfl⟩

/-- What a step leaves of the store: it, or it with one transaction of `Commits`. -/
theorem step_store (cfg : Config) {s : Sys M} (hw : s.Wf) (e : Ev M) :
    (step cfg s e).store = s.store ∨ ∃ ws, Commits s ws ∧ (step cfg s e).store = s.store.commit ws :=
  (step_store_now cfg hw e).imp And.left fun ⟨ws, hc, hs, _⟩ => ⟨ws, hc, hs⟩

theorem Sys.Wf.step (cfg : Config) {s : Sys M} (h : s.Wf) (e : Ev M) : (step cfg s e).Wf where
  store := by
    rcases step_store cfg h e with hs | ⟨ws, -, hs⟩ <;> rw [hs]
    · exact h.store
    · exact h.store.commit ws
  calls := by
    have set_ok : ∀ (t : Sys M) i (c : Call M), CallsOk t → c.Ok → CallsOk (t.setCall i c) :=
      fun _ _ _ ht hc _ h => (List.mem_or_eq_of_mem_set h).elim (ht _) (· ▸ hc)
    rcases step_cases cfg h e with ⟨i, -, -, -, u, c, hu, hs, hc⟩ | ⟨c, hc, hs⟩ | ⟨dt, hs⟩ | ⟨i, p, -, ok, hs⟩ | hs <;>
      rw [hs]
    · refine set_ok u i c ?_ hc.ok
      cases hu <;> exact h.calls
    · exact fun c' h' => (List.mem_append.mp h').elim (h.calls c') fun h' => by simp_all [hc.ok]
    all_goals exact h.calls

omit [LinearOrderedCommRing M] in
theorem Sys.Wf.init {st : Store M} (h : st.Wf) (now : Nat) : (Sys.init st now).Wf := ⟨h, fun _ h => nomatch h⟩

/-- A property every step keeps from a well-formed state holds of every state a run
    reaches. -/
theorem run_induct (cfg : Config) (P : Sys M → Prop) (hstep : ∀ s e, s.Wf → P s → P (step cfg s e)) :
    ∀ (evs : List (Ev M)) (s : Sys M), s.Wf → P s → P (run cfg s evs)
  | [], _, _, hp => hp
  | e :: evs, s, hw, hp => run_induct cfg P hstep evs _ (hw.step cfg e) (hstep s e hw hp)

/-- A property every step keeps from a well-formed state where `Q` holds, holds of the
    state a run ends in, when `Q` holds of every state the run passes through. -/
theorem run_induct_while (cfg : Config) (P Q : Sys M → Prop) (hstep : ∀ s e, s.Wf → Q s → P s → P (step cfg s e)) :
    ∀ (evs : List (Ev M)) (s : Sys M), s.Wf → P s → (∀ k ≤ evs.length, Q (run cfg s (evs.take k))) →
      P (run cfg s evs)
  | [], _, _, hp, _ => hp
  | e :: evs, s, hw, hp, hq =>
    run_induct_while cfg P Q hstep evs _ (hw.step cfg e) (hstep s e hw (hq 0 (Nat.zero_le _)) hp) fun k hk =>
      hq (k + 1) (by simp [hk])

theorem Sys.Wf.run (cfg : Config) {s : Sys M} (h : s.Wf) (evs : List (Ev M)) : (EventWallet.run cfg s evs).Wf :=
  run_induct cfg Sys.Wf (fun _ e _ h => h.step cfg e) evs s h h

end EventWallet
