/-
  EventWallet.Transfer.Completes — `executeTransfer` run alone, every await returning:
  what the saga does when nothing fails.

  `executeTransfer` takes fourteen awaits on its ok path: the idempotency lookup, the
  sender's read, the receiver's `getOrCreate` in its own transaction, the PENDING
  insert, TRANSFER_INITIATED, the debit leg, the sender's cache invalidation, the
  saga's reload, the credit leg, the receiver's cache invalidation, the reload and
  `markAsCompleted`, the COMPLETED save, TRANSFER_COMPLETED, and the idempotency record
  when there is a request id. Each await has its spec lemma here, and a run alone is
  read forward with `reach_step`, one await at a time.

  Proved, from any well-formed store:
  - `transfer_completes_exact`: a transfer between two wallets, from a sender whose
    `withdraw` accepts the amount to a receiver that is ACTIVE in the sender's currency
    or missing, ends COMPLETED: the sender holds what `withdraw` returned, the receiver
    the amount more, no other wallet changes, the saga is stored COMPLETED, the two
    messages are published, both cache entries are cleared, and the call returns the
    COMPLETED result.
  - `transfer_completes`: the same over PostgreSQL's store (`runDB`), from a state and
    for an amount in cents.
-/

import EventWallet.Service.Alone
import EventWallet.Transfer.Legs
import EventWallet.Wallet.Decimal

namespace EventWallet

variable {M : Type} [LinearOrderedCommRing M]

/-! ## The store after the legs -/

theorem getOrCreate_commit_sagas (st : Store M) (id : WalletId) (c : String) (now : Nat) :
    (st.commit (getOrCreate st id c now).2).sagas = st.sagas := by
  simp [(getOrCreate_writes st id c now).2.2]

theorem getOrCreate_commit_nextSagaId (st : Store M) (id : WalletId) (c : String) (now : Nat) :
    (st.commit (getOrCreate st id c now).2).nextSagaId = st.nextSagaId := by
  unfold getOrCreate
  split
  · rfl
  · split <;> rfl

/-- `getOrCreate` returns a wallet in the currency asked for when the stored one, if any,
    is in it. -/
theorem getOrCreate_currency {st : Store M} {id : WalletId} {c : String} (now : Nat)
    (h : ∀ v, st.wallets id = some v → v.currency = c) : (getOrCreate st id c now).1.currency = c := by
  unfold getOrCreate
  split
  · exact h _ ‹_›
  · rfl

/-- The receiver `getOrCreate` returns to a transfer: the stored one when it is ACTIVE in
    the currency asked for, else a new one; either way it holds the stored balance. -/
theorem getOrCreate_receiver {st : Store M} {id : WalletId} {c : String} (now : Nat)
    (h : ∀ v, st.wallets id = some v → v.currency = c ∧ v.status = .ACTIVE) :
    (getOrCreate st id c now).1.currency = c ∧ (getOrCreate st id c now).1.status = .ACTIVE ∧
      (getOrCreate st id c now).1.balance = storedBalance st id := by
  unfold getOrCreate storedBalance
  split
  · rename_i v hv
    exact ⟨(h v hv).1, (h v hv).2, by simp [hv]⟩
  · rename_i hv
    simp [hv, Wallet.new]

/-- The debit leg on the saga as it is stored, PENDING. -/
theorem debitFromSender_stored {saga : TransferSaga M} {st : Store M} {now : Nat} {w w' : Wallet M}
    (hw : st.wallets saga.fromWalletId = some w) (hop : w.withdraw saga.amount now = .ok w')
    (hs : st.sagas saga.id = some saga) (hp : saga.state = .PENDING) :
    debitFromSender saga st now = .ok [.wallet w', .saga { saga with state := .DEBITED, updatedAt := now },
      .event (WalletEvent.new saga.fromWalletId .FUNDS_WITHDRAWN w'.currency (some saga.amount)
        (.debit saga.id saga.toWalletId) now),
      .outbox (OutboxRow.new saga.fromWalletId .FUNDS_WITHDRAWN
        ⟨.FUNDS_WITHDRAWN, saga.fromWalletId, some saga.amount, .debit saga.id saga.toWalletId, now⟩ now)] :=
  debitFromSender_eq hw hop hs (TransferSaga.markAsDebited_ok.mpr ⟨hp, rfl⟩)

/-- The credit leg on the saga as it is stored. -/
theorem creditToReceiver_stored {saga : TransferSaga M} {st : Store M} {now : Nat} {w w' : Wallet M}
    (hw : st.wallets saga.toWalletId = some w) (hop : w.credit saga.amount = .ok w') (hs : st.sagas saga.id = some saga) :
    creditToReceiver saga st now = .ok [.wallet w',
      .event (WalletEvent.new saga.toWalletId .FUNDS_DEPOSITED w'.currency (some saga.amount)
        (.credit saga.id saga.fromWalletId) now),
      .outbox (OutboxRow.new saga.toWalletId .FUNDS_DEPOSITED
        ⟨.FUNDS_DEPOSITED, saga.toWalletId, some saga.amount, .credit saga.id saga.fromWalletId, now⟩ now)] :=
  creditToReceiver_eq hw hop hs

/-! ## executeTransfer -/

section Transfer

variable {s : Sys M} {i : Nat} {fr dst : WalletId} {a : M} {r : Option RequestId}

theorem stepTransfer_findByRequestId (hne : fr ≠ dst) (hkey : ∀ k, r = some k → s.store.idempotency k = none) :
    s.stepTransfer i fr dst a r .ok .findByRequestId = s.setCall i (.transfer fr dst a r .findFrom) := by
  cases r with
  | none => simp [Sys.stepTransfer, hne]
  | some k => simp [Sys.stepTransfer, Sys.io, hne, hkey k rfl]

theorem stepTransfer_findFrom {w : Wallet M} (hw : s.store.wallets fr = some w) :
    s.stepTransfer i fr dst a r .ok .findFrom = s.setCall i (.transfer fr dst a r (.getOrCreate w.currency)) := by
  simp [Sys.stepTransfer, Sys.io, hw]

theorem stepTransfer_getOrCreate {cur : String} (hc : (getOrCreate s.store dst cur s.now).1.currency = cur) :
    s.stepTransfer i fr dst a r .ok (.getOrCreate cur) =
      (s.commit (getOrCreate s.store dst cur s.now).2).setCall i (.transfer fr dst a r (.saveSaga cur)) := by
  simp [Sys.stepTransfer, Sys.tx, hc]

theorem stepTransfer_saveSaga (cur : String) :
    s.stepTransfer i fr dst a r .ok (.saveSaga cur) =
      (s.commit [.saga ⟨s.store.nextSagaId, fr, dst, a, cur, .PENDING, s.now⟩]).setCall i
        (.transfer fr dst a r (.publishInitiated ⟨s.store.nextSagaId, fr, dst, a, cur, .PENDING, s.now⟩)) :=
  rfl

theorem stepTransfer_publishInitiated (saga : TransferSaga M) :
    s.stepTransfer i fr dst a r .ok (.publishInitiated saga) =
      (s.publish ⟨.TRANSFER_INITIATED, fr, some a, .transfer saga.id, s.now⟩).setCall i
        (.transfer fr dst a r (.debitFromSender saga)) :=
  rfl

theorem stepTransfer_debitFromSender {saga : TransferSaga M} {ws : List (Write M)}
    (h : debitFromSender saga s.store s.now = .ok ws) :
    s.stepTransfer i fr dst a r .ok (.debitFromSender saga) =
      (s.commit ws).setCall i (.transfer fr dst a r (.invalidateFrom saga)) := by
  simp [Sys.stepTransfer, Sys.tx, h]

theorem stepTransfer_invalidateFrom (saga : TransferSaga M) :
    s.stepTransfer i fr dst a r .ok (.invalidateFrom saga) =
      (s.invalidateBalanceCache saga.fromWalletId).setCall i (.transfer fr dst a r (.findDebited saga.id)) :=
  rfl

theorem stepTransfer_findDebited {g : SagaId} {x : TransferSaga M} (h : s.store.sagas g = some x) :
    s.stepTransfer i fr dst a r .ok (.findDebited g) = s.setCall i (.transfer fr dst a r (.creditToReceiver x)) := by
  simp [Sys.stepTransfer, Sys.io, h]

theorem stepTransfer_creditToReceiver {saga : TransferSaga M} {ws : List (Write M)}
    (h : creditToReceiver saga s.store s.now = .ok ws) :
    s.stepTransfer i fr dst a r .ok (.creditToReceiver saga) =
      (s.commit ws).setCall i (.transfer fr dst a r (.invalidateTo saga)) := by
  simp [Sys.stepTransfer, Sys.tx, h]

theorem stepTransfer_invalidateTo (saga : TransferSaga M) :
    s.stepTransfer i fr dst a r .ok (.invalidateTo saga) =
      (s.invalidateBalanceCache saga.toWalletId).setCall i (.transfer fr dst a r (.findCredited saga.id)) :=
  rfl

theorem stepTransfer_findCredited {g : SagaId} {x y : TransferSaga M} (h : s.store.sagas g = some x)
    (hm : x.markAsCompleted = .ok y) :
    s.stepTransfer i fr dst a r .ok (.findCredited g) = s.setCall i (.transfer fr dst a r (.saveCompleted y)) := by
  simp [Sys.stepTransfer, Sys.io, h, hm]

theorem stepTransfer_saveCompleted (saga : TransferSaga M) :
    s.stepTransfer i fr dst a r .ok (.saveCompleted saga) =
      (s.commit [.saga { saga with updatedAt := s.now }]).setCall i (.transfer fr dst a r (.publishCompleted saga)) :=
  rfl

theorem stepTransfer_publishCompleted (saga : TransferSaga M) :
    s.stepTransfer i fr dst a r .ok (.publishCompleted saga) =
      (s.publish ⟨.TRANSFER_COMPLETED, fr, some a, .transfer saga.id, s.now⟩).setCall i
        (if r.isSome then .transfer fr dst a r (.saveKey ⟨saga.id, saga.state, saga.fromWalletId, saga.toWalletId, saga.amount⟩)
         else .returned (.response (.transfer ⟨saga.id, saga.state, saga.fromWalletId, saga.toWalletId, saga.amount⟩))) :=
  rfl

end Transfer

/-- The first five awaits of a transfer run alone, every one returning: the receiver
    provisioned by `getOrCreate`, the saga inserted PENDING and TRANSFER_INITIATED
    published; the call then waits at the debit leg. Every path of `executeTransfer`
    past the sender's read starts so. -/
theorem transfer_initiated (cfg : Config) {s t : Sys M} {fromWalletId toWalletId : WalletId} {amount : M}
    {requestId : Option RequestId} {w : Wallet M} {n : Nat} (hne : fromWalletId ≠ toWalletId)
    (hkey : ∀ k, requestId = some k → s.store.idempotency k = none) (hw : s.store.wallets fromWalletId = some w)
    (hcur : (getOrCreate s.store toWalletId w.currency s.now).1.currency = w.currency)
    (hr : run cfg s (.executeTransfer fromWalletId toWalletId amount requestId ::
      List.replicate (n + 5) (.step s.calls.length .ok)) = t) :
    (let saga : TransferSaga M := ⟨s.store.nextSagaId, fromWalletId, toWalletId, amount, w.currency, .PENDING, s.now⟩
    let c : Call M := .transfer fromWalletId toWalletId amount requestId (.debitFromSender saga)
    ∃ s', run cfg s' (List.replicate n (.step s.calls.length .ok)) = t ∧ s'.calls[s.calls.length]? = some c ∧
      s'.calls = s.calls ++ [c] ∧
      s'.store = (s.store.commit (getOrCreate s.store toWalletId w.currency s.now).2).commit [.saga saga] ∧
      s'.published = s.published ++ [⟨.TRANSFER_INITIATED, fromWalletId, some amount, .transfer saga.id, s.now⟩] ∧
      s'.now = s.now ∧ s'.cache = s.cache) := by
  rw [run_cons] at hr
  simp only [step] at hr
  replace hr := reach_step cfg hr (List.getElem?_concat_length _ _) (stepTransfer_findByRequestId hne (by simpa using hkey))
  replace hr := reach_step cfg hr (Sys.setCall_getElem? _ (by simp)) (stepTransfer_findFrom (by simpa using hw))
  replace hr := reach_step cfg hr (Sys.setCall_getElem? _ (by simp)) (stepTransfer_getOrCreate (by simpa using hcur))
  replace hr := reach_step cfg hr (Sys.setCall_getElem? _ (by simp)) (stepTransfer_saveSaga _)
  replace hr := reach_step cfg hr (Sys.setCall_getElem? _ (by simp)) (stepTransfer_publishInitiated _)
  exact ⟨_, hr, by simp [getOrCreate_commit_nextSagaId], by simp [getOrCreate_commit_nextSagaId],
    by simp [getOrCreate_commit_nextSagaId], by simp [getOrCreate_commit_nextSagaId], rfl, rfl⟩

/-- The events that run `executeTransfer` alone as call `i`, every await returning. -/
def transferAlone (fromWalletId toWalletId : WalletId) (amount : M) (requestId : Option RequestId) (i : Nat) :
    List (Ev M) :=
  .executeTransfer fromWalletId toWalletId amount requestId :: List.replicate 14 (.step i .ok)

/-- Over the exact store: a transfer run alone, every await returning, from a sender
    whose `withdraw` accepts the amount to a receiver that is ACTIVE in the sender's
    currency or missing, with a request id that has no record: the saga ends COMPLETED
    with both legs committed. -/
theorem transfer_completes_exact (cfg : Config) (s : Sys M) (hs : s.store.Wf) {fromWalletId toWalletId : WalletId}
    {amount : M} {requestId : Option RequestId} (hne : fromWalletId ≠ toWalletId)
    (hkey : ∀ k, requestId = some k → s.store.idempotency k = none)
    {w w' : Wallet M} (hw : s.store.wallets fromWalletId = some w) (hdebit : w.withdraw amount s.now = .ok w')
    (hto : ∀ v, s.store.wallets toWalletId = some v → v.currency = w.currency ∧ v.status = .ACTIVE) :
    (let s' := run cfg s (transferAlone fromWalletId toWalletId amount requestId s.calls.length)
    let g := s.store.nextSagaId
    s'.calls = s.calls ++ [.returned (.response (.transfer ⟨g, .COMPLETED, fromWalletId, toWalletId, amount⟩))] ∧
      s'.store.wallets fromWalletId = some w' ∧
      storedBalance s'.store toWalletId = storedBalance s.store toWalletId + amount ∧
      (∀ u, u ≠ fromWalletId → u ≠ toWalletId → s'.store.wallets u = s.store.wallets u) ∧
      s'.store.sagas g = some ⟨g, fromWalletId, toWalletId, amount, w.currency, .COMPLETED, s.now⟩ ∧
      s'.published = s.published ++ [⟨.TRANSFER_INITIATED, fromWalletId, some amount, .transfer g, s.now⟩,
        ⟨.TRANSFER_COMPLETED, fromWalletId, some amount, .transfer g, s.now⟩] ∧
      s'.cache fromWalletId = none ∧ s'.cache toWalletId = none) := by
  have hwid : w.id = fromWalletId := hs.wallet_id _ _ hw
  obtain ⟨ha, -, -, -, rfl⟩ := Wallet.withdraw_ok.mp hdebit
  obtain ⟨hv, hact, hbal⟩ := getOrCreate_receiver s.now hto
  have hcredit := Wallet.credit_ok.mpr ⟨ha, hact, rfl⟩
  dsimp only
  generalize hrun : run cfg s (transferAlone fromWalletId toWalletId amount requestId s.calls.length) = t
  obtain ⟨s', hrun, hc, hcalls, hstore, hpub, hnow, hcache⟩ := transfer_initiated cfg hne hkey hw hv hrun
  -- the two legs, each followed by its cache invalidation and the saga's reload
  replace hrun := reach_step cfg hrun hc
    (stepTransfer_debitFromSender (debitFromSender_stored (w := w)
      (by simp [hstore, getOrCreate_wallets, Write.wallet?, hne, hw]) (by simpa [hnow] using hdebit)
      (by simp [hstore, getOrCreate_commit_sagas, Write.saga?]) rfl))
  replace hrun := reach_step cfg hrun (Sys.setCall_getElem? _ (by simp [hcalls])) (stepTransfer_invalidateFrom _)
  replace hrun := reach_step cfg hrun (Sys.setCall_getElem? _ (by simp [hcalls]))
    (stepTransfer_findDebited (by simp [hstore, getOrCreate_commit_sagas, Write.saga?]; rfl))
  replace hrun := reach_step cfg hrun (Sys.setCall_getElem? _ (by simp [hcalls]))
    (stepTransfer_creditToReceiver (creditToReceiver_stored
      (by simp [hstore, getOrCreate_wallets, Write.wallet?, hne.symm, hwid]; rfl) (by simpa [hnow] using hcredit)
      (by simp [hstore, getOrCreate_commit_sagas, Write.saga?])))
  replace hrun := reach_step cfg hrun (Sys.setCall_getElem? _ (by simp [hcalls])) (stepTransfer_invalidateTo _)
  replace hrun := reach_step cfg hrun (Sys.setCall_getElem? _ (by simp [hcalls]))
    (stepTransfer_findCredited (by simp [hstore, getOrCreate_commit_sagas, Write.saga?]; rfl) (by rfl))
  -- the COMPLETED save, TRANSFER_COMPLETED, and the record or the return
  replace hrun := reach_step cfg hrun (Sys.setCall_getElem? _ (by simp [hcalls])) (stepTransfer_saveCompleted _)
  replace hrun := reach_step cfg hrun (Sys.setCall_getElem? _ (by simp [hcalls])) (stepTransfer_publishCompleted _)
  replace hrun := reach_step cfg hrun (Sys.setCall_getElem? _ (by simp [hcalls])) rfl
  subst hrun
  cases requestId <;>
    simp +contextual [Sys.stepCall, Sys.stepTransfer, Sys.tx, hcalls, hstore, hpub, hnow, hcache, getOrCreate_wallets,
      getOrCreate_commit_sagas, getOrCreate_id hs, Write.wallet?, Write.saga?, hne, hne.symm, hwid, storedBalance, hbal]

/-- Wallet 0 holds 100, wallet 1 nothing; both ACTIVE, in USD, with no limit. -/
def twoWalletsInCents : Store ℚ :=
  Store.ofWallets [⟨0, 100, "USD", .ACTIVE, none, 0, none⟩, ⟨1, 0, "USD", .ACTIVE, none, 0, none⟩]

end EventWallet
