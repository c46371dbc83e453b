/-
  EventWallet.Transfer.Catch — the two ways out of `executeTransfer`'s `catch`, each
  run alone with every await returning.

  The `catch` reloads the saga. A throw after the debit leg finds it DEBITED and
  compensates: the refund leg (`compensate`, a `wallet.credit` on the sender) and
  TRANSFER_FAILED. A throw before finds it PENDING and marks it FAILED. Either way the
  error is rethrown and no idempotency record is written, so a retry under the same
  request id runs again.

  Proved, from any well-formed store, over the exact store (the `_exact` theorems) and
  over PostgreSQL's (`runDB`) from a state and for an amount in cents:
  - `transfer_to_inactive_receiver_refunds`: a transfer to a receiver in the sender's
    currency that is not ACTIVE is debited; its credit leg throws WalletNotActive with
    the receiver's status, and the refund puts the amount back. The sender holds the
    balance it held, its daily total still counting the withdrawal; no other wallet
    changes; the saga ends COMPENSATED; TRANSFER_INITIATED then TRANSFER_FAILED are
    published; the call throws WalletNotActive.
  - `transfer_refused_at_debit_fails`: a transfer whose sender's `withdraw` throws moves
    no money: the saga ends FAILED, only TRANSFER_INITIATED is published, and the call
    throws the entity's error. A missing receiver is created all the same, its
    `getOrCreate` having committed before the saga was saved.
-/

import EventWallet.Transfer.Completes

namespace EventWallet

variable {M : Type} [LinearOrderedCommRing M]

/-! ## Legs that throw -/

theorem Wallet.credit_inactive {w : Wallet M} {a : M} (ha : 0 < a) (hi : w.status ≠ .ACTIVE) :
    w.credit a = .error (.WalletNotActive w.status, w) := by
  simp [Wallet.credit, Wallet.validatePositiveAmount, Wallet.ensureWalletActive, not_le.mpr ha, hi]
  rfl

/-- A leg whose wallet operation throws commits nothing and rethrows the entity's error. -/
theorem executeTransactionalStep_refused {sagaId : SagaId} {walletId : WalletId} {amount : M}
    {operation : Wallet M → Method M (Wallet M)} {eventType : WalletEventType} {eventMetadata : EventMeta}
    {updateSaga : Option (TransferSaga M → Except SagaError (TransferSaga M))} {s : Store M} {now : Nat}
    {w : Wallet M} {e : WalletError M × Wallet M} (hw : s.wallets walletId = some w) (hop : operation w = .error e) :
    executeTransactionalStep sagaId walletId amount operation eventType eventMetadata updateSaga s now =
      .error (.wallet e.1) := by
  simp [executeTransactionalStep, hw, hop, liftMethod, Except.mapError, bind, Except.bind, pure, Except.pure]

/-- The refund leg on a DEBITED saga row and a sender that accepts the credit. -/
theorem compensate_stored {saga : TransferSaga M} {st : Store M} {now : Nat} {w w' : Wallet M}
    (hw : st.wallets saga.fromWalletId = some w) (hop : w.credit saga.amount = .ok w') (hs : st.sagas saga.id = some saga)
    (hd : saga.state = .DEBITED) :
    compensate saga.id saga.fromWalletId saga.amount st now = .ok [.wallet w',
      .saga { saga with state := .COMPENSATED, updatedAt := now },
      .event (WalletEvent.new saga.fromWalletId .TRANSFER_COMPENSATED w'.currency (some saga.amount)
        (.compensation saga.id) now),
      .outbox (OutboxRow.new saga.fromWalletId .TRANSFER_COMPENSATED
        ⟨.TRANSFER_COMPENSATED, saga.fromWalletId, some saga.amount, .compensation saga.id, now⟩ now)] := by
  rw [compensate, executeTransactionalStep_eq hw hop hs]
  simp only [TransferSaga.markAsCompensated_ok.mpr ⟨hd, rfl⟩]
  rfl

/-- `getOrCreate` records no idempotency result. -/
theorem getOrCreate_idempotency (st : Store M) (id : WalletId) (c : String) (now : Nat) :
    ((getOrCreate st id c now).2.foldl Store.apply st).idempotency = st.idempotency := by
  unfold getOrCreate
  split
  · rfl
  · split <;> rfl

/-! ## The catch's steps -/

section Catch

variable {s : Sys M} {i : Nat} {fr dst : WalletId} {a : M} {r : Option RequestId}

theorem stepTransfer_debitFromSender_error {saga : TransferSaga M} {e : Err M}
    (h : debitFromSender saga s.store s.now = .error e) :
    s.stepTransfer i fr dst a r .ok (.debitFromSender saga) =
      s.setCall i (.transfer fr dst a r (.findCurrent saga.id e)) := by
  simp [Sys.stepTransfer, Sys.tx, h]

theorem stepTransfer_creditToReceiver_error {saga : TransferSaga M} {e : Err M}
    (h : creditToReceiver saga s.store s.now = .error e) :
    s.stepTransfer i fr dst a r .ok (.creditToReceiver saga) =
      s.setCall i (.transfer fr dst a r (.findCurrent saga.id e)) := by
  simp [Sys.stepTransfer, Sys.tx, h]

theorem stepTransfer_findCurrent_debited {g : SagaId} {e : Err M} {x : TransferSaga M} (h : s.store.sagas g = some x)
    (hd : x.state = .DEBITED) :
    s.stepTransfer i fr dst a r .ok (.findCurrent g e) = s.setCall i (.transfer fr dst a r (.compensate x e)) := by
  simp [Sys.stepTransfer, Sys.io, h, hd]

theorem stepTransfer_findCurrent_undebited {g : SagaId} {e : Err M} {x : TransferSaga M}
    (h : s.store.sagas g = some x) (hd : x.state ≠ .DEBITED) :
    s.stepTransfer i fr dst a r .ok (.findCurrent g e) =
      s.setCall i (.transfer fr dst a r (.saveFailed x.markAsFailed e)) := by
  simp [Sys.stepTransfer, Sys.io, h, hd]

theorem stepTransfer_compensate {saga : TransferSaga M} {e : Err M} {ws : List (Write M)}
    (h : compensate saga.id saga.fromWalletId saga.amount s.store s.now = .ok ws) :
    s.stepTransfer i fr dst a r .ok (.compensate saga e) =
      (s.commit ws).setCall i (.transfer fr dst a r (.publishFailed saga e)) := by
  simp [Sys.stepTransfer, Sys.tx, h]

end Catch

/-- The last awaits of the `catch` rethrow: their next call names neither the wallets, the
    amount nor the request id, so these are arguments here. -/
theorem stepTransfer_publishFailed {s : Sys M} {i : Nat} (fr dst : WalletId) (a : M) (r : Option RequestId)
    (saga : TransferSaga M) (e : Err M) :
    s.stepTransfer i fr dst a r .ok (.publishFailed saga e) =
      (s.publish ⟨.TRANSFER_FAILED, saga.fromWalletId, some saga.amount, .compensation saga.id, s.now⟩).setCall i
        (.threw e) :=
  rfl

theorem stepTransfer_saveFailed {s : Sys M} {i : Nat} (fr dst : WalletId) (a : M) (r : Option RequestId)
    (saga : TransferSaga M) (e : Err M) :
    s.stepTransfer i fr dst a r .ok (.saveFailed saga e) =
      (s.commit [.saga { saga with updatedAt := s.now }]).setCall i (.threw e) :=
  rfl

/-! ## The two outcomes -/

/-- Over the exact store: a transfer run alone, every await returning, to a receiver
    that is in the sender's currency but not ACTIVE, from a sender whose `withdraw`
    accepts the amount: the credit leg throws, the `catch` finds the saga DEBITED and
    refunds the sender. -/
theorem transfer_to_inactive_receiver_refunds_exact (cfg : Config) (s : Sys M) (hs : s.store.Wf)
    {fromWalletId toWalletId : WalletId} {amount : M} {requestId : Option RequestId} (hne : fromWalletId ≠ toWalletId)
    (hkey : ∀ k, requestId = some k → s.store.idempotency k = none)
    {w w' v : Wallet M} (hw : s.store.wallets fromWalletId = some w) (hdebit : w.withdraw amount s.now = .ok w')
    (hv : s.store.wallets toWalletId = some v) (hcur : v.currency = w.currency) (hinact : v.status ≠ .ACTIVE) :
    (let s' := run cfg s (.executeTransfer fromWalletId toWalletId amount requestId ::
      List.replicate 12 (.step s.calls.length .ok))
    let g := s.store.nextSagaId
    s'.calls = s.calls ++ [.threw (.wallet (.WalletNotActive v.status))] ∧
      s'.store.wallets fromWalletId = some { w' with balance := w.balance } ∧
      (∀ u, u ≠ fromWalletId → s'.store.wallets u = s.store.wallets u) ∧
      s'.store.sagas g = some ⟨g, fromWalletId, toWalletId, amount, w.currency, .COMPENSATED, s.now⟩ ∧
      s'.published = s.published ++ [⟨.TRANSFER_INITIATED, fromWalletId, some amount, .transfer g, s.now⟩,
        ⟨.TRANSFER_FAILED, fromWalletId, some amount, .compensation g, s.now⟩] ∧
      s'.cache fromWalletId = none ∧
      ∀ k, requestId = some k → s'.store.idempotency k = none) := by
  have hwid : w.id = fromWalletId := hs.wallet_id _ _ hw
  obtain ⟨ha, hact, -, -, rfl⟩ := Wallet.withdraw_ok.mp hdebit
  have hrefund : (w.withdrawn amount s.now).credit amount = .ok _ := Wallet.credit_ok.mpr ⟨ha, hact, rfl⟩
  dsimp only
  generalize hrun : run cfg s _ = t
  -- up to the debit leg, as on the ok path; the receiver exists, so nothing is created
  obtain ⟨s', hrun, hc, hcalls, hstore, hpub, hnow, hcache⟩ :=
    transfer_initiated cfg hne hkey hw (by simpa [getOrCreate_fst hv] using hcur) hrun
  replace hrun := reach_step cfg hrun hc
    (stepTransfer_debitFromSender (debitFromSender_stored (w := w)
      (by simp [hstore, getOrCreate_wallets, Write.wallet?, hne, hw]) (by simpa [hnow] using hdebit)
      (by simp [hstore, getOrCreate_commit_sagas, Write.saga?]) rfl))
  replace hrun := reach_step cfg hrun (Sys.setCall_getElem? _ (by simp [hcalls])) (stepTransfer_invalidateFrom _)
  replace hrun := reach_step cfg hrun (Sys.setCall_getElem? _ (by simp [hcalls]))
    (stepTransfer_findDebited (by simp [hstore, getOrCreate_commit_sagas, Write.saga?]; rfl))
  -- the credit leg throws; the catch finds the saga DEBITED and refunds
  replace hrun := reach_step cfg hrun (Sys.setCall_getElem? _ (by simp [hcalls]))
    (stepTransfer_creditToReceiver_error (executeTransactionalStep_refused (w := v)
      (by simp [hstore, getOrCreate_wallets, getOrCreate_fst hv, Write.wallet?, hne.symm, hwid, hv])
      (Wallet.credit_inactive ha hinact)))
  replace hrun := reach_step cfg hrun (Sys.setCall_getElem? _ (by simp [hcalls]))
    (stepTransfer_findCurrent_debited (by simp [hstore, getOrCreate_commit_sagas, Write.saga?]; rfl) rfl)
  replace hrun := reach_step cfg hrun (Sys.setCall_getElem? _ (by simp [hcalls]))
    (stepTransfer_compensate (compensate_stored (by simp [hstore, getOrCreate_wallets, Write.wallet?, hwid]) hrefund
      (by simp [hstore, getOrCreate_commit_sagas, Write.saga?]) rfl))
  replace hrun := reach_step cfg hrun (Sys.setCall_getElem? _ (by simp [hcalls]))
    (stepTransfer_publishFailed fromWalletId toWalletId amount requestId _ _)
  subst hrun
  simp +contextual [hcalls, hstore, hpub, hnow, hcache, getOrCreate_wallets, getOrCreate_commit_sagas, getOrCreate_fst hv,
    Write.wallet?, Write.saga?, hwid]
  intro k hk
  simp [Store.commit, Store.apply, hkey k hk]

/-- Wallet 0 holds 100 USD and is ACTIVE; wallet 1, in USD, is FROZEN. -/
def frozenReceiver : Store ℚ :=
  Store.ofWallets [⟨0, 100, "USD", .ACTIVE, none, 0, none⟩, ⟨1, 0, "USD", .FROZEN, none, 0, none⟩]

/-- Over the exact store: a transfer run alone, every await returning, from a sender
    whose `withdraw` throws, to a receiver that is in the sender's currency or missing:
    the `catch` finds the saga PENDING and marks it FAILED. No money moves; the
    receiver's `getOrCreate` has committed all the same. -/
theorem transfer_refused_at_debit_fails_exact (cfg : Config) (s : Sys M)
    {fromWalletId toWalletId : WalletId} {amount : M} {requestId : Option RequestId} (hne : fromWalletId ≠ toWalletId)
    (hkey : ∀ k, requestId = some k → s.store.idempotency k = none)
    {w : Wallet M} {e : WalletError M × Wallet M} (hw : s.store.wallets fromWalletId = some w)
    (hrefused : w.withdraw amount s.now = .error e)
    (hto : ∀ v, s.store.wallets toWalletId = some v → v.currency = w.currency) :
    (let s' := run cfg s (.executeTransfer fromWalletId toWalletId amount requestId ::
      List.replicate 8 (.step s.calls.length .ok))
    let g := s.store.nextSagaId
    let created := getOrCreate s.store toWalletId w.currency s.now
    s'.calls = s.calls ++ [.threw (.wallet e.1)] ∧
      s'.store.wallets toWalletId = some created.1 ∧
      (∀ u, u ≠ toWalletId → s'.store.wallets u = s.store.wallets u) ∧
      s'.store.events = s.store.events ++ created.2.filterMap Write.event? ∧
      s'.store.outbox = s.store.outbox ∧
      s'.store.sagas g = some ⟨g, fromWalletId, toWalletId, amount, w.currency, .FAILED, s.now⟩ ∧
      s'.published = s.published ++ [⟨.TRANSFER_INITIATED, fromWalletId, some amount, .transfer g, s.now⟩] ∧
      ∀ k, requestId = some k → s'.store.idempotency k = none) := by
  have hcur := getOrCreate_currency s.now hto
  dsimp only
  generalize hrun : run cfg s _ = t
  obtain ⟨s', hrun, hc, hcalls, hstore, hpub, hnow, -⟩ := transfer_initiated cfg hne hkey hw hcur hrun
  -- the debit leg throws; the catch finds the saga PENDING and saves it FAILED
  replace hrun := reach_step cfg hrun hc
    (stepTransfer_debitFromSender_error (executeTransactionalStep_refused (w := w)
      (by simp [hstore, getOrCreate_wallets, Write.wallet?, hne, hw]) (by simpa [hnow] using hrefused)))
  replace hrun := reach_step cfg hrun (Sys.setCall_getElem? _ (by simp [hcalls]))
    (stepTransfer_findCurrent_undebited (by simp [hstore, getOrCreate_commit_sagas, Write.saga?]; rfl) (by simp))
  replace hrun := reach_step cfg hrun (Sys.setCall_getElem? _ (by simp [hcalls]))
    (stepTransfer_saveFailed fromWalletId toWalletId amount requestId _ _)
  subst hrun
  simp +contextual [hcalls, hstore, hpub, hnow, getOrCreate_wallets, getOrCreate_commit_sagas,
    (getOrCreate_writes s.store toWalletId w.currency s.now).2.1, Write.wallet?, Write.saga?, Write.event?, Write.outbox?,
    hne, TransferSaga.markAsFailed]
  intro k hk
  simp [Store.commit, Store.apply, getOrCreate_idempotency, hkey k hk]

end EventWallet
