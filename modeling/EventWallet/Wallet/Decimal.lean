/-
  EventWallet.Wallet.Decimal — amounts with a third decimal against the DECIMAL(20,2)
  columns (`Service.Rounding`).

  The DTOs admit any positive number, and the services compute with it as given: the
  entity's checks, the event row and the saga held in memory all see the amount the
  call was given, while the row PostgreSQL keeps is rounded. The legs that pass their
  checks are spelled out here once (`idempotentTx_withdraw`, `debitFromSender_eq`,
  `creditToReceiver_eq`), for the traces below and for the runs of `Transfer`.

  As built:
  - `sub_cent_amounts_break_the_books`: `withdraw(0.005)` on a stored balance of 0.01
    stores 0.005 rounded to 0.01, while its event records 0.01 withdrawn; a transfer of
    0.015 debits the amount `executeTransfer` holds in memory (100 − 0.015 is stored as
    99.99) and credits the amount the reloaded saga holds, 0.02.
-/

import EventWallet.Wallet.Books
import EventWallet.Service.Rounding

namespace EventWallet

/-! ## Committing legs that pass their checks -/

section Commits

variable {M : Type} [LinearOrderedCommRing M]

/-- A withdrawal without a request id that passes its checks on a stored row commits. -/
theorem idempotentTx_withdraw {s : Store M} {walletId : WalletId} {w w' : Wallet M} {a : M} {now : Nat}
    (hw : s.wallets walletId = some w) (hop : w.withdraw a now = .ok w') :
    idempotentTx .withdraw walletId a none s now = .ok (saveWithEvent w' .FUNDS_WITHDRAWN (some a) (.request none) now ++
      [.outbox (OutboxRow.new walletId .FUNDS_WITHDRAWN ⟨.FUNDS_WITHDRAWN, walletId, some a, .request none, now⟩ now)],
      .balance w'.balance w'.id) := by
  have hl : liftMethod (w.withdraw a now) = .ok w' := liftMethod_ok.mpr hop
  simp only [idempotentTx, Funds.loadWallet, Funds.autoCreateWallet, Funds.operation, hw, Funds.eventType,
    Bool.false_eq_true, if_false, pure_bind, hl]
  rfl

/-- A leg whose wallet operation and saga update pass commits the wallet, the saga
    writes, the event and its outbox row. -/
theorem executeTransactionalStep_eq {sagaId : SagaId} {walletId : WalletId} {amount : M}
    {operation : Wallet M → Method M (Wallet M)} {eventType : WalletEventType} {eventMetadata : EventMeta}
    {updateSaga : Option (TransferSaga M → Except SagaError (TransferSaga M))} {s : Store M} {now : Nat}
    {w w' : Wallet M} {saga : TransferSaga M} (hw : s.wallets walletId = some w) (hop : operation w = .ok w')
    (hs : s.sagas sagaId = some saga) :
    executeTransactionalStep sagaId walletId amount operation eventType eventMetadata updateSaga s now =
      (match updateSaga with
        | some u => (u saga).mapError Err.saga >>= fun g => pure [Write.saga { g with updatedAt := now }]
        | none => pure []) >>= fun sagaWrites => pure ([.wallet w'] ++ sagaWrites ++
          [.event (WalletEvent.new walletId eventType w'.currency (some amount) eventMetadata now),
           .outbox (OutboxRow.new walletId eventType ⟨eventType, walletId, some amount, eventMetadata, now⟩ now)]) := by
  have hl : liftMethod (operation w) = .ok w' := liftMethod_ok.mpr hop
  simp only [executeTransactionalStep, hw, hs, pure_bind, hl]
  rfl

/-- The debit leg on a stored sender and a PENDING saga row that pass commits. -/
theorem debitFromSender_eq {saga g g' : TransferSaga M} {s : Store M} {now : Nat} {w w' : Wallet M}
    (hw : s.wallets saga.fromWalletId = some w) (hop : w.withdraw saga.amount now = .ok w')
    (hs : s.sagas saga.id = some g) (hg : g.markAsDebited = .ok g') :
    debitFromSender saga s now = .ok [.wallet w', .saga { g' with updatedAt := now },
      .event (WalletEvent.new saga.fromWalletId .FUNDS_WITHDRAWN w'.currency (some saga.amount)
        (.debit saga.id saga.toWalletId) now),
      .outbox (OutboxRow.new saga.fromWalletId .FUNDS_WITHDRAWN
        ⟨.FUNDS_WITHDRAWN, saga.fromWalletId, some saga.amount, .debit saga.id saga.toWalletId, now⟩ now)] := by
  rw [debitFromSender, executeTransactionalStep_eq hw hop hs]
  simp only [hg]
  rfl

/-- The credit leg on a stored receiver that accepts the credit commits. -/
theorem creditToReceiver_eq {saga g : TransferSaga M} {s : Store M} {now : Nat} {w w' : Wallet M}
    (hw : s.wallets saga.toWalletId = some w) (hop : w.credit saga.amount = .ok w') (hs : s.sagas saga.id = some g) :
    creditToReceiver saga s now = .ok [.wallet w',
      .event (WalletEvent.new saga.toWalletId .FUNDS_DEPOSITED w'.currency (some saga.amount)
        (.credit saga.id saga.fromWalletId) now),
      .outbox (OutboxRow.new saga.toWalletId .FUNDS_DEPOSITED
        ⟨.FUNDS_DEPOSITED, saga.toWalletId, some saga.amount, .credit saga.id saga.fromWalletId, now⟩ now)] := by
  rw [creditToReceiver, executeTransactionalStep_eq hw hop hs]
  rfl

end Commits

/-- Wallet 0 holding 0.01. -/
def centWallet : Store ℚ := Store.ofWallets [⟨0, 1 / 100, "USD", .ACTIVE, none, 0, none⟩]

/-- Wallets 0 (100) and 1 (0), and the saga `executeTransfer(0, 1, 0.015)` saved: its
    amount stored as 0.02. -/
def transferStore : Store ℚ :=
  { Store.ofWallets [⟨0, 100, "USD", .ACTIVE, none, 0, none⟩, ⟨1, 0, "USD", .ACTIVE, none, 0, none⟩] with
    sagas := fun i => if i = 0 then some ⟨0, 0, 1, decimal2 (3 / 200), "USD", .PENDING, 0⟩ else none
    nextSagaId := 1 }

/-- The saga as `executeTransfer` holds it after `save`: the amount it was given. -/
def heldSaga : TransferSaga ℚ := ⟨0, 0, 1, 3 / 200, "USD", .PENDING, 0⟩

/-- As built: a withdrawal of 0.005 from a stored 0.01 leaves the stored balance at 0.01
    and records 0.01 withdrawn; a transfer of 0.015 from 100 to 0 stores 99.99 for the
    sender and 0.02 for the receiver. -/
theorem sub_cent_amounts_break_the_books :
    (∃ ws r, idempotentTx .withdraw 0 (1 / 200 : ℚ) none centWallet 0 = .ok (ws, r) ∧
      storedBalance (centWallet.commit (ws.map Write.stored)) 0 = storedBalance centWallet 0 ∧
      (ws.map Write.stored).filterMap (fun x => (Write.event? x).bind (·.amount)) = [1 / 100]) ∧
    ∃ ws g ws', debitFromSender heldSaga transferStore 0 = .ok ws ∧
      (transferStore.commit (ws.map Write.stored)).sagas 0 = some g ∧
      creditToReceiver g (transferStore.commit (ws.map Write.stored)) 0 = .ok ws' ∧
      storedBalance (transferStore.commit (ws.map Write.stored)) 0 = 9999 / 100 ∧
      storedBalance ((transferStore.commit (ws.map Write.stored)).commit (ws'.map Write.stored)) 1 = 1 / 50 := by
  have hop : (⟨0, 1 / 100, "USD", .ACTIVE, none, 0, none⟩ : Wallet ℚ).withdraw (1 / 200) 0 =
      .ok (Wallet.withdrawn ⟨0, 1 / 100, "USD", .ACTIVE, none, 0, none⟩ (1 / 200) 0) :=
    Wallet.withdraw_ok.mpr ⟨by norm_num, rfl, (fun _ h => nomatch h), by norm_num, rfl⟩
  have hdebit : (⟨0, 100, "USD", .ACTIVE, none, 0, none⟩ : Wallet ℚ).withdraw heldSaga.amount 0 =
      .ok (Wallet.withdrawn ⟨0, 100, "USD", .ACTIVE, none, 0, none⟩ (3 / 200) 0) :=
    Wallet.withdraw_ok.mpr ⟨by norm_num [heldSaga], rfl, (fun _ h => nomatch h), by norm_num [heldSaga], rfl⟩
  have h2 : decimal2 (3 / 200) = 1 / 50 := by norm_num [decimal2, round_eq]
  refine ⟨⟨_, _, idempotentTx_withdraw rfl hop, ?_, ?_⟩, ?_⟩
  · simp [storedBalance, Store.commit, Store.apply, saveWithEvent, Write.stored, Wallet.stored, Wallet.withdrawn,
      centWallet, Store.ofWallets]
    norm_num [decimal2, round_eq]
  · norm_num [saveWithEvent, Write.stored, List.filterMap_cons, Write.event?, WalletEvent.new, Option.filter, decimal2,
      round_eq]
  · -- the credit leg reads the saga the debit leg stored, its amount rounded to 0.02
    have hd := debitFromSender_eq (show transferStore.wallets heldSaga.fromWalletId = some _ from rfl) hdebit
      (show transferStore.sagas heldSaga.id = some _ from rfl) rfl
    refine ⟨_, ⟨0, 0, 1, 1 / 50, "USD", .DEBITED, 0⟩, _, hd, ?_,
      creditToReceiver_eq (g := ⟨0, 0, 1, 1 / 50, "USD", .DEBITED, 0⟩) (w := ⟨1, 0, "USD", .ACTIVE, none, 0, none⟩) ?_
        (Wallet.credit_ok.mpr ⟨by norm_num, rfl, rfl⟩) ?_, ?_, ?_⟩
    all_goals simp [Store.commit, Store.apply, Write.stored, Wallet.stored, TransferSaga.markAsDebited, heldSaga,
      transferStore, Store.ofWallets, storedBalance, h2] <;> norm_num [decimal2, round_eq]

end EventWallet
