/-
  EventWallet.Transfer.States — what a saga's stored state says of its legs, over every run.

  Two writers check the state they move from, in the leg's transaction: the debit leg
  (`markAsDebited`, PENDING → DEBITED) and the compensation leg (`markAsCompensated`,
  DEBITED → COMPENSATED); the insert writes PENDING at a fresh id. The other writes are
  `sagaRepository.save` of an object the call loaded earlier: `executeTransfer`'s
  COMPLETED save and its `catch`'s FAILED save (`markAsFailed` has no guard), and
  `recoverSaga`'s COMPLETED save. They land on whatever the row holds by then.

  Proved, over every run from a well-formed store:
  - `saga_state_matches_legs`: a saga's stored state tells its legs (`PhaseExact`): no
    debit and no refund while PENDING, its one debit from DEBITED on, its one refund
    once COMPENSATED, and never more refunds than debits.

  As built:
  - `completed_saga_saved_failed`: a transfer whose TRANSFER_COMPLETED publish throws
    after the COMPLETED save: its `catch` marks the COMPLETED saga FAILED and saves it.
  - `stuck_saga_stays_debited`: the credit leg and the refund both go through
    `wallet.credit`, which requires an ACTIVE wallet; a DEBITED saga whose receiver is
    not ACTIVE and whose sender is FROZEN or CLOSED is left DEBITED by `recoverSaga`,
    with no write, on every retry.
-/

import EventWallet.Transfer.Legs

namespace EventWallet

variable {M : Type}

/-- The stored state of saga `g`. -/
def sagaState (s : Store M) (g : SagaId) : Option TransferSagaState := (s.sagas g).map (·.state)

/-- What the saga's stored state says of its debits `d` and refunds `r`: none up to the
    debit leg, one debit from DEBITED on, one refund from COMPENSATED on, and never more
    refunds than debits. -/
def PhaseExact : Option TransferSagaState → Nat → Nat → Prop
  | none, d, r | some .PENDING, d, r => d = 0 ∧ r = 0
  | some .DEBITED, d, r => d = 1 ∧ r = 0
  | some .COMPENSATED, d, r => d = 1 ∧ r = 1
  | some _, d, r => r ≤ d ∧ d ≤ 1

theorem PhaseExact.rules : PhaseRules PhaseExact where
  insert h := h
  debit h := by simp only [PhaseExact] at h ⊢; omega
  compensate h := by simp only [PhaseExact] at h ⊢; omega
  final {o} _ _ _ h hst := by
    rcases hst with rfl | rfl <;> rcases o with _ | ⟨_ | _ | _ | _ | _⟩ <;> simp only [PhaseExact] at h ⊢ <;> omega

variable [LinearOrderedCommRing M]

/-- A transfer of 50 from wallet 0 to wallet 1 whose TRANSFER_COMPLETED publish throws
    after the COMPLETED save; the `catch` then runs to its end. -/
def publishThrowsAfterCompleted : List (Ev ℤ) :=
  .executeTransfer 0 1 50 none :: List.replicate 12 (.step 0 .ok) ++ .step 0 .fails :: List.replicate 2 (.step 0 .ok)

/-- In every run, each saga's stored state tells its legs: no debit and no refund while
    PENDING, its one debit from DEBITED on, its one refund once COMPENSATED, and after a
    COMPLETED or FAILED save never more refunds than debits. -/
theorem saga_state_matches_legs (cfg : Config) (st : Store M) (hst : st.Wf)
    (h0 : ∀ g, PhaseExact (sagaState st g) (legs st g .FUNDS_WITHDRAWN) (legs st g .TRANSFER_COMPENSATED))
    (now : Nat) (evs : List (Ev M)) (g : SagaId) :
    let s := (run cfg (Sys.init st now) evs).store
    PhaseExact (sagaState s g) (legs s g .FUNDS_WITHDRAWN) (legs s g .TRANSFER_COMPENSATED) :=
  run_induct cfg (fun s => ∀ g, Phased PhaseExact s.store g)
    (fun _ e hw hl => by
      rcases step_store cfg hw e with hs | ⟨ws, hc, hs⟩ <;> rw [hs]
      · exact hl
      · exact (hc.sagaMove hw).phased PhaseExact.rules hl rfl rfl)
    evs _ (Sys.Wf.init hst now) h0 g

/-- The run of `transfer_credits_and_refunds`: the saga ends COMPENSATED with its one
    debit and its one refund. -/
theorem refund_follows_debit_after_a_throw :
    (twoWallets.Wf ∧ ∀ g, PhaseExact (sagaState twoWallets g) (legs twoWallets g .FUNDS_WITHDRAWN)
        (legs twoWallets g .TRANSFER_COMPENSATED)) ∧
      let s := (run ⟨60000⟩ (Sys.init twoWallets 1000) creditThenThrow).store
      PhaseExact (sagaState s 0) (legs s 0 .FUNDS_WITHDRAWN) (legs s 0 .TRANSFER_COMPENSATED) :=
  ⟨⟨Store.Wf.ofWallets _, fun _ => ⟨rfl, rfl⟩⟩,
    saga_state_matches_legs _ _ (Store.Wf.ofWallets _) (fun _ => ⟨rfl, rfl⟩) _ _ 0⟩

/-- In that run the saga is stored PENDING, DEBITED, COMPLETED, then FAILED. -/
theorem completed_saga_saved_failed :
    (let s := run ⟨60000⟩ (Sys.init twoWallets 1000) publishThrowsAfterCompleted
    (s.store.log.flatMap (·.filterMap Write.saga?)).map (·.state) = [.PENDING, .DEBITED, .COMPLETED, .FAILED] ∧
      sagaState s.store 0 = some .FAILED) := by
  decide

/-- Saga 0 (50 from a FROZEN wallet 0) and saga 1 (50 from a CLOSED wallet 2), both
    DEBITED and to the FROZEN wallet 1. -/
def inactiveLegs : Store ℤ :=
  { Store.ofWallets [⟨0, 50, "USD", .FROZEN, none, 0, none⟩, ⟨1, 0, "USD", .FROZEN, none, 0, none⟩,
      ⟨2, 0, "USD", .CLOSED, none, 0, none⟩] with
    sagas := fun g => if g = 0 then some ⟨0, 0, 1, 50, "USD", .DEBITED, 0⟩
      else if g = 1 then some ⟨1, 2, 1, 50, "USD", .DEBITED, 0⟩ else none
    nextSagaId := 2 }

/-- `processStuckSagas` past the threshold, every call returning: for each saga
    `findById`, the credit leg, the refund. -/
def recoverInactive : List (Ev ℤ) := .processStuckSagas :: List.replicate 7 (.step 0 .ok)

/-- As built: both sagas stay DEBITED, nothing is committed, and the recovery returns, to
    find them again at its next run. -/
theorem stuck_saga_stays_debited :
    (let s := run ⟨60000⟩ (Sys.init inactiveLegs 100000) recoverInactive
    s.calls = [.returned .unit] ∧ sagaState s.store 0 = some .DEBITED ∧ sagaState s.store 1 = some .DEBITED ∧
      s.store.log = [] ∧ Sys.stuckSagas ⟨60000⟩ s = [0, 1]) := by
  decide

end EventWallet
