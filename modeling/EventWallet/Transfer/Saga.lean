/-
  EventWallet.Transfer.Saga — the transfer saga entity (`transfer-saga.entity.ts`):
  its state and the four `mark*` methods.

  Three methods check the state they leave (`markAsDebited` from PENDING,
  `markAsCompleted` and `markAsCompensated` from DEBITED); `markAsFailed` has no guard,
  and the entity's own unit test moves DEBITED to FAILED with it.
-/

import EventWallet.Wallet.Entity

namespace EventWallet

inductive TransferSagaState where
  | PENDING
  | DEBITED
  | COMPLETED
  | COMPENSATED
  | FAILED
  deriving DecidableEq, Repr

/-- The thrown `Cannot mark as …/Cannot compensate from state: …` errors, by method. -/
inductive SagaError where
  | cannotMarkAsDebited (state : TransferSagaState)
  | cannotMarkAsCompleted (state : TransferSagaState)
  | cannotCompensate (state : TransferSagaState)
  deriving DecidableEq, Repr

structure TransferSaga (M : Type) where
  id : SagaId
  fromWalletId : WalletId
  toWalletId : WalletId
  amount : M
  currency : String
  state : TransferSagaState
  /-- The instant of the row's last write (`@UpdateDateColumn`). -/
  updatedAt : Nat
  deriving DecidableEq, Repr

namespace TransferSaga

variable {M : Type}

def markAsDebited (s : TransferSaga M) : Except SagaError (TransferSaga M) :=
  if s.state ≠ .PENDING then throw (.cannotMarkAsDebited s.state) else pure { s with state := .DEBITED }

def markAsCompleted (s : TransferSaga M) : Except SagaError (TransferSaga M) :=
  if s.state ≠ .DEBITED then throw (.cannotMarkAsCompleted s.state) else pure { s with state := .COMPLETED }

def markAsCompensated (s : TransferSaga M) : Except SagaError (TransferSaga M) :=
  if s.state ≠ .DEBITED then throw (.cannotCompensate s.state) else pure { s with state := .COMPENSATED }

def markAsFailed (s : TransferSaga M) : TransferSaga M := { s with state := .FAILED }

@[simp] theorem markAsDebited_ok {s s' : TransferSaga M} :
    s.markAsDebited = .ok s' ↔ s.state = .PENDING ∧ s' = { s with state := .DEBITED } := by
  unfold markAsDebited; split <;> simp_all [throw, throwThe, MonadExceptOf.throw, pure, Except.pure, eq_comm]

@[simp] theorem markAsCompleted_ok {s s' : TransferSaga M} :
    s.markAsCompleted = .ok s' ↔ s.state = .DEBITED ∧ s' = { s with state := .COMPLETED } := by
  unfold markAsCompleted; split <;> simp_all [throw, throwThe, MonadExceptOf.throw, pure, Except.pure, eq_comm]

@[simp] theorem markAsCompensated_ok {s s' : TransferSaga M} :
    s.markAsCompensated = .ok s' ↔ s.state = .DEBITED ∧ s' = { s with state := .COMPENSATED } := by
  unfold markAsCompensated; split <;> simp_all [throw, throwThe, MonadExceptOf.throw, pure, Except.pure, eq_comm]

end TransferSaga

end EventWallet
