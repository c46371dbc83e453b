/-
  EventWallet.Service.TransferSagaService — the steps of `executeTransfer` and of
  `recoverSaga` (`transfer-saga.entity.spec.ts`, the service after the entity's tests),
  and of `SagaRecoveryService.processStuckSagas` that calls it.

  `executeTransfer` takes no request lock, saves the saga, publishes TRANSFER_INITIATED
  directly, then in one `try`: the debit leg, the sender's cache invalidation, a reload,
  the credit leg, the receiver's invalidation, a reload and `markAsCompleted`, the
  COMPLETED save, the TRANSFER_COMPLETED publish and the idempotency save. Its `catch`
  reloads the saga and compensates when it is DEBITED, else marks it FAILED; the credit
  leg leaves the saga DEBITED, so a throw anywhere after it also compensates.

  `recoverSaga` loads the saga once; when it is DEBITED it runs the credit leg (which
  checks no saga state), then saves that loaded object as COMPLETED; on any throw it
  compensates. `processStuckSagas` takes the first ten DEBITED sagas not written for
  `sagaStuckThreshold` and recovers them in turn, a throw ending only that saga's turn.
  Its in-process flag only keeps one replica's ticks apart; ticks of different replicas
  overlap, so ticks here may overlap freely.
-/

import EventWallet.Service.WalletService

namespace EventWallet

/-- The configuration the steps read. -/
structure Config where
  /-- `sagaStuckThreshold`, in milliseconds (60000 by default). -/
  sagaStuckThreshold : Nat

namespace Sys

variable {M : Type} [LinearOrderedCommRing M]

/-- One step of `executeTransfer(fromWalletId, toWalletId, amount, requestId)` at `pc`. -/
def stepTransfer (s : Sys M) (i : Nat) (fromWalletId toWalletId : WalletId) (amount : M)
    (requestId : Option RequestId) (fault : Fault) (pc : TransferPc M) : Sys M :=
  let call : TransferPc M → Call M := .transfer fromWalletId toWalletId amount requestId
  match pc with
  | .findByRequestId =>
    let go : Call M := if fromWalletId = toWalletId then .threw .sameWallet else call .findFrom
    match requestId with
    | none => s.setCall i go
    | some r => s.io i fault id
        (match s.store.idempotency r with
         | some resp => .returned (.response resp)
         | none => go)
        (.threw .io)
  | .findFrom =>
    s.io i fault id
      (match s.store.wallets fromWalletId with
       | some w => call (.getOrCreate w.currency)
       | none => .threw (.walletNotFound fromWalletId))
      (.threw .io)
  | .getOrCreate currency =>
    let created := getOrCreate s.store toWalletId currency s.now
    s.tx i fault (.ok created.2)
      (if created.1.currency ≠ currency then .threw (.currencyMismatch currency created.1.currency)
       else call (.saveSaga currency))
      .threw
  | .saveSaga currency =>
    let saga : TransferSaga M := ⟨s.store.nextSagaId, fromWalletId, toWalletId, amount, currency, .PENDING, s.now⟩
    s.tx i fault (.ok [.saga saga]) (call (.publishInitiated saga)) .threw
  | .publishInitiated saga =>
    s.io i fault (·.publish ⟨.TRANSFER_INITIATED, fromWalletId, some amount, .transfer saga.id, s.now⟩)
      (call (.debitFromSender saga)) (.threw .io)
  | .debitFromSender saga =>
    s.tx i fault (debitFromSender saga s.store s.now) (call (.invalidateFrom saga))
      (fun e => call (.findCurrent saga.id e))
  | .invalidateFrom saga =>
    s.io i fault (·.invalidateBalanceCache saga.fromWalletId) (call (.findDebited saga.id))
      (call (.findCurrent saga.id .io))
  | .findDebited sagaId =>
    s.io i fault id
      (match s.store.sagas sagaId with
       | some g => call (.creditToReceiver g)
       | none => call (.findCurrent sagaId (.sagaNotFound sagaId)))
      (call (.findCurrent sagaId .io))
  | .creditToReceiver saga =>
    s.tx i fault (creditToReceiver saga s.store s.now) (call (.invalidateTo saga))
      (fun e => call (.findCurrent saga.id e))
  | .invalidateTo saga =>
    s.io i fault (·.invalidateBalanceCache saga.toWalletId) (call (.findCredited saga.id))
      (call (.findCurrent saga.id .io))
  | .findCredited sagaId =>
    s.io i fault id
      (match s.store.sagas sagaId with
       | some g => match g.markAsCompleted with
         | .ok g => call (.saveCompleted g)
         | .error e => call (.findCurrent sagaId (.saga e))
       | none => call (.findCurrent sagaId (.sagaNotFound sagaId)))
      (call (.findCurrent sagaId .io))
  | .saveCompleted saga =>
    s.tx i fault (.ok [.saga { saga with updatedAt := s.now }]) (call (.publishCompleted saga))
      (fun e => call (.findCurrent saga.id e))
  | .publishCompleted saga =>
    let result : TransferResult M := ⟨saga.id, saga.state, saga.fromWalletId, saga.toWalletId, saga.amount⟩
    s.io i fault (·.publish ⟨.TRANSFER_COMPLETED, fromWalletId, some amount, .transfer saga.id, s.now⟩)
      (if requestId.isSome then call (.saveKey result) else .returned (.response (.transfer result)))
      (call (.findCurrent saga.id .io))
  | .saveKey result =>
    match requestId with
    | some r => s.tx i fault (.ok [.idempotency r (.transfer result)]) (.returned (.response (.transfer result)))
        (fun e => call (.findCurrent result.sagaId e))
    | none => s.setCall i (.returned (.response (.transfer result)))
  | .findCurrent sagaId e =>
    s.io i fault id
      (match s.store.sagas sagaId with
       | some g => if g.state = .DEBITED then call (.compensate g e) else call (.saveFailed g.markAsFailed e)
       | none => .threw (.sagaNotFound sagaId))
      (.threw .io)
  | .compensate saga e =>
    s.tx i fault (compensate saga.id saga.fromWalletId saga.amount s.store s.now) (call (.publishFailed saga e)) .threw
  | .publishFailed saga e =>
    s.io i fault (·.publish ⟨.TRANSFER_FAILED, saga.fromWalletId, some saga.amount, .compensation saga.id, s.now⟩)
      (.threw e) (.threw .io)
  | .saveFailed saga e => s.tx i fault (.ok [.saga { saga with updatedAt := s.now }]) (.threw e) .threw

/-- The next saga's turn in `processStuckSagas`, or its end. -/
def nextRecover : List SagaId → Call M
  | [] => .returned .unit
  | g :: rest => .recovery (.recover rest (.findById g))

/-- One step of `recoverSaga` at `pc`, with `rest` left to recover after it. -/
def stepRecover (s : Sys M) (i : Nat) (rest : List SagaId) (fault : Fault) (pc : RecoverPc M) : Sys M :=
  let call : RecoverPc M → Call M := fun p => .recovery (.recover rest p)
  let next : Call M := nextRecover rest
  match pc with
  | .findById sagaId =>
    s.io i fault id
      (match s.store.sagas sagaId with
       | some g => if g.state = .DEBITED then call (.creditToReceiver g) else next
       | none => next)
      next
  | .creditToReceiver saga =>
    s.tx i fault (creditToReceiver saga s.store s.now) (call (.invalidateTo saga)) (fun _ => call (.compensate saga))
  | .invalidateTo saga =>
    s.io i fault (·.invalidateBalanceCache saga.toWalletId) (call (.saveCompleted saga)) (call (.compensate saga))
  | .saveCompleted saga =>
    match saga.markAsCompleted with
    | .ok g => s.tx i fault (.ok [.saga { g with updatedAt := s.now }]) (call (.publishCompleted saga))
        (fun _ => call (.compensate saga))
    | .error _ => s.setCall i (call (.compensate saga))
  | .publishCompleted saga =>
    s.io i fault (·.publish ⟨.TRANSFER_COMPLETED, saga.fromWalletId, some saga.amount, .transfer saga.id, s.now⟩)
      next (call (.compensate saga))
  | .compensate saga =>
    s.tx i fault (compensate saga.id saga.fromWalletId saga.amount s.store s.now) (call (.publishFailed saga))
      (fun _ => next)
  | .publishFailed saga =>
    s.io i fault (·.publish ⟨.TRANSFER_FAILED, saga.fromWalletId, some saga.amount, .compensation saga.id, s.now⟩)
      next next

/-- `find({ where: { state: DEBITED, updatedAt: LessThan(now − threshold) }, take: 10 })`.
    The query has no ORDER BY; the model answers the first ten in id order. -/
def stuckSagas (cfg : Config) (s : Sys M) : List SagaId :=
  ((List.range s.store.nextSagaId).filter fun g => match s.store.sagas g with
    | some saga => saga.state = .DEBITED ∧ saga.updatedAt + cfg.sagaStuckThreshold < s.now
    | none => false).take 10

/-- One step of `processStuckSagas` at `pc`. -/
def stepRecovery (cfg : Config) (s : Sys M) (i : Nat) (fault : Fault) : RecoveryPc M → Sys M
  | .find => s.io i fault id (nextRecover (stuckSagas cfg s)) (.returned .unit)
  | .recover rest cur => s.stepRecover i rest fault cur

end Sys

end EventWallet
