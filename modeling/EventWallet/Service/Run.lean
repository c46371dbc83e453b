/-
  EventWallet.Service.Run — the whole service as one system: the outbox relay
  (`OutboxRelayService.handleCron`), the environment's events, and `run`, which folds a
  list of them.

  The environment starts calls at the services' entry points, moves call `i` to its
  next await (`step i f`: `f` says how the I/O there ends), kills a call's process
  (`crash i`: its in-memory state is gone, what it wrote and the Redis keys it set stay),
  lets time pass, and runs or drops a post-commit publish (`flush`). Any interleaving of
  any calls, with any I/O failing at any await and any process dying between two, is a
  list of events.

  The relay publishes the unpublished rows by `createdAt`, at most 100 a tick, and
  marks the ones whose publish returned in one update.
-/

import EventWallet.Service.TransferSagaService

namespace EventWallet

namespace Sys

variable {M : Type} [LinearOrderedCommRing M]

/-- The rows `handleCron`'s `findUnpublished(100)` returns. -/
def unpublished (s : Sys M) : List Nat := findUnpublished s.store.outbox s.store.publishedIds 100

/-- One step of `handleCron` at `pc`. -/
def stepRelay (s : Sys M) (i : Nat) (fault : Fault) : RelayPc → Sys M
  | .findUnpublished =>
    s.io i fault id (if s.unpublished = [] then .returned .unit else .relay (.publish s.unpublished []))
      (.returned .unit)
  | .publish [] ids => s.setCall i (.relay (.markAsPublished ids))
  | .publish (j :: rest) ids =>
    match s.store.outbox[j]? with
    | some row => s.io i fault (·.publish row.payload) (.relay (.publish rest (ids ++ [j])))
        (.relay (.publish rest ids))
    | none => s.setCall i (.relay (.publish rest ids))
  | .markAsPublished ids =>
    if ids = [] then s.setCall i (.returned .unit)
    else s.tx i fault (.ok [.published ids]) (.returned .unit) (fun _ => .returned .unit)

/-- One step of the call at `i`. -/
def stepCall (cfg : Config) (s : Sys M) (i : Nat) (fault : Fault) : Call M → Sys M
  | .funds f walletId amount requestId pc => s.stepFunds i f walletId amount requestId fault pc
  | .admin op walletId pc => s.stepAdmin i op walletId fault pc
  | .getBalance walletId pc => s.stepBalance i walletId fault pc
  | .transfer fromWalletId toWalletId amount requestId pc =>
    s.stepTransfer i fromWalletId toWalletId amount requestId fault pc
  | .recovery pc => s.stepRecovery cfg i fault pc
  | .relay pc => s.stepRelay i fault pc
  | .returned _ | .threw _ | .crashed => s

def spawn (s : Sys M) (c : Call M) : Sys M := { s with calls := s.calls ++ [c] }

end Sys

inductive Ev (M : Type) where
  | deposit (walletId : WalletId) (amount : M) (requestId : Option RequestId)
  | withdraw (walletId : WalletId) (amount : M) (requestId : Option RequestId)
  | freezeWallet (walletId : WalletId)
  | unfreezeWallet (walletId : WalletId)
  | closeWallet (walletId : WalletId)
  | setDailyWithdrawalLimit (walletId : WalletId) (limit : Option M)
  | getBalance (walletId : WalletId)
  | executeTransfer (fromWalletId toWalletId : WalletId) (amount : M) (requestId : Option RequestId)
  | processStuckSagas
  | handleCron
  | step (i : Nat) (f : Fault)
  | crash (i : Nat)
  | tick (dt : Nat)
  | flush (i : Nat) (ok : Bool)
  deriving DecidableEq, Repr

section
variable {M : Type} [LinearOrderedCommRing M]

def step (cfg : Config) (s : Sys M) : Ev M → Sys M
  | .deposit w a r => s.spawn (.funds .deposit w a r .findByRequestId)
  | .withdraw w a r => s.spawn (.funds .withdraw w a r .findByRequestId)
  | .freezeWallet w => s.spawn (.admin .freeze w .begin)
  | .unfreezeWallet w => s.spawn (.admin .unfreeze w .begin)
  | .closeWallet w => s.spawn (.admin .close w .begin)
  | .setDailyWithdrawalLimit w l => s.spawn (.admin (.setDailyWithdrawalLimit l) w .begin)
  | .getBalance w => s.spawn (.getBalance w .get)
  | .executeTransfer f t a r => s.spawn (.transfer f t a r .findByRequestId)
  | .processStuckSagas => s.spawn (.recovery .find)
  | .handleCron => s.spawn (.relay .findUnpublished)
  | .step i f =>
    match s.calls[i]? with
    | some c => s.stepCall cfg i f c
    | none => s
  | .crash i =>
    match s.calls[i]? with
    | some (.returned _) | some (.threw _) | none => s
    | some _ => s.setCall i .crashed
  | .tick dt => { s with now := s.now + dt }
  | .flush i ok =>
    match s.postCommit[i]? with
    | some p => { s with postCommit := s.postCommit.eraseIdx i, published := if ok then s.published ++ [p] else s.published }
    | none => s

def run (cfg : Config) (s : Sys M) (evs : List (Ev M)) : Sys M := evs.foldl (step cfg) s

@[simp] theorem run_nil (cfg : Config) (s : Sys M) : run cfg s [] = s := rfl

@[simp] theorem run_cons (cfg : Config) (s : Sys M) (e : Ev M) (evs : List (Ev M)) :
    run cfg s (e :: evs) = run cfg (step cfg s e) evs := rfl

theorem run_append (cfg : Config) (s : Sys M) (as bs : List (Ev M)) :
    run cfg s (as ++ bs) = run cfg (run cfg s as) bs := List.foldl_append _ _ _ _

end

end EventWallet
