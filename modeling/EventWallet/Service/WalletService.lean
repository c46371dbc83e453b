/-
  EventWallet.Service.WalletService — the steps of `WalletService`'s calls (`unnamed/part_003`):
  `deposit` and `withdraw` through `executeIdempotentTransaction`, the admin family
  through `executeStateChange` and `setDailyWithdrawalLimit`, and `getBalance`.

  `executeIdempotentTransaction` reads the idempotency record before it takes the
  request lock, and its transaction saves the record with TypeORM `save`, which updates
  a row that is already there. After the transaction, `deposit` and `withdraw` write
  `result.balance` to the cache, also when `result` is a replayed record.

  The admin family reads the wallet with `findById` (the default repository, no lock)
  and saves the whole entity in its transaction: its step `findById` and its step
  `transaction` are separate, and other transactions can commit between them.
-/

import EventWallet.Service.System

namespace EventWallet

namespace Sys

variable {M : Type} [LinearOrderedCommRing M]

/-- One step of `deposit` (`f = .deposit`) or `withdraw` at `pc`. -/
def stepFunds (s : Sys M) (i : Nat) (f : Funds) (walletId : WalletId) (amount : M)
    (requestId : Option RequestId) (fault : Fault) : FundsPc M → Sys M
  | .findByRequestId =>
    match requestId with
    | none => s.setCall i (.funds f walletId amount requestId .begin)
    | some r => s.io i fault id
        (match s.store.idempotency r with
         | some resp => .funds f walletId amount requestId (.setBalanceCache resp)
         | none => .funds f walletId amount requestId .acquireLock)
        (.threw .io)
  | .acquireLock =>
    match requestId with
    | none => s.setCall i (.funds f walletId amount requestId .begin)
    | some r =>
      if s.lockHeld r then s.io i fault id (.threw .concurrentRequest) (.threw .io)
      else s.io i fault (·.setLock r) (.funds f walletId amount requestId .begin) (.threw .io)
  | .begin => s.io i fault id (.funds f walletId amount requestId .transaction) (.threw .io)
  | .transaction =>
    let release (t : Sys M) : Sys M := match requestId with
      | some r => t.delLock r
      | none => t
    match fault, idempotentTx f walletId amount requestId s.store s.now with
    | .fails, _ => (release s).setCall i (.threw .io)
    | _, .error e => (release s).setCall i (.threw e)
    | .ok, .ok (ws, r) => (release (s.commit ws)).setCall i (.funds f walletId amount requestId (.setBalanceCache r))
    | .lost, .ok (ws, _) => (s.commit ws).setCall i (.threw .io)
  | .setBalanceCache r =>
    s.io i fault (·.setBalanceCache walletId r.balance?) (.returned (.response r)) (.threw .io)

/-- One step of `freezeWallet`, `unfreezeWallet`, `closeWallet` or
    `setDailyWithdrawalLimit` at `pc`. -/
def stepAdmin (s : Sys M) (i : Nat) (op : AdminOp M) (walletId : WalletId) (fault : Fault) :
    AdminPc M → Sys M
  | .begin => s.io i fault id (.admin op walletId .findById) (.threw .io)
  | .findById => s.io i fault id (.admin op walletId (.transaction (s.store.wallets walletId))) (.threw .io)
  | .transaction read =>
    s.tx i fault (stateChangeTx op walletId read s.now)
      (if op.invalidatesCache then .admin op walletId .invalidateBalanceCache else .returned .unit) .threw
  | .invalidateBalanceCache => s.io i fault (·.invalidateBalanceCache walletId) (.returned .unit) (.threw .io)

/-- One step of `getBalance` at `pc`. -/
def stepBalance (s : Sys M) (i : Nat) (walletId : WalletId) (fault : Fault) : BalancePc M → Sys M
  | .get =>
    s.io i fault id
      (match s.cached walletId with
       | some e => .returned (.balance e.value walletId)
       | none => .getBalance walletId .findById)
      (.threw .io)
  | .findById =>
    s.io i fault id
      (match s.store.wallets walletId with
       | some w => .getBalance walletId (.setBalanceCache w.balance)
       | none => .returned (.balance (some 0) walletId))
      (.threw .io)
  | .setBalanceCache b =>
    s.io i fault (·.setBalanceCache walletId (some b)) (.returned (.balance (some b) walletId)) (.threw .io)

end Sys

end EventWallet
