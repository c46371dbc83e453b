/-
  EventWallet.Store.Locks — the row locks the store's transactions take, and who waits
  for whom (`WalletService`, `WalletRepository.getOrCreate`, `TransferSagaService`,
  `SagaRecoveryService`; PostgreSQL under READ COMMITTED).

  A transaction's statements that can wait are listed in the order its body runs them
  (`Tx.locks`): `SELECT … FOR UPDATE` and `UPDATE` lock their row, and an `INSERT`
  waits on a competing uncommitted row with the same key (`INSERT … ON CONFLICT` on
  `wallets.id`, the `idempotency_keys` primary key). `wallet_events` and
  `outbox_events` rows get generated keys and no entity declares a relation, so their
  inserts wait on nothing; a plain `findOne` locks nothing. A lock is exclusive and
  held until its transaction ends. `SagaRecoveryService` runs the legs of
  `recoverSaga` and saga saves, the same transactions as `executeTransfer`.

  A lock state (`LockState`) is any set of open transactions, each some way through
  its statements, with a lock table in which every lock has at most one holder, and a
  holder has run a statement that asks for it (a statement that found no row took
  nothing, so a transaction may hold fewer). A transaction waits for whoever holds the
  lock its next statement asks for.

  Proved:
  - `store_transactions_deadlock_free`: every transaction locks at most one wallet and
    takes its wallet lock before any saga or key lock; in every lock state the
    wait-for graph has no cycle. Each transaction asks for its locks in rank order,
    wallets below sagas and keys, and asks again only for a lock it asked for
    (`Tx.locks_ordered`); so along two consecutive wait edges the rank of the lock
    asked for grows (`LockState.rank_lt_of_waitsFor`).
-/

import EventWallet.Wallet.Entity
import Mathlib.Logic.Relation

namespace EventWallet

/-- A lock a statement can wait on: a `wallets` row, a `transfer_sagas` row, an
    `idempotency_keys` key. -/
inductive Lock where
  | wallet (id : WalletId)
  | saga (id : SagaId)
  | key (requestId : RequestId)
  deriving DecidableEq, Repr

def Lock.isWallet : Lock → Bool
  | .wallet _ => true
  | _ => false

/-- The order every transaction takes its locks in: its wallet first. -/
def Lock.rank : Lock → Nat
  | .wallet _ => 0
  | .saga _ | .key _ => 1

/-- A transaction of the services, under the source's name for its body. -/
inductive Tx where
  /-- `executeIdempotentTransaction` of `deposit` (`autoCreateWallet`) and `withdraw`. -/
  | executeIdempotentTransaction (walletId : WalletId) (autoCreateWallet : Bool) (requestId : Option RequestId)
  /-- `executeStateChange` of `freezeWallet`, `unfreezeWallet` and `closeWallet`. -/
  | executeStateChange (walletId : WalletId)
  /-- `setDailyWithdrawalLimit`'s own `execute` callback. -/
  | setDailyWithdrawalLimit (walletId : WalletId)
  /-- `getOrCreate(toWalletId, currency)` without a manager: `runInTransaction`. -/
  | getOrCreate (walletId : WalletId)
  /-- The debit, credit and refund legs; `updateSaga` for the debit and the refund. -/
  | executeTransactionalStep (walletId : WalletId) (sagaId : SagaId) (updateSaga : Bool)
  /-- `sagaRepository.save(saga)`: the PENDING insert, the COMPLETED and FAILED saves. -/
  | saveSaga (sagaId : SagaId)
  /-- `idempotencyRepository.save(key)` at the end of `executeTransfer`. -/
  | saveIdempotencyKey (requestId : RequestId)
  deriving DecidableEq, Repr

/-- `getOrCreate(id, currency, em)`: `findOne` with `pessimistic_write`, the
    `INSERT … ON CONFLICT ("id") DO NOTHING`, `findOne` with `pessimistic_write`. -/
def getOrCreateLocks (walletId : WalletId) : List Lock := [.wallet walletId, .wallet walletId, .wallet walletId]

/-- The locks a transaction's statements ask for, in order. -/
def Tx.locks : Tx → List Lock
  | .executeIdempotentTransaction w autoCreateWallet r =>
    -- `getOrCreate` or `findByIdWithLock`; `saveWithEvent`'s `save(Wallet)`; the key
    (if autoCreateWallet then getOrCreateLocks w else [.wallet w]) ++ .wallet w :: r.toList.map .key
  | .executeStateChange w | .setDailyWithdrawalLimit w => [.wallet w]
  | .getOrCreate w => getOrCreateLocks w
  | .executeTransactionalStep w g updateSaga =>
    -- `findOne` with `pessimistic_write`, `save(wallet)`, `save(saga)`
    [.wallet w, .wallet w] ++ if updateSaga then [.saga g] else []
  | .saveSaga g => [.saga g]
  | .saveIdempotencyKey r => [.key r]

/-- Locks asked for in rank order, a lock asked again only after itself. -/
def LocksOrdered (ls : List Lock) : Prop := ls.Pairwise fun a b => a = b ∨ a.rank < b.rank

theorem Tx.locks_ordered (t : Tx) : LocksOrdered t.locks := by
  unfold LocksOrdered
  cases t with
  | executeIdempotentTransaction w a r =>
    cases a <;> cases r <;> simp [Tx.locks, getOrCreateLocks, Lock.rank]
  | executeTransactionalStep w g u => cases u <;> simp [Tx.locks, Lock.rank]
  | _ => simp [Tx.locks, getOrCreateLocks]

/-- In an ordered list, a lock asked for before position `m` comes equal to or below the
    one at `m`. -/
theorem LocksOrdered.le_of_mem_take {ls : List Lock} (h : LocksOrdered ls) {m : Nat} {a b : Lock}
    (ha : a ∈ ls.take m) (hb : ls[m]? = some b) : a = b ∨ a.rank < b.rank := by
  rw [LocksOrdered, ← List.take_append_drop m ls] at h
  refine (List.pairwise_append.mp h).2.2 a ha b (List.getElem?_mem (n := 0) ?_)
  rwa [List.getElem?_drop, Nat.add_zero]

/-- Open transactions and the lock table. -/
structure LockState where
  /-- Each open transaction and how many of its locking statements have run. -/
  txs : List (Tx × Nat)
  /-- The holder of each lock: at most one. -/
  holder : Lock → Option Nat
  /-- A holder has run a statement that asks for the lock. -/
  held_ran : ∀ l i, holder l = some i → ∃ t k, txs[i]? = some (t, k) ∧ l ∈ t.locks.take k

namespace LockState

variable (σ : LockState)

/-- The lock the next statement of transaction `i` asks for. -/
def request (i : Nat) : Option Lock :=
  match σ.txs[i]? with
  | some (t, k) => t.locks[k]?
  | none => none

/-- Transaction `i` waits for `j`: `j` holds the lock `i`'s next statement asks for. -/
def WaitsFor (i j : Nat) : Prop := i ≠ j ∧ ∃ l, σ.request i = some l ∧ σ.holder l = some j

/-- The rank of the lock transaction `i` asks for. -/
def rank (i : Nat) : Nat := (σ.request i).elim 0 Lock.rank

/-- The holder of the lock `i` asks for, when it waits in turn, asks for a lock of higher
    rank: it asked for the held lock earlier, and asks now for another one. -/
theorem rank_lt_of_waitsFor {i j k : Nat} (hij : σ.WaitsFor i j) (hjk : σ.WaitsFor j k) : σ.rank i < σ.rank j := by
  obtain ⟨-, l, hi, hl⟩ := hij
  obtain ⟨hne, l', hj, hl'⟩ := hjk
  obtain ⟨t, m, ht, hmem⟩ := σ.held_ran l j hl
  have hj' : t.locks[m]? = some l' := by simpa [request, ht] using hj
  rcases t.locks_ordered.le_of_mem_take hmem hj' with rfl | hlt
  · exact absurd (Option.some.inj (hl.symm.trans hl')) hne
  · simpa [rank, hi, hj] using hlt

/-- Along a chain of waits that goes on, the rank asked for grows. -/
theorem rank_lt_of_transGen {i j k : Nat} (hij : Relation.TransGen σ.WaitsFor i j) (hjk : σ.WaitsFor j k) :
    σ.rank i < σ.rank j := by
  induction hij generalizing k with
  | single h => exact σ.rank_lt_of_waitsFor h hjk
  | tail _ hbc ih => exact (ih hbc).trans (σ.rank_lt_of_waitsFor hbc hjk)

theorem no_wait_cycle (i : Nat) : ¬ Relation.TransGen σ.WaitsFor i i := fun h =>
  have ⟨_, hi, _⟩ := Relation.TransGen.head'_iff.mp h
  lt_irrefl _ (σ.rank_lt_of_transGen h hi)

end LockState

/-- Every transaction locks at most one wallet and takes it before any saga or key;
    no set of open transactions waits in a cycle. -/
theorem store_transactions_deadlock_free :
    (∀ (t : Tx) (w w' : WalletId), Lock.wallet w ∈ t.locks → Lock.wallet w' ∈ t.locks → w = w') ∧
      (∀ t : Tx, t.locks.Pairwise fun a b => b.isWallet → a.isWallet) ∧
      ∀ (σ : LockState) (i : Nat), ¬ Relation.TransGen σ.WaitsFor i i := by
  refine ⟨fun t w w' hw hw' => ?_, fun t => t.locks_ordered.imp fun {a b} h hb => ?_, fun σ => σ.no_wait_cycle⟩
  · cases t <;> simp_all [Tx.locks, getOrCreateLocks]
    split_ifs at hw hw' <;> simp_all
  · rcases h with rfl | h
    · exact hb
    · cases a <;> cases b <;> simp_all [Lock.rank, Lock.isWallet]

/-- Transfers 0 (wallet 0 to 1) and 1 (wallet 1 to 0) at once: each debit leg holds its
    sender and asks to save its saga, and each credit leg asks for the wallet the other
    debit leg holds. -/
def oppositeTransfers : LockState where
  txs := [(.executeTransactionalStep 0 0 true, 2), (.executeTransactionalStep 0 1 false, 0),
    (.executeTransactionalStep 1 1 true, 2), (.executeTransactionalStep 1 0 false, 0)]
  holder l := if l = .wallet 0 then some 0 else if l = .wallet 1 then some 2 else none
  held_ran l i h := by
    dsimp only at h
    split_ifs at h with h0 h1 <;> cases h
    · exact ⟨_, 2, rfl, h0 ▸ by decide⟩
    · exact ⟨_, 2, rfl, h1 ▸ by decide⟩

theorem opposite_transfers_wait_without_cycle :
    (oppositeTransfers.WaitsFor 1 0 ∧ oppositeTransfers.WaitsFor 3 2) ∧
      (Lock.wallet 0 ∈ (Tx.executeTransactionalStep 0 0 true).locks ∧
        ∀ w, Lock.wallet w ∈ (Tx.executeTransactionalStep 0 0 true).locks → w = 0) ∧
      ∀ i, ¬ Relation.TransGen oppositeTransfers.WaitsFor i i :=
  ⟨⟨⟨by decide, _, rfl, rfl⟩, ⟨by decide, _, rfl, rfl⟩⟩,
    ⟨by decide, fun w hw => store_transactions_deadlock_free.1 (.executeTransactionalStep 0 0 true) w 0 hw (by decide)⟩,
    store_transactions_deadlock_free.2.2 oppositeTransfers⟩

end EventWallet
