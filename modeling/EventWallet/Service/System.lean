/-
  EventWallet.Service.System — the state the services run over and the calls in flight
  (`WalletService`, `TransferSagaService`, `SagaRecoveryService`, `OutboxRelayService`,
  all through `TransactionManager`).

  Besides the store there are the Redis keys the core uses, `wallet:balance:<id>`
  (30 s TTL) and `lock:req:<requestId>` (60 s TTL), the messages handed to the broker in
  order, the post-commit publishes not yet run (`publishEventsAsync` is fire and forget)
  and the clock.

  A call is where it stands (its program counter, one constructor per `await` of the
  source) and the locals it holds there. A finished call keeps what it returned or
  threw. Each call's steps are defined in the module of its service.
-/

import EventWallet.Store

namespace EventWallet

/-- How the I/O call at an await ends. -/
inductive Fault where
  /-- It returns. -/
  | ok
  /-- It throws and had no effect. -/
  | fails
  /-- It took effect, then the caller sees a throw: a lost reply, or a `finally` that
      throws after the commit. -/
  | lost
  deriving DecidableEq, Repr

/-- A `wallet:balance:<id>` entry: the balance written (`none` for `undefined`, the
    `balance` of a transfer's response) and the instant it expires. -/
structure CacheEntry (M : Type) where
  value : Option M
  expiresAt : Nat
  deriving DecidableEq, Repr

/-- What a call returned. -/
inductive Returned (M : Type) where
  | response (r : Response M)
  /-- `getBalance`: `Number(…)` of the entry or the row (`none`: not a number). -/
  | balance (b : Option M) (walletId : WalletId)
  | unit
  deriving DecidableEq, Repr

/-- `deposit`/`withdraw` through `executeIdempotentTransaction`. -/
inductive FundsPc (M : Type) where
  | findByRequestId
  /-- `redis.set(lockKey, 'PROCESSING', 'EX', 60, 'NX')`. -/
  | acquireLock
  /-- `queryRunner.connect()`, `startTransaction()`: before the `try`. -/
  | begin
  /-- The transaction, its commit and the `finally` (`release()`, `redis.del(lockKey)`). -/
  | transaction
  | setBalanceCache (r : Response M)
  deriving DecidableEq, Repr

/-- `freezeWallet`, `unfreezeWallet`, `closeWallet` through `executeStateChange`, and
    `setDailyWithdrawalLimit`. -/
inductive AdminPc (M : Type) where
  | begin
  /-- `walletRepository.findById(walletId)`: the default repository, outside the
      transaction and its lock. -/
  | findById
  /-- The rest of the callback on the wallet read, and the commit. -/
  | transaction (read : Option (Wallet M))
  | invalidateBalanceCache
  deriving DecidableEq, Repr

inductive BalancePc (M : Type) where
  | get
  | findById
  | setBalanceCache (b : M)
  deriving DecidableEq, Repr

/-- `executeTransfer`. The in-memory saga is the one `save` returned; the reloaded ones
    are read from the store at their `findById`. -/
inductive TransferPc (M : Type) where
  /-- `findByRequestId`, then the same-wallet check. -/
  | findByRequestId
  | findFrom
  /-- `walletRepository.getOrCreate(toWalletId, fromWallet.currency)`: its own transaction. -/
  | getOrCreate (currency : String)
  | saveSaga (currency : String)
  | publishInitiated (saga : TransferSaga M)
  | debitFromSender (saga : TransferSaga M)
  | invalidateFrom (saga : TransferSaga M)
  | findDebited (sagaId : SagaId)
  | creditToReceiver (saga : TransferSaga M)
  | invalidateTo (saga : TransferSaga M)
  | findCredited (sagaId : SagaId)
  | saveCompleted (saga : TransferSaga M)
  | publishCompleted (saga : TransferSaga M)
  | saveKey (r : TransferResult M)
  /-- The `catch`: reload the saga to check its state. -/
  | findCurrent (sagaId : SagaId) (e : Err M)
  | compensate (saga : TransferSaga M) (e : Err M)
  | publishFailed (saga : TransferSaga M) (e : Err M)
  | saveFailed (saga : TransferSaga M) (e : Err M)
  deriving DecidableEq, Repr

/-- `recoverSaga(sagaId)`. Its saga is the one loaded at `findById`, kept to the end. -/
inductive RecoverPc (M : Type) where
  | findById (sagaId : SagaId)
  | creditToReceiver (saga : TransferSaga M)
  | invalidateTo (saga : TransferSaga M)
  | saveCompleted (saga : TransferSaga M)
  | publishCompleted (saga : TransferSaga M)
  | compensate (saga : TransferSaga M)
  | publishFailed (saga : TransferSaga M)
  deriving DecidableEq, Repr

/-- `processStuckSagas`: the query, then `recoverSaga` on each saga found, in turn. -/
inductive RecoveryPc (M : Type) where
  | find
  | recover (rest : List SagaId) (cur : RecoverPc M)
  deriving DecidableEq, Repr

/-- `OutboxRelayService.handleCron`. Rows are named by their position. -/
inductive RelayPc where
  | findUnpublished
  | publish (pending : List Nat) (publishedIds : List Nat)
  | markAsPublished (ids : List Nat)
  deriving DecidableEq, Repr

inductive Call (M : Type) where
  | funds (f : Funds) (walletId : WalletId) (amount : M) (requestId : Option RequestId) (pc : FundsPc M)
  | admin (op : AdminOp M) (walletId : WalletId) (pc : AdminPc M)
  | getBalance (walletId : WalletId) (pc : BalancePc M)
  | transfer (fromWalletId toWalletId : WalletId) (amount : M) (requestId : Option RequestId) (pc : TransferPc M)
  | recovery (pc : RecoveryPc M)
  | relay (pc : RelayPc)
  | returned (r : Returned M)
  | threw (e : Err M)
  /-- Its process died at a step boundary. -/
  | crashed
  deriving DecidableEq, Repr

structure Sys (M : Type) where
  store : Store M
  cache : WalletId → Option (CacheEntry M)
  /-- `lock:req:<requestId>`: the instant it expires. -/
  locks : RequestId → Option Nat
  /-- The messages handed to the broker, in order. -/
  published : List (Payload M)
  /-- The post-commit publishes not yet run. -/
  postCommit : List (Payload M)
  now : Nat
  calls : List (Call M)

namespace Sys

variable {M : Type}

/-- `CACHE_TTL`, in milliseconds. -/
def cacheTtl : Nat := 30000

/-- `lockTtl: 60`, in milliseconds. -/
def lockTtl : Nat := 60000

def init (store : Store M) (now : Nat) : Sys M := ⟨store, fun _ => none, fun _ => none, [], [], now, []⟩

def setCall (s : Sys M) (i : Nat) (c : Call M) : Sys M := { s with calls := s.calls.set i c }

/-- Commit a transaction; `publishEventsAsync` then has its outbox rows' payloads to
    publish. -/
def commit (s : Sys M) (ws : List (Write M)) : Sys M :=
  { s with store := s.store.commit ws, postCommit := s.postCommit ++ (ws.filterMap Write.outbox?).map (·.payload) }

def publish (s : Sys M) (p : Payload M) : Sys M := { s with published := s.published ++ [p] }

def setBalanceCache (s : Sys M) (w : WalletId) (v : Option M) : Sys M :=
  { s with cache := upd s.cache w (some ⟨v, s.now + cacheTtl⟩) }

def invalidateBalanceCache (s : Sys M) (w : WalletId) : Sys M := { s with cache := upd s.cache w none }

/-- The live `wallet:balance:<id>` entry. -/
def cached (s : Sys M) (w : WalletId) : Option (CacheEntry M) :=
  match s.cache w with
  | some e => if s.now < e.expiresAt then some e else none
  | none => none

def lockHeld (s : Sys M) (r : RequestId) : Bool :=
  match s.locks r with
  | some t => s.now < t
  | none => false

def setLock (s : Sys M) (r : RequestId) : Sys M := { s with locks := upd s.locks r (some (s.now + lockTtl)) }

def delLock (s : Sys M) (r : RequestId) : Sys M := { s with locks := upd s.locks r none }

/-- An await whose I/O call `eff` makes: on `ok` the call goes on to `next`; on a throw
    to `onErr`, the effect made or not. -/
def io (s : Sys M) (i : Nat) (f : Fault) (eff : Sys M → Sys M) (next : Call M) (onErr : Call M) : Sys M :=
  match f with
  | .ok => (eff s).setCall i next
  | .fails => s.setCall i onErr
  | .lost => (eff s).setCall i onErr

/-- A transaction: its body computed on the store now, committed when it returns. A
    throw before the commit leaves the store. -/
def tx (s : Sys M) (i : Nat) (f : Fault) (body : Except (Err M) (List (Write M))) (next : Call M)
    (onErr : Err M → Call M) : Sys M :=
  match f, body with
  | .fails, _ => s.setCall i (onErr .io)
  | _, .error e => s.setCall i (onErr e)
  | .ok, .ok ws => (s.commit ws).setCall i next
  | .lost, .ok ws => (s.commit ws).setCall i (onErr .io)

/-! ## Simp lemmas -/

@[simp] theorem setCall_store (s : Sys M) (i : Nat) (c : Call M) : (s.setCall i c).store = s.store := rfl
@[simp] theorem setCall_cache (s : Sys M) (i : Nat) (c : Call M) : (s.setCall i c).cache = s.cache := rfl
@[simp] theorem setCall_published (s : Sys M) (i : Nat) (c : Call M) :
    (s.setCall i c).published = s.published := rfl
@[simp] theorem setCall_postCommit (s : Sys M) (i : Nat) (c : Call M) :
    (s.setCall i c).postCommit = s.postCommit := rfl
@[simp] theorem setCall_now (s : Sys M) (i : Nat) (c : Call M) : (s.setCall i c).now = s.now := rfl
@[simp] theorem commit_store (s : Sys M) (ws : List (Write M)) : (s.commit ws).store = s.store.commit ws := rfl
@[simp] theorem commit_cache (s : Sys M) (ws : List (Write M)) : (s.commit ws).cache = s.cache := rfl
@[simp] theorem commit_published (s : Sys M) (ws : List (Write M)) :
    (s.commit ws).published = s.published := rfl
@[simp] theorem commit_now (s : Sys M) (ws : List (Write M)) : (s.commit ws).now = s.now := rfl
@[simp] theorem publish_store (s : Sys M) (p : Payload M) : (s.publish p).store = s.store := rfl
@[simp] theorem publish_cache (s : Sys M) (p : Payload M) : (s.publish p).cache = s.cache := rfl
@[simp] theorem publish_now (s : Sys M) (p : Payload M) : (s.publish p).now = s.now := rfl
@[simp] theorem setBalanceCache_store (s : Sys M) (w : WalletId) (v : Option M) :
    (s.setBalanceCache w v).store = s.store := rfl
@[simp] theorem invalidateBalanceCache_store (s : Sys M) (w : WalletId) :
    (s.invalidateBalanceCache w).store = s.store := rfl
@[simp] theorem setLock_store (s : Sys M) (r : RequestId) : (s.setLock r).store = s.store := rfl
@[simp] theorem delLock_store (s : Sys M) (r : RequestId) : (s.delLock r).store = s.store := rfl

end Sys

end EventWallet
