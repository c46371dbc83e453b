/-
  EventWallet.Fraud.Consumer — `FraudDetectionConsumer` (`fraud-alert.entity.ts`, the
  consumer after the entity): the fraud queue, any number of workers each handling one
  message at a time (`prefetch(1)`), the Redis keys they use and the `fraud_alerts` table.

  A message reaches the queue when it is published with a bound routing key
  (FUNDS_WITHDRAWN, TRANSFER_COMPLETED). The broker may hand a queued message out more
  than once (a publisher's retry, a requeue) and requeues the message of a worker whose
  channel closes. `handleMessage` hashes the payload's `walletId`, `eventType`,
  `timestamp` and `amount` into a key, and runs `processFraudChecks` only when its
  `SET processed_event:<key> NX EX 86400` succeeds. A throw in the `try` goes to
  `handleProcessingError`: a copy to the wait queue of its attempt, or the DLQ after
  three. When a wait queue's TTL ends the copy is dead-lettered to the exchange, which
  routes it back to the queue or, having no binding for its routing key, drops it.

  A worker stands at one of the awaits of `handleMessage` (`ConsumerPc`). The instants
  of the model are Redis's clock. The run log (`runs`) and each alert's run are ghost
  state: each `processFraudChecks` started, with its message's payload and the instant
  of its lock.
-/

import Mathlib.Logic.Function.Basic
import EventWallet.Service.System

namespace EventWallet

/-- `FRAUD_CONSTANTS.IDEMPOTENCY_TTL` (24 h), in milliseconds. -/
def idempotencyTtl : Nat := 24 * 60 * 60 * 1000

/-- `FRAUD_CONSTANTS.RETRY.MAX_ATTEMPTS`. -/
def maxAttempts : Nat := 3

/-- `FRAUD_CONSTANTS.RETRY.DELAYS`, in milliseconds. -/
def retryDelays : List Nat := [1000, 2000, 4000]

/-- The queue's bindings: `wallet.funds_withdrawn` and `wallet.transfer_completed`. -/
def boundToFraudQueue : WalletEventType → Bool
  | .FUNDS_WITHDRAWN | .TRANSFER_COMPLETED => true
  | _ => false

structure FraudConfig (M : Type) where
  fraudDetectionThreshold : M
  fraudDetectionMaxWithdrawals : Nat
  fraudDetectionTimeWindowMinutes : Nat

/-- `AppConfigService`'s defaults: a threshold of 10000, three withdrawals, five minutes. -/
def defaultFraudConfig : FraudConfig ℤ := ⟨10000, 3, 5⟩

/-- What `generateIdempotencyKey` hashes, `${walletId}-${eventType}-${timestamp}-${amount || ''}`
    (a missing amount and 0 both print as ''). Equal inputs hash alike; a collision of
    SHA-256 would only merge two keys. -/
structure IdempotencyKey (M : Type) where
  walletId : WalletId
  eventType : WalletEventType
  timestamp : Nat
  amount : Option M
  deriving DecidableEq, Repr

def generateIdempotencyKey {M : Type} [Zero M] [DecidableEq M] (event : Payload M) : IdempotencyKey M :=
  ⟨event.walletId, event.eventType, event.timestamp, event.amount.filter (· ≠ 0)⟩

/-- `FRAUD_CONSTANTS.ALERTS`. -/
inductive AlertType where
  | RAPID_WITHDRAWALS
  | HIGH_VALUE_TRANSACTION
  deriving DecidableEq, Repr

/-- The `details` each alert saves. -/
inductive AlertDetails (M : Type) where
  | rapidWithdrawals (withdrawalCount : Nat) (timeWindowMinutes : Nat)
  | highValue (amount threshold : M)
  deriving DecidableEq, Repr

/-- A `fraud_alerts` row. -/
structure FraudAlert (M : Type) where
  walletId : WalletId
  alertType : AlertType
  details : AlertDetails M
  deriving DecidableEq, Repr

/-- A message of the fraud queue: the payload and its `x-retry-count` header (0 when
    absent). -/
structure FraudMsg (M : Type) where
  payload : Payload M
  retryCount : Nat
  deriving DecidableEq, Repr

/-- Where a worker's `handleMessage` stands: `run` is the position of its
    `processFraudChecks` in the run log. -/
inductive ConsumerPc where
  | acquireLock
  /-- `detectRapidWithdrawals`: its four Redis calls. -/
  | zadd (run : Nat)
  | zremrangebyscore (run : Nat)
  | expire (run : Nat)
  | zcard (run : Nat)
  /-- `saveFraudAlert(…, RAPID_WITHDRAWALS, …)`. -/
  | saveRapidWithdrawals (run : Nat) (withdrawalCount : Nat)
  /-- `detectHighValueTransaction`'s `saveFraudAlert`. -/
  | saveHighValue (run : Nat)
  deriving DecidableEq, Repr

inductive Worker (M : Type) where
  | idle
  | busy (msg : FraudMsg M) (pc : ConsumerPc)
  deriving DecidableEq, Repr

/-- A `processFraudChecks` started: its message's payload and the instant of its lock. -/
structure FraudRun (M : Type) where
  payload : Payload M
  lockedAt : Nat
  deriving DecidableEq, Repr

structure FraudSys (M : Type) where
  queue : List (FraudMsg M)
  /-- The wait queues' messages, each with the instant its TTL ends. -/
  waiting : List (FraudMsg M × Nat)
  dlq : List (FraudMsg M)
  workers : List (Worker M)
  /-- `processed_event:<key>`: the instant it expires. -/
  processed : IdempotencyKey M → Option Nat
  /-- `withdrawals:<walletId>`: its members (timestamps) and the instant it expires. -/
  withdrawals : WalletId → Option (List Nat × Option Nat)
  /-- The `fraud_alerts` table, each row with its run. -/
  alerts : List (FraudAlert M × Nat)
  runs : List (FraudRun M)
  now : Nat

/-- The events the consumer's environment makes. -/
inductive FraudEv (M : Type) where
  /-- A message published to the exchange: by `publishEventsAsync` or by the relay. -/
  | publish (p : Payload M)
  /-- The broker hands queued message `j` out once more. -/
  | duplicate (j : Nat)
  /-- Idle worker `i` takes queued message `j`. -/
  | deliver (i j : Nat)
  | step (i : Nat) (f : Fault)
  /-- Worker `i`'s channel closes: its unacknowledged message is requeued. -/
  | crash (i : Nat)
  | addWorker
  /-- Waiting message `j`'s TTL has ended: dead-lettered back to the queue, or dropped. -/
  | expireWaiting (j : Nat) (requeue : Bool)
  | tick (dt : Nat)
  deriving DecidableEq, Repr

namespace FraudSys

variable {M : Type} [LinearOrderedCommRing M]

def init : FraudSys M := ⟨[], [], [], [], fun _ => none, fun _ => none, [], [], 0⟩

def setWorker (f : FraudSys M) (i : Nat) (w : Worker M) : FraudSys M := { f with workers := f.workers.set i w }

/-- Whether `processed_event:<key>` exists. -/
def processedLive (f : FraudSys M) (key : IdempotencyKey M) : Bool :=
  match f.processed key with
  | some t => f.now < t
  | none => false

/-- `SET processed_event:<key> 'true' EX 86400` on a key that does not exist. -/
def setProcessed (f : FraudSys M) (key : IdempotencyKey M) : FraudSys M :=
  { f with processed := Function.update f.processed key (some (f.now + idempotencyTtl)) }

/-- `withdrawals:<walletId>` when it exists. -/
def liveWithdrawals (f : FraudSys M) (w : WalletId) : Option (List Nat × Option Nat) :=
  match f.withdrawals w with
  | some (m, some t) => if f.now < t then some (m, some t) else none
  | e => e

def setWithdrawals (f : FraudSys M) (w : WalletId) (v : Option (List Nat × Option Nat)) : FraudSys M :=
  { f with withdrawals := Function.update f.withdrawals w v }

/-- `zadd(key, now, now.toString())`. -/
def zadd (f : FraudSys M) (w : WalletId) (t : Nat) : FraudSys M :=
  let (m, ttl) := (f.liveWithdrawals w).getD ([], none)
  f.setWithdrawals w (some (m.insert t, ttl))

/-- `zremrangebyscore(key, '-inf', cutoff)`; a key left empty is deleted. -/
def zremrangebyscore (f : FraudSys M) (w : WalletId) (cutoff : Int) : FraudSys M :=
  match f.liveWithdrawals w with
  | some (m, ttl) =>
    let m' := m.filter fun x : Nat => cutoff < x
    f.setWithdrawals w (if m' = [] then none else some (m', ttl))
  | none => f

/-- `expire(key, seconds)`, with the TTL in milliseconds. -/
def expire (f : FraudSys M) (w : WalletId) (ttl : Nat) : FraudSys M :=
  match f.liveWithdrawals w with
  | some (m, _) => f.setWithdrawals w (some (m, some (f.now + ttl)))
  | none => f

def zcard (f : FraudSys M) (w : WalletId) : Nat := ((f.liveWithdrawals w).map (·.1.length)).getD 0

def addAlert (f : FraudSys M) (a : FraudAlert M) (run : Nat) : FraudSys M := { f with alerts := f.alerts ++ [(a, run)] }

/-- `handleProcessingError`: a copy with the next retry count to the wait queue of its
    attempt and an ack, or a `nack` to the DLQ. -/
def handleProcessingError (f : FraudSys M) (i : Nat) (msg : FraudMsg M) : FraudSys M :=
  if msg.retryCount < maxAttempts then
    let delay := retryDelays.getD msg.retryCount (retryDelays.getLast?.getD 0)
    { f.setWorker i .idle with waiting := f.waiting ++ [(⟨msg.payload, msg.retryCount + 1⟩, f.now + delay)] }
  else { f.setWorker i .idle with dlq := f.dlq ++ [msg] }

/-- An await of the `try` whose Redis call `eff` makes: on `ok` the worker goes on to
    `next`; on a throw to `handleProcessingError`, the effect made or not. -/
def io (f : FraudSys M) (i : Nat) (msg : FraudMsg M) (fault : Fault) (eff : FraudSys M → FraudSys M)
    (next : FraudSys M → FraudSys M) : FraudSys M :=
  match fault with
  | .ok => next (eff f)
  | .fails => f.handleProcessingError i msg
  | .lost => (eff f).handleProcessingError i msg

/-- `isNew`: the run starts; `processFraudChecks` checks only withdrawals, then the ack. -/
def startRun (f : FraudSys M) (i : Nat) (msg : FraudMsg M) (lockedAt : Nat) : FraudSys M :=
  let f' := { f with runs := f.runs ++ [FraudRun.mk msg.payload lockedAt] }
  if msg.payload.eventType = .FUNDS_WITHDRAWN then f'.setWorker i (.busy msg (.zadd f.runs.length))
  else f'.setWorker i .idle

/-- `event.amount && event.amount > threshold`. -/
def highValueAmount (cfg : FraudConfig M) (event : Payload M) : Option M :=
  event.amount.filter fun a => a ≠ 0 ∧ cfg.fraudDetectionThreshold < a

/-- After `detectRapidWithdrawals`: `detectHighValueTransaction`, or the ack. -/
def afterRapid (cfg : FraudConfig M) (msg : FraudMsg M) (run : Nat) : Worker M :=
  if (highValueAmount cfg msg.payload).isSome then .busy msg (.saveHighValue run) else .idle

/-- `saveFraudAlert`: a failed save is caught and logged. -/
def saveFraudAlert (f : FraudSys M) (fault : Fault) (a : FraudAlert M) (run : Nat) : FraudSys M :=
  match fault with
  | .fails => f
  | _ => f.addAlert a run

/-- One step of worker `i` handling `msg` at `pc`. -/
def stepWorker (cfg : FraudConfig M) (f : FraudSys M) (i : Nat) (msg : FraudMsg M) (fault : Fault) :
    ConsumerPc → FraudSys M
  | .acquireLock =>
    let key := generateIdempotencyKey msg.payload
    if f.processedLive key then f.io i msg fault id (·.setWorker i .idle)
    else f.io i msg fault (·.setProcessed key) (·.startRun i msg f.now)
  | .zadd run =>
    f.io i msg fault (·.zadd msg.payload.walletId msg.payload.timestamp)
      (·.setWorker i (.busy msg (.zremrangebyscore run)))
  | .zremrangebyscore run =>
    f.io i msg fault
      (·.zremrangebyscore msg.payload.walletId
        ((msg.payload.timestamp : Int) - cfg.fraudDetectionTimeWindowMinutes * 60000))
      (·.setWorker i (.busy msg (.expire run)))
  | .expire run =>
    f.io i msg fault (·.expire msg.payload.walletId (cfg.fraudDetectionTimeWindowMinutes * 60000))
      (·.setWorker i (.busy msg (.zcard run)))
  | .zcard run =>
    let count := f.zcard msg.payload.walletId
    f.io i msg fault id (·.setWorker i
      (if count > cfg.fraudDetectionMaxWithdrawals then .busy msg (.saveRapidWithdrawals run count)
       else afterRapid cfg msg run))
  | .saveRapidWithdrawals run count =>
    (f.saveFraudAlert fault ⟨msg.payload.walletId, .RAPID_WITHDRAWALS,
      .rapidWithdrawals count cfg.fraudDetectionTimeWindowMinutes⟩ run).setWorker i (afterRapid cfg msg run)
  | .saveHighValue run =>
    match highValueAmount cfg msg.payload with
    | some a => (f.saveFraudAlert fault ⟨msg.payload.walletId, .HIGH_VALUE_TRANSACTION,
        .highValue a cfg.fraudDetectionThreshold⟩ run).setWorker i .idle
    | none => f.setWorker i .idle

/-! ## Simp lemmas -/

omit [LinearOrderedCommRing M] in
@[simp] theorem zadd_workers (f : FraudSys M) (w : WalletId) (t : Nat) : (f.zadd w t).workers = f.workers := rfl

omit [LinearOrderedCommRing M] in
@[simp] theorem zremrangebyscore_workers (f : FraudSys M) (w : WalletId) (c : Int) :
    (f.zremrangebyscore w c).workers = f.workers := by
  unfold zremrangebyscore; split <;> rfl

omit [LinearOrderedCommRing M] in
@[simp] theorem expire_workers (f : FraudSys M) (w : WalletId) (t : Nat) : (f.expire w t).workers = f.workers := by
  unfold expire; split <;> rfl

@[simp] theorem setProcessed_workers (f : FraudSys M) (key : IdempotencyKey M) :
    (f.setProcessed key).workers = f.workers := rfl

omit [LinearOrderedCommRing M] in
@[simp] theorem zremrangebyscore_runs (f : FraudSys M) (w : WalletId) (c : Int) :
    (f.zremrangebyscore w c).runs = f.runs := by
  unfold zremrangebyscore; split <;> rfl

omit [LinearOrderedCommRing M] in
@[simp] theorem saveFraudAlert_runs (f : FraudSys M) (fault : Fault) (a : FraudAlert M) (n : Nat) :
    (f.saveFraudAlert fault a n).runs = f.runs := by
  cases fault <;> rfl

omit [LinearOrderedCommRing M] in
@[simp] theorem expire_runs (f : FraudSys M) (w : WalletId) (t : Nat) : (f.expire w t).runs = f.runs := by
  unfold expire; split <;> rfl

end FraudSys

section
variable {M : Type} [LinearOrderedCommRing M]

def stepFraud (cfg : FraudConfig M) (f : FraudSys M) : FraudEv M → FraudSys M
  | .publish p => if boundToFraudQueue p.eventType then { f with queue := f.queue ++ [⟨p, 0⟩] } else f
  | .duplicate j =>
    match f.queue[j]? with
    | some m => { f with queue := f.queue ++ [m] }
    | none => f
  | .deliver i j =>
    match f.workers[i]?, f.queue[j]? with
    | some .idle, some m => { f.setWorker i (.busy m .acquireLock) with queue := f.queue.eraseIdx j }
    | _, _ => f
  | .step i fault =>
    match f.workers[i]? with
    | some (.busy msg pc) => f.stepWorker cfg i msg fault pc
    | _ => f
  | .crash i =>
    match f.workers[i]? with
    | some (.busy msg _) => { f.setWorker i .idle with queue := f.queue ++ [msg] }
    | _ => f
  | .addWorker => { f with workers := f.workers ++ [.idle] }
  | .expireWaiting j requeue =>
    match f.waiting[j]? with
    | some (m, t) =>
      if t ≤ f.now then { f with waiting := f.waiting.eraseIdx j, queue := if requeue then f.queue ++ [m] else f.queue }
      else f
    | none => f
  | .tick dt => { f with now := f.now + dt }

def runFraud (cfg : FraudConfig M) (f : FraudSys M) (evs : List (FraudEv M)) : FraudSys M :=
  evs.foldl (stepFraud cfg) f

end

end EventWallet
