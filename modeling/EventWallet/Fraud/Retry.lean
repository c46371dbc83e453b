/-
  EventWallet.Fraud.Retry — what becomes of a message whose `processFraudChecks`
  throws (`handleProcessingError`, `setupTopology`).

  Below three attempts `handleProcessingError` sends a copy through the default exchange
  to the wait queue of its attempt, `<queue>.wait.<delay>`, so the copy's routing key is
  that queue's name. The wait queue dead-letters the copy to the topic exchange when its
  TTL ends, under the same routing key. The fraud queue is bound to the exchange by two
  keys without wildcards, `wallet.funds_withdrawn` and `wallet.transfer_completed`, which
  match only themselves; they have one dot, every wait queue's name at least two
  (`waitQueue_unbound`), so the exchange drops the copy. Had it been routed back, its
  redelivery would find `processed_event:<key>`, set by the failed attempt's
  `acquireLock` for 24 h, and ack it without running the rules.

  As built:
  - `failed_attempt_is_never_retried`: a FUNDS_WITHDRAWN message whose `zadd` throws is
    evaluated once; its copy is dropped by the exchange, and a copy put back on the
    queue is acknowledged without a run.
-/

import EventWallet.Fraud.Consumer

namespace EventWallet

/-- `FRAUD_CONSTANTS.ROUTING_KEYS`: the keys the fraud queue is bound by. -/
def fraudBindingKeys : List String := ["wallet.funds_withdrawn", "wallet.transfer_completed"]

/-- `${queueName}${WAIT_QUEUE_SUFFIX}${delay}`. -/
def waitQueue (queueName : String) (delay : Nat) : String := queueName ++ ".wait." ++ toString delay

/-- Whether the exchange routes a copy dead-lettered from `waitQueue queueName delay` to
    the fraud queue: a binding key without wildcards matches only itself. -/
def routedBack (queueName : String) (delay : Nat) : Bool := fraudBindingKeys.contains (waitQueue queueName delay)

/-- The dots of a routing key. -/
def dots (key : String) : Nat := key.data.count '.'

theorem dots_waitQueue (queueName : String) (delay : Nat) : 2 ≤ dots (waitQueue queueName delay) := by
  have h : (".wait.".data.count '.') = 2 := by decide
  rw [dots, waitQueue, String.data_append, String.data_append, List.count_append, List.count_append, h]
  omega

/-- No wait queue's name is a binding key, whatever the queue's name and the delay. -/
theorem waitQueue_unbound (queueName : String) (delay : Nat) : routedBack queueName delay = false := by
  have h := dots_waitQueue queueName delay
  have h1 : dots "wallet.funds_withdrawn" = 1 := by decide
  have h2 : dots "wallet.transfer_completed" = 1 := by decide
  simp only [routedBack, fraudBindingKeys, List.contains_cons, List.contains_nil, Bool.or_false, Bool.or_eq_false_iff,
    beq_eq_false_iff_ne]
  exact ⟨fun he => by rw [he] at h; omega, fun he => by rw [he] at h; omega⟩

/-- A withdrawal of 50 from wallet 0 at instant 0. -/
def withdrawal50 : Payload ℤ := ⟨.FUNDS_WITHDRAWN, 0, some 50, .request none, 0⟩

/-- One worker takes the message and locks its key; `zadd` throws; one second later the
    wait queue's TTL ends and the exchange routes the copy (`requeue`) or not; the worker
    takes what the queue holds. -/
def retryAfterZaddFails (requeue : Bool) : List (FraudEv ℤ) :=
  [.addWorker, .publish withdrawal50, .deliver 0 0, .step 0 .ok, .step 0 .fails, .tick 1000,
    .expireWaiting 0 requeue, .deliver 0 0, .step 0 .ok]

/-- As built: the rules run once on the message. The exchange drops the copy, so nothing
    is left queued or waiting; a copy put back on the queue is taken and acknowledged
    without a run, its key being processed. -/
theorem failed_attempt_is_never_retried :
    (∀ queueName delay, routedBack queueName delay = false) ∧
      (let f := runFraud defaultFraudConfig FraudSys.init (retryAfterZaddFails (routedBack "fraud_detection" 1000))
      f.runs.length = 1 ∧ f.queue = [] ∧ f.waiting = [] ∧ f.dlq = [] ∧ f.workers = [.idle]) ∧
      (let f := runFraud defaultFraudConfig FraudSys.init (retryAfterZaddFails true)
      f.runs.length = 1 ∧ f.queue = [] ∧ f.waiting = [] ∧ f.workers = [.idle]) := by
  refine ⟨waitQueue_unbound, ?_, by decide⟩
  rw [waitQueue_unbound]
  decide

end EventWallet
