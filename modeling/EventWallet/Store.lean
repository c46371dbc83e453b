/-
  EventWallet.Store — the relational store the core writes (`wallets`, `wallet_events`,
  `transfer_sagas`, `idempotency_keys`, `outbox_events`) and the bodies of the
  transactions the repositories and services run on it.

  A transaction is one step: it is computed on the store as it stands and commits all
  its writes in order, or none. Every transaction of the core that mutates a wallet
  locks the wallet row first (`pessimistic_write`), so under READ COMMITTED the rows it
  reads are read under that lock; the saga row the legs read unlocked is read at the
  step too. The committed transactions are kept in commit order (`log`), each as the
  list of rows it wrote, so that what was written together can be read back.

  The bodies, each under the source's name:
  - `getOrCreate`: the wallet row, or a fresh one and its WALLET_CREATED event (only
    when the journal has no event of the id);
  - `saveWithEvent`: the wallet row and one event;
  - `executeIdempotentTransaction`'s body (`idempotentTx`), for `deposit` and `withdraw`;
  - `executeStateChange`'s body (`stateChangeTx`), for freeze, unfreeze, close and the
    limit change, on a wallet read before it (`findById`, outside the lock);
  - `executeTransactionalStep` and its three members `debitFromSender`,
    `creditToReceiver` and `compensate`.
  Each transaction's writes end with the outbox rows its `publishEvent` buffered
  (`TransactionManager.execute` saves them last).

  The store here holds amounts as the services compute them; `Service.Rounding` rounds
  the DECIMAL(20,2) columns as PostgreSQL stores them (`Store.stored`, `runDB`).

  `findUnpublished` reads the unpublished outbox rows by `createdAt`; PostgreSQL
  returns rows of one `createdAt` in no fixed order, and the sort here keeps them in
  position order.
-/

import Mathlib.Data.List.Sort
import EventWallet.Transfer.Saga

namespace EventWallet

def upd {α : Type} (f : Nat → α) (i : Nat) (v : α) : Nat → α := fun j => if j = i then v else f j

@[simp] theorem upd_same {α : Type} (f : Nat → α) (i : Nat) (v : α) : upd f i v i = v := by simp [upd]
@[simp] theorem upd_ne {α : Type} (f : Nat → α) {i j : Nat} (v : α) (h : j ≠ i) : upd f i v j = f j := by
  simp [upd, h]

theorem bind_eq_ok {ε α β : Type} {x : Except ε α} {f : α → Except ε β} {b : β} :
    x >>= f = .ok b ↔ ∃ a, x = .ok a ∧ f a = .ok b := by
  cases x <;> simp [bind, Except.bind]

@[simp] theorem pure_eq_ok {ε α : Type} {a b : α} : (pure a : Except ε α) = .ok b ↔ a = b := by
  simp [pure, Except.pure]

@[simp] theorem mapError_eq_ok {ε ε' α : Type} {f : ε → ε'} {x : Except ε α} {a : α} :
    x.mapError f = .ok a ↔ x = .ok a := by
  cases x <;> simp [Except.mapError]

inductive WalletEventType where
  | WALLET_CREATED
  | FUNDS_DEPOSITED
  | FUNDS_WITHDRAWN
  | TRANSFER_INITIATED
  | TRANSFER_COMPLETED
  | TRANSFER_FAILED
  | TRANSFER_COMPENSATED
  | WALLET_FROZEN
  | WALLET_UNFROZEN
  | WALLET_CLOSED
  deriving DecidableEq, Repr

/-- The `metadata` of an event or a message, down to the fields a modelled function
    reads: the request or the saga it belongs to. -/
inductive EventMeta where
  /-- `null`: WALLET_CREATED. -/
  | null
  /-- `{ requestId }`: deposit and withdraw. -/
  | request (requestId : Option RequestId)
  /-- `{ sagaId, transferTo }`: the debit leg. -/
  | debit (sagaId : SagaId) (transferTo : WalletId)
  /-- `{ sagaId, transferFrom }`: the credit leg. -/
  | credit (sagaId : SagaId) (transferFrom : WalletId)
  /-- `{ sagaId, reason }`: the compensation leg, and the TRANSFER_FAILED message. -/
  | compensation (sagaId : SagaId)
  /-- `{ sagaId, toWalletId, … }`: the TRANSFER_INITIATED and TRANSFER_COMPLETED messages. -/
  | transfer (sagaId : SagaId)
  /-- Freeze, unfreeze, close and limit changes: who, why and when. -/
  | admin
  deriving DecidableEq, Repr

/-- The saga an event or a message belongs to. -/
def EventMeta.sagaId? : EventMeta → Option SagaId
  | .debit g _ | .credit g _ | .compensation g | .transfer g => some g
  | _ => none

structure WalletEvent (M : Type) where
  walletId : WalletId
  eventType : WalletEventType
  currency : String
  amount : Option M
  metadata : EventMeta
  /-- The transaction's start (`@CreateDateColumn`, `now()`). -/
  createdAt : Nat
  deriving DecidableEq, Repr

/-- The message body `{ eventType, walletId, amount?, metadata, timestamp }`. -/
structure Payload (M : Type) where
  eventType : WalletEventType
  walletId : WalletId
  amount : Option M
  metadata : EventMeta
  timestamp : Nat
  deriving DecidableEq, Repr

/-- An `outbox_events` row; its id is its position in the table, and its `published`
    column is kept in the store (`publishedIds`), the one column an update changes. -/
structure OutboxRow (M : Type) where
  aggregateId : WalletId
  eventType : WalletEventType
  payload : Payload M
  createdAt : Nat
  deriving DecidableEq, Repr

section Outbox

variable {M : Type} {outbox : List (OutboxRow M)} {publishedIds : List Nat}

/-- The positions of the rows with `published = false`, in position order. -/
def unpublishedRows (outbox : List (OutboxRow M)) (publishedIds : List Nat) : List Nat :=
  (List.range outbox.length).filter (· ∉ publishedIds)

/-- `OutboxRepository.findUnpublished(limit)`:
    `find({ where: { published: false }, order: { createdAt: 'ASC' }, take: limit })`,
    as row positions; rows of one `createdAt` in position order. -/
def findUnpublished (outbox : List (OutboxRow M)) (publishedIds : List Nat) (limit : Nat) : List Nat :=
  ((unpublishedRows outbox publishedIds).insertionSort fun i j =>
    (outbox[i]?.map (·.createdAt)).getD 0 ≤ (outbox[j]?.map (·.createdAt)).getD 0).take limit

theorem unpublishedRows_nodup : (unpublishedRows outbox publishedIds).Nodup := (List.nodup_range _).filter _

theorem mem_unpublishedRows {j : Nat} : j ∈ unpublishedRows outbox publishedIds ↔ j < outbox.length ∧ j ∉ publishedIds := by
  simp [unpublishedRows]

/-- Marking rows `ids` published leaves the unpublished rows but those. -/
theorem unpublishedRows_append (ids : List Nat) :
    unpublishedRows outbox (publishedIds ++ ids) = (unpublishedRows outbox publishedIds).filter (· ∉ ids) := by
  rw [unpublishedRows, unpublishedRows, List.filter_filter]
  exact List.filter_congr fun j _ => by simp [Bool.and_comm]

theorem mem_findUnpublished {limit j : Nat} (h : j ∈ findUnpublished outbox publishedIds limit) :
    j ∈ unpublishedRows outbox publishedIds :=
  (List.perm_insertionSort _ _).subset (List.mem_of_mem_take h)

theorem findUnpublished_nodup (limit : Nat) : (findUnpublished outbox publishedIds limit).Nodup :=
  ((List.perm_insertionSort _ _).nodup_iff.mpr unpublishedRows_nodup).sublist (List.take_sublist _ _)

theorem length_findUnpublished (limit : Nat) :
    (findUnpublished outbox publishedIds limit).length = min limit (unpublishedRows outbox publishedIds).length := by
  rw [findUnpublished, List.length_take, List.length_insertionSort]

end Outbox

structure TransferResult (M : Type) where
  sagaId : SagaId
  state : TransferSagaState
  fromWalletId : WalletId
  toWalletId : WalletId
  amount : M
  deriving DecidableEq, Repr

/-- The `response` an idempotency record stores. -/
inductive Response (M : Type) where
  /-- `{ balance, walletId }`: deposit and withdraw. -/
  | balance (balance : M) (walletId : WalletId)
  | transfer (r : TransferResult M)
  deriving DecidableEq, Repr

/-- The `balance` field of a stored response, read as a deposit's or a withdrawal's. -/
def Response.balance? {M : Type} : Response M → Option M
  | .balance b _ => some b
  | .transfer _ => none

/-- What a call throws. -/
inductive Err (M : Type) where
  | wallet (e : WalletError M)
  | saga (e : SagaError)
  /-- `Wallet ${id} not found` (an `Error` or a `NotFoundException`). -/
  | walletNotFound (id : WalletId)
  | sagaNotFound (id : SagaId)
  /-- 'Cannot transfer to the same wallet'. -/
  | sameWallet
  | currencyMismatch (fromCurrency toCurrency : String)
  /-- `ConflictException('Concurrent request in progress')`. -/
  | concurrentRequest
  /-- A store, cache or broker call failed. -/
  | io
  deriving DecidableEq, Repr

inductive Write (M : Type) where
  | wallet (w : Wallet M)
  | event (e : WalletEvent M)
  | saga (s : TransferSaga M)
  | idempotency (requestId : RequestId) (response : Response M)
  | outbox (r : OutboxRow M)
  /-- `markAsPublished(ids)`: `UPDATE … SET published = true`. -/
  | published (ids : List Nat)
  deriving DecidableEq, Repr

def Write.event? {M : Type} : Write M → Option (WalletEvent M)
  | .event e => some e
  | _ => none

def Write.outbox? {M : Type} : Write M → Option (OutboxRow M)
  | .outbox r => some r
  | _ => none

def Write.saga? {M : Type} : Write M → Option (TransferSaga M)
  | .saga g => some g
  | _ => none

def Write.wallet? {M : Type} : Write M → Option (Wallet M)
  | .wallet w => some w
  | _ => none

section Idempotency

variable {M : Type} (r : Option RequestId) (resp : Response M)

/-- The idempotency record a request id adds to a transaction's writes. -/
@[simp] theorem idem_events : (r.map fun r => Write.idempotency r resp).toList.filterMap Write.event? = [] := by
  cases r <;> rfl

@[simp] theorem idem_outbox : (r.map fun r => Write.idempotency r resp).toList.filterMap Write.outbox? = [] := by
  cases r <;> rfl

@[simp] theorem idem_sagas : (r.map fun r => Write.idempotency r resp).toList.filterMap Write.saga? = [] := by
  cases r <;> rfl

@[simp] theorem idem_wallets : (r.map fun r => Write.idempotency r resp).toList.filterMap Write.wallet? = [] := by
  cases r <;> rfl

end Idempotency

structure Store (M : Type) where
  wallets : WalletId → Option (Wallet M)
  /-- The journal, in id order. -/
  events : List (WalletEvent M)
  sagas : SagaId → Option (TransferSaga M)
  nextSagaId : SagaId
  idempotency : RequestId → Option (Response M)
  outbox : List (OutboxRow M)
  /-- The outbox rows with `published = true`. -/
  publishedIds : List Nat
  /-- The committed transactions, in commit order. -/
  log : List (List (Write M))

namespace Store

variable {M : Type}

def empty : Store M := ⟨fun _ => none, [], fun _ => none, 0, fun _ => none, [], [], []⟩

def apply (s : Store M) : Write M → Store M
  | .wallet w => { s with wallets := upd s.wallets w.id (some w) }
  | .event e => { s with events := s.events ++ [e] }
  | .saga g => { s with sagas := upd s.sagas g.id (some g), nextSagaId := max s.nextSagaId (g.id + 1) }
  | .idempotency r resp => { s with idempotency := upd s.idempotency r (some resp) }
  | .outbox r => { s with outbox := s.outbox ++ [r] }
  | .published ids => { s with publishedIds := s.publishedIds ++ ids }

/-- Commit a transaction's writes. -/
def commit (s : Store M) (ws : List (Write M)) : Store M :=
  { ws.foldl apply s with log := s.log ++ [ws] }

theorem foldl_apply_events (ws : List (Write M)) (s : Store M) :
    (ws.foldl apply s).events = s.events ++ ws.filterMap Write.event? := by
  induction ws generalizing s with
  | nil => simp
  | cons w ws ih => cases w <;> simp [ih, apply, Write.event?]

theorem foldl_apply_outbox (ws : List (Write M)) (s : Store M) :
    (ws.foldl apply s).outbox = s.outbox ++ ws.filterMap Write.outbox? := by
  induction ws generalizing s with
  | nil => simp
  | cons w ws ih => cases w <;> simp [ih, apply, Write.outbox?]

theorem foldl_apply_sagas (ws : List (Write M)) (s : Store M) :
    (ws.foldl apply s).sagas = (ws.filterMap Write.saga?).foldl (fun f g => upd f g.id (some g)) s.sagas := by
  induction ws generalizing s with
  | nil => simp
  | cons w ws ih => cases w <;> simp [ih, apply, Write.saga?]

theorem foldl_apply_wallets (ws : List (Write M)) (s : Store M) :
    (ws.foldl apply s).wallets = (ws.filterMap Write.wallet?).foldl (fun f w => upd f w.id (some w)) s.wallets := by
  induction ws generalizing s with
  | nil => simp
  | cons w ws ih => cases w <;> simp [ih, apply, Write.wallet?]

@[simp] theorem commit_log (s : Store M) (ws : List (Write M)) : (s.commit ws).log = s.log ++ [ws] := rfl

@[simp] theorem commit_sagas (s : Store M) (ws : List (Write M)) :
    (s.commit ws).sagas = (ws.filterMap Write.saga?).foldl (fun f g => upd f g.id (some g)) s.sagas :=
  foldl_apply_sagas ws s

@[simp] theorem commit_wallets (s : Store M) (ws : List (Write M)) :
    (s.commit ws).wallets = (ws.filterMap Write.wallet?).foldl (fun f w => upd f w.id (some w)) s.wallets :=
  foldl_apply_wallets ws s

@[simp] theorem commit_events (s : Store M) (ws : List (Write M)) :
    (s.commit ws).events = s.events ++ ws.filterMap Write.event? := foldl_apply_events ws s

@[simp] theorem commit_outbox (s : Store M) (ws : List (Write M)) :
    (s.commit ws).outbox = s.outbox ++ ws.filterMap Write.outbox? := foldl_apply_outbox ws s

/-- What every store the service writes keeps: a row sits at its id, and no saga id
    from `nextSagaId` on is taken. -/
structure Wf (s : Store M) : Prop where
  wallet_id : ∀ id w, s.wallets id = some w → w.id = id
  saga_id : ∀ g x, s.sagas g = some x → x.id = g
  fresh : ∀ g, s.nextSagaId ≤ g → s.sagas g = none

theorem Wf.apply {s : Store M} (h : s.Wf) (w : Write M) : (s.apply w).Wf := by
  cases w with
  | wallet w =>
    refine ⟨fun id x hx => ?_, h.saga_id, h.fresh⟩
    simp only [Store.apply, upd] at hx
    split at hx
    · rename_i e; cases hx; exact e.symm
    · exact h.wallet_id id x hx
  | saga g =>
    refine ⟨h.wallet_id, fun g' x hx => ?_, fun g' hg => ?_⟩
    · simp only [Store.apply, upd] at hx
      split at hx
      · rename_i e; cases hx; exact e.symm
      · exact h.saga_id g' x hx
    · have hg' : s.nextSagaId ≤ g' ∧ g.id + 1 ≤ g' := max_le_iff.mp hg
      show upd s.sagas g.id _ g' = none
      rw [upd_ne _ _ (Nat.ne_of_gt hg'.2)]
      exact h.fresh g' hg'.1
  | _ => exact ⟨h.wallet_id, h.saga_id, h.fresh⟩

theorem Wf.commit {s : Store M} (h : s.Wf) (ws : List (Write M)) : (s.commit ws).Wf := by
  suffices h' : ∀ t : Store M, t.Wf → (ws.foldl Store.apply t).Wf from
    have h' := h' s h; ⟨h'.wallet_id, h'.saga_id, h'.fresh⟩
  induction ws with
  | nil => exact fun _ ht => ht
  | cons w ws ih => exact fun t ht => ih _ (ht.apply w)

/-- A store holding these wallets and nothing else. -/
def ofWallets (ws : List (Wallet M)) : Store M := { empty with wallets := fun i => ws.find? (·.id = i) }

theorem Wf.ofWallets (ws : List (Wallet M)) : (ofWallets ws).Wf where
  wallet_id _ _ h := by simpa using List.find?_some h
  saga_id _ _ h := nomatch h
  fresh _ _ := rfl

theorem Wf.empty : (empty : Store M).Wf where
  wallet_id _ _ h := nomatch h
  saga_id _ _ h := nomatch h
  fresh _ _ := rfl

end Store

section
variable {M : Type} [LinearOrderedCommRing M]

/-- `new WalletEvent(walletId, eventType, currency, amount, metadata)`: `amount || null`. -/
def WalletEvent.new (walletId : WalletId) (eventType : WalletEventType) (currency : String) (amount : Option M)
    (metadata : EventMeta) (now : Nat) : WalletEvent M :=
  ⟨walletId, eventType, currency, amount.filter (· ≠ 0), metadata, now⟩

section New

variable (w : WalletId) (t : WalletEventType) (c : String) (a : Option M) (m : EventMeta) (now : Nat)

@[simp] theorem WalletEvent.new_walletId : (WalletEvent.new w t c a m now).walletId = w := rfl
@[simp] theorem WalletEvent.new_eventType : (WalletEvent.new w t c a m now).eventType = t := rfl
@[simp] theorem WalletEvent.new_metadata : (WalletEvent.new w t c a m now).metadata = m := rfl
@[simp] theorem WalletEvent.new_createdAt : (WalletEvent.new w t c a m now).createdAt = now := rfl

end New

/-- A positive amount is journalled as given. -/
@[simp] theorem WalletEvent.new_amount_pos {a : M} (ha : 0 < a) (w : WalletId) (t : WalletEventType) (c : String)
    (m : EventMeta) (now : Nat) : (WalletEvent.new w t c (some a) m now).amount = some a := by
  simp [WalletEvent.new, Option.filter, ha.ne']

/-- `new OutboxEvent(aggregateId, eventType, payload)`, as `saveAll` inserts it. -/
def OutboxRow.new (aggregateId : WalletId) (eventType : WalletEventType) (payload : Payload M) (now : Nat) :
    OutboxRow M :=
  ⟨aggregateId, eventType, payload, now⟩

/-- `WalletRepository.getOrCreate(id, currency, em)`: the row, and what the transaction
    writes to create it. -/
def getOrCreate (s : Store M) (id : WalletId) (currency : String) (now : Nat) : Wallet M × List (Write M) :=
  match s.wallets id with
  | some w => (w, [])
  | none =>
    (Wallet.new id currency, .wallet (Wallet.new id currency) ::
      if s.events.any (·.walletId == id) then [] else [.event (WalletEvent.new id .WALLET_CREATED currency none .null now)])

/-- `WalletRepository.saveWithEvent(wallet, eventType, amount, metadata, em)`. -/
def saveWithEvent (w : Wallet M) (eventType : WalletEventType) (amount : Option M) (metadata : EventMeta)
    (now : Nat) : List (Write M) :=
  [.wallet w, .event (WalletEvent.new w.id eventType w.currency amount metadata now)]

section Writes

variable {now : Nat} (w : Wallet M) (t : WalletEventType) (a : Option M) (m : EventMeta)

@[simp] theorem saveWithEvent_events :
    (saveWithEvent w t a m now).filterMap Write.event? = [WalletEvent.new w.id t w.currency a m now] := rfl

@[simp] theorem saveWithEvent_outbox : (saveWithEvent w t a m now).filterMap Write.outbox? = [] := rfl

@[simp] theorem saveWithEvent_sagas : (saveWithEvent w t a m now).filterMap Write.saga? = [] := rfl

@[simp] theorem saveWithEvent_wallets : (saveWithEvent w t a m now).filterMap Write.wallet? = [w] := rfl

end Writes

/-- `getOrCreate` writes no outbox row and no saga, and journals at most the wallet's
    WALLET_CREATED. -/
theorem getOrCreate_writes (s : Store M) (id : WalletId) (c : String) (now : Nat) :
    (∀ e ∈ (getOrCreate s id c now).2.filterMap Write.event?,
        e = WalletEvent.new id .WALLET_CREATED c none .null now) ∧
      (getOrCreate s id c now).2.filterMap Write.outbox? = [] ∧
      (getOrCreate s id c now).2.filterMap Write.saga? = [] := by
  unfold getOrCreate
  split
  · simp
  · split <;> simp [Write.event?, Write.outbox?, Write.saga?]

/-- The entity's exception, as the transaction throws it. -/
def liftMethod {α : Type} (m : Method M α) : Except (Err M) α := m.mapError (.wallet ∘ Prod.fst)

/-- `WalletService.deposit` and `withdraw`, as `executeIdempotentTransaction` sees them. -/
inductive Funds where
  | deposit
  | withdraw
  deriving DecidableEq, Repr

def Funds.eventType : Funds → WalletEventType
  | .deposit => .FUNDS_DEPOSITED
  | .withdraw => .FUNDS_WITHDRAWN

def Funds.autoCreateWallet : Funds → Bool
  | .deposit => true
  | .withdraw => false

/-- `(wallet) => wallet.deposit(amount)` and `(wallet) => wallet.withdraw(amount)`. -/
def Funds.operation (amount : M) (now : Nat) : Funds → Wallet M → Method M (Wallet M)
  | .deposit => fun w => w.deposit amount
  | .withdraw => fun w => w.withdraw amount now

/-- The wallet `executeIdempotentTransaction` works on, and the rows that create it:
    `getOrCreate(walletId, 'USD')` when `autoCreateWallet`, else `findByIdWithLock`. -/
def Funds.loadWallet (f : Funds) (s : Store M) (walletId : WalletId) (now : Nat) :
    Except (Err M) (Wallet M × List (Write M)) :=
  if f.autoCreateWallet then pure (getOrCreate s walletId "USD" now) else
    match s.wallets walletId with
    | some w => pure (w, [])
    | none => throw (.walletNotFound walletId)

/-- `executeIdempotentTransaction`'s transaction: the wallet (created for a deposit,
    locked and required for a withdrawal), the operation, the wallet and its event,
    the idempotency record when there is a request id, the outbox row. -/
def idempotentTx (f : Funds) (walletId : WalletId) (amount : M) (requestId : Option RequestId) (s : Store M)
    (now : Nat) : Except (Err M) (List (Write M) × Response M) := do
  let wallet ← f.loadWallet s walletId now
  let w ← liftMethod (f.operation amount now wallet.1)
  let result := Response.balance w.balance w.id
  let payload : Payload M := ⟨f.eventType, walletId, some amount, .request requestId, now⟩
  return (wallet.2 ++ saveWithEvent w f.eventType (some amount) (.request requestId) now ++
    (requestId.map fun r => Write.idempotency r result).toList ++
    [.outbox (OutboxRow.new walletId f.eventType payload now)], result)

/-! ### Spec lemmas of the bodies -/

omit [LinearOrderedCommRing M] in
@[simp] theorem liftMethod_ok {α : Type} {m : Method M α} {a : α} : liftMethod m = .ok a ↔ m = .ok a :=
  mapError_eq_ok

theorem getOrCreate_fst {s : Store M} {id : WalletId} {w : Wallet M} (h : s.wallets id = some w) (currency : String)
    (now : Nat) : getOrCreate s id currency now = (w, []) := by
  simp [getOrCreate, h]

theorem getOrCreate_none {s : Store M} {id : WalletId} (h : s.wallets id = none) (currency : String) (now : Nat) :
    getOrCreate s id currency now = (Wallet.new id currency, .wallet (Wallet.new id currency) ::
      if s.events.any (·.walletId == id) then [] else [.event (WalletEvent.new id .WALLET_CREATED currency none .null now)]) := by
  simp [getOrCreate, h]

theorem loadWallet_ok {f : Funds} {s : Store M} {walletId : WalletId} {now : Nat} {w : Wallet M}
    {created : List (Write M)} (h : f.loadWallet s walletId now = .ok (w, created)) :
    getOrCreate s walletId "USD" now = (w, created) ∨ s.wallets walletId = some w ∧ created = [] := by
  cases f
  · exact .inl (by simpa [Funds.loadWallet, Funds.autoCreateWallet] using h)
  · simp only [Funds.loadWallet, Funds.autoCreateWallet, Bool.false_eq_true, if_false] at h
    split at h
    · simp_all
    · cases h

/-- A deposit or a withdrawal that commits: the wallet it read (created for a deposit),
    the operation's result, and the writes. -/
theorem idempotentTx_ok {f : Funds} {walletId : WalletId} {amount : M} {requestId : Option RequestId}
    {s : Store M} {now : Nat} {ws : List (Write M)} {resp : Response M}
    (h : idempotentTx f walletId amount requestId s now = .ok (ws, resp)) :
    ∃ w created w', (getOrCreate s walletId "USD" now = (w, created) ∨ s.wallets walletId = some w ∧ created = []) ∧
      f.operation amount now w = .ok w' ∧ resp = .balance w'.balance w'.id ∧
      ws = created ++ saveWithEvent w' f.eventType (some amount) (.request requestId) now ++
        (requestId.map fun r => Write.idempotency r resp).toList ++
        [.outbox (OutboxRow.new walletId f.eventType ⟨f.eventType, walletId, some amount, .request requestId, now⟩ now)] := by
  obtain ⟨⟨w, created⟩, hw, h⟩ := bind_eq_ok.mp h
  obtain ⟨w', hop, h⟩ := bind_eq_ok.mp h
  simp only [pure_eq_ok, Prod.mk.injEq] at h
  obtain ⟨rfl, rfl⟩ := h
  exact ⟨w, created, w', loadWallet_ok hw, liftMethod_ok.mp hop, rfl, rfl⟩

/-- `freezeWallet`, `unfreezeWallet`, `closeWallet` and `setDailyWithdrawalLimit`. -/
inductive AdminOp (M : Type) where
  | freeze
  | unfreeze
  | close
  | setDailyWithdrawalLimit (limit : Option M)
  deriving DecidableEq, Repr

/-- The event type each writes: the limit change writes WALLET_UNFROZEN for a removed
    limit and WALLET_FROZEN for a set one (`// Placeholder as per original code`). -/
def AdminOp.eventType : AdminOp M → WalletEventType
  | .freeze => .WALLET_FROZEN
  | .unfreeze => .WALLET_UNFROZEN
  | .close => .WALLET_CLOSED
  | .setDailyWithdrawalLimit limit => if limit = none then .WALLET_UNFROZEN else .WALLET_FROZEN

def AdminOp.operation : AdminOp M → Wallet M → Method M (Wallet M)
  | .freeze => Wallet.freeze
  | .unfreeze => Wallet.unfreeze
  | .close => Wallet.close
  | .setDailyWithdrawalLimit limit => fun w => w.setDailyWithdrawalLimit limit

/-- Whether the call invalidates the balance cache afterwards: `setDailyWithdrawalLimit`
    does not. -/
def AdminOp.invalidatesCache : AdminOp M → Bool
  | .setDailyWithdrawalLimit _ => false
  | _ => true

/-- `executeStateChange`'s transaction (and `setDailyWithdrawalLimit`'s), on the wallet
    `findById` returned: it saves the whole entity, whatever the row holds now. -/
def stateChangeTx (op : AdminOp M) (walletId : WalletId) (read : Option (Wallet M)) (now : Nat) :
    Except (Err M) (List (Write M)) := do
  let w ← (match read with
    | some w => pure w
    | none => throw (.walletNotFound walletId))
  let w ← liftMethod (op.operation w)
  return saveWithEvent w op.eventType none .admin now ++
    [.outbox (OutboxRow.new walletId op.eventType ⟨op.eventType, walletId, none, .admin, now⟩ now)]

theorem stateChangeTx_ok {op : AdminOp M} {walletId : WalletId} {read : Option (Wallet M)} {now : Nat}
    {ws : List (Write M)} (h : stateChangeTx op walletId read now = .ok ws) :
    ∃ w w', read = some w ∧ op.operation w = .ok w' ∧
      ws = saveWithEvent w' op.eventType none .admin now ++
        [.outbox (OutboxRow.new walletId op.eventType ⟨op.eventType, walletId, none, .admin, now⟩ now)] := by
  obtain ⟨w, hw, h⟩ := bind_eq_ok.mp h
  obtain ⟨w', hop, h⟩ := bind_eq_ok.mp h
  refine ⟨w, w', ?_, liftMethod_ok.mp hop, (pure_eq_ok.mp h).symm⟩
  split at hw
  · simp_all
  · cases hw

/-- A deposit or withdrawal operation that returns had a positive amount and kept the
    wallet's id. -/
theorem Funds.operation_ok {f : Funds} {a : M} {now : Nat} {w w' : Wallet M} (h : f.operation a now w = .ok w') :
    0 < a ∧ w'.id = w.id := by
  cases f
  · obtain ⟨ha, -, rfl⟩ := Wallet.deposit_ok.mp h; exact ⟨ha, rfl⟩
  · obtain ⟨ha, -, -, -, rfl⟩ := Wallet.withdraw_ok.mp h; exact ⟨ha, rfl⟩

/-- An admin operation that returns keeps the wallet's id, balance and daily total. -/
theorem AdminOp.operation_keeps {op : AdminOp M} {w w' : Wallet M} (h : op.operation w = .ok w') :
    w'.id = w.id ∧ w'.balance = w.balance ∧ w'.dailyWithdrawalTotal = w.dailyWithdrawalTotal ∧
      w'.lastWithdrawalDate = w.lastWithdrawalDate := by
  cases op with
  | freeze => rw [Wallet.freeze_ok h]; exact ⟨rfl, rfl, rfl, rfl⟩
  | unfreeze => rw [Wallet.unfreeze_ok h]; split <;> exact ⟨rfl, rfl, rfl, rfl⟩
  | close => rw [(Wallet.close_ok h).2]; exact ⟨rfl, rfl, rfl, rfl⟩
  | setDailyWithdrawalLimit l => rw [Wallet.setDailyWithdrawalLimit_ok h]; exact ⟨rfl, rfl, rfl, rfl⟩

theorem getOrCreate_id {s : Store M} (hs : s.Wf) (id : WalletId) (c : String) (now : Nat) :
    (getOrCreate s id c now).1.id = id := by
  unfold getOrCreate
  split
  · exact hs.wallet_id _ _ ‹_›
  · rfl

/-- `executeTransactionalStep`: lock the wallet, apply the operation, save it, load the
    saga (unlocked), apply `updateSaga` when given, write the event and its outbox row. -/
def executeTransactionalStep (sagaId : SagaId) (walletId : WalletId) (amount : M)
    (operation : Wallet M → Method M (Wallet M)) (eventType : WalletEventType) (eventMetadata : EventMeta)
    (updateSaga : Option (TransferSaga M → Except SagaError (TransferSaga M))) (s : Store M) (now : Nat) :
    Except (Err M) (List (Write M)) := do
  let w ← (match s.wallets walletId with
    | some w => pure w
    | none => throw (.walletNotFound walletId))
  let w ← liftMethod (operation w)
  let saga ← (match s.sagas sagaId with
    | some g => pure g
    | none => throw (.sagaNotFound sagaId))
  let sagaWrites ← (match updateSaga with
    | some u => do
      let g ← (u saga).mapError .saga
      pure [Write.saga { g with updatedAt := now }]
    | none => pure [])
  return [.wallet w] ++ sagaWrites ++
    [.event (WalletEvent.new walletId eventType w.currency (some amount) eventMetadata now),
     .outbox (OutboxRow.new walletId eventType ⟨eventType, walletId, some amount, eventMetadata, now⟩ now)]

theorem executeTransactionalStep_ok {sagaId : SagaId} {walletId : WalletId} {amount : M}
    {operation : Wallet M → Method M (Wallet M)} {eventType : WalletEventType} {eventMetadata : EventMeta}
    {updateSaga : Option (TransferSaga M → Except SagaError (TransferSaga M))} {s : Store M} {now : Nat}
    {ws : List (Write M)}
    (h : executeTransactionalStep sagaId walletId amount operation eventType eventMetadata updateSaga s now = .ok ws) :
    ∃ w w' saga sagaWrites, s.wallets walletId = some w ∧ operation w = .ok w' ∧ s.sagas sagaId = some saga ∧
      (updateSaga = none ∧ sagaWrites = [] ∨
        ∃ u g, updateSaga = some u ∧ u saga = .ok g ∧ sagaWrites = [.saga { g with updatedAt := now }]) ∧
      ws = [.wallet w'] ++ sagaWrites ++
        [.event (WalletEvent.new walletId eventType w'.currency (some amount) eventMetadata now),
         .outbox (OutboxRow.new walletId eventType ⟨eventType, walletId, some amount, eventMetadata, now⟩ now)] := by
  obtain ⟨w, hw, h⟩ := bind_eq_ok.mp h
  obtain ⟨w', hop, h⟩ := bind_eq_ok.mp h
  obtain ⟨saga, hs, h⟩ := bind_eq_ok.mp h
  obtain ⟨sagaWrites, hu, h⟩ := bind_eq_ok.mp h
  refine ⟨w, w', saga, sagaWrites, ?_, liftMethod_ok.mp hop, ?_, ?_, (pure_eq_ok.mp h).symm⟩
  · split at hw
    · exact pure_eq_ok.mp hw ▸ ‹_›
    · cases hw
  · split at hs
    · exact pure_eq_ok.mp hs ▸ ‹_›
    · cases hs
  · split at hu
    · obtain ⟨g, hg, hu⟩ := bind_eq_ok.mp hu
      exact .inr ⟨_, g, rfl, mapError_eq_ok.mp hg, (pure_eq_ok.mp hu).symm⟩
    · exact .inl ⟨rfl, (pure_eq_ok.mp hu).symm⟩

def debitFromSender (saga : TransferSaga M) (s : Store M) (now : Nat) : Except (Err M) (List (Write M)) :=
  executeTransactionalStep saga.id saga.fromWalletId saga.amount (fun w => w.withdraw saga.amount now)
    .FUNDS_WITHDRAWN (.debit saga.id saga.toWalletId) (some TransferSaga.markAsDebited) s now

def creditToReceiver (saga : TransferSaga M) (s : Store M) (now : Nat) : Except (Err M) (List (Write M)) :=
  executeTransactionalStep saga.id saga.toWalletId saga.amount (fun w => w.credit saga.amount)
    .FUNDS_DEPOSITED (.credit saga.id saga.fromWalletId) none s now

def compensate (sagaId : SagaId) (fromWalletId : WalletId) (amount : M) (s : Store M) (now : Nat) :
    Except (Err M) (List (Write M)) :=
  executeTransactionalStep sagaId fromWalletId amount (fun w => w.credit amount)
    .TRANSFER_COMPENSATED (.compensation sagaId) (some TransferSaga.markAsCompensated) s now

/-- The debit leg commits only from a PENDING saga: the wallet, the saga DEBITED, the
    FUNDS_WITHDRAWN event and its outbox row. -/
theorem debitFromSender_ok {saga : TransferSaga M} {s : Store M} {now : Nat} {ws : List (Write M)}
    (h : debitFromSender saga s now = .ok ws) :
    ∃ x w w', s.sagas saga.id = some x ∧ x.state = .PENDING ∧ s.wallets saga.fromWalletId = some w ∧
      w.withdraw saga.amount now = .ok w' ∧
      ws = [.wallet w', .saga { x with state := .DEBITED, updatedAt := now },
        .event (WalletEvent.new saga.fromWalletId .FUNDS_WITHDRAWN w'.currency (some saga.amount)
          (.debit saga.id saga.toWalletId) now),
        .outbox (OutboxRow.new saga.fromWalletId .FUNDS_WITHDRAWN
          ⟨.FUNDS_WITHDRAWN, saga.fromWalletId, some saga.amount, .debit saga.id saga.toWalletId, now⟩ now)] := by
  obtain ⟨w, w', x, sw, hw, hop, hx, hu, rfl⟩ := executeTransactionalStep_ok h
  rcases hu with ⟨h1, -⟩ | ⟨u, g, hu, hg, rfl⟩
  · cases h1
  · cases hu
    obtain ⟨hp, rfl⟩ := TransferSaga.markAsDebited_ok.mp hg
    exact ⟨x, w, w', hx, hp, hw, hop, rfl⟩

/-- The credit leg needs the saga to exist and checks no state of it. -/
theorem creditToReceiver_ok {saga : TransferSaga M} {s : Store M} {now : Nat} {ws : List (Write M)}
    (h : creditToReceiver saga s now = .ok ws) :
    ∃ x w w', s.sagas saga.id = some x ∧ s.wallets saga.toWalletId = some w ∧ w.credit saga.amount = .ok w' ∧
      ws = [.wallet w',
        .event (WalletEvent.new saga.toWalletId .FUNDS_DEPOSITED w'.currency (some saga.amount)
          (.credit saga.id saga.fromWalletId) now),
        .outbox (OutboxRow.new saga.toWalletId .FUNDS_DEPOSITED
          ⟨.FUNDS_DEPOSITED, saga.toWalletId, some saga.amount, .credit saga.id saga.fromWalletId, now⟩ now)] := by
  obtain ⟨w, w', x, sw, hw, hop, hx, hu, rfl⟩ := executeTransactionalStep_ok h
  rcases hu with ⟨-, rfl⟩ | ⟨u, g, hu, -, -⟩
  · exact ⟨x, w, w', hx, hw, hop, rfl⟩
  · cases hu

/-- The compensation leg commits only from a DEBITED saga: the sender refunded, the
    saga COMPENSATED, the TRANSFER_COMPENSATED event and its outbox row. -/
theorem compensate_ok {sagaId : SagaId} {fromWalletId : WalletId} {amount : M} {s : Store M} {now : Nat}
    {ws : List (Write M)} (h : compensate sagaId fromWalletId amount s now = .ok ws) :
    ∃ x w w', s.sagas sagaId = some x ∧ x.state = .DEBITED ∧ s.wallets fromWalletId = some w ∧
      w.credit amount = .ok w' ∧
      ws = [.wallet w', .saga { x with state := .COMPENSATED, updatedAt := now },
        .event (WalletEvent.new fromWalletId .TRANSFER_COMPENSATED w'.currency (some amount) (.compensation sagaId) now),
        .outbox (OutboxRow.new fromWalletId .TRANSFER_COMPENSATED
          ⟨.TRANSFER_COMPENSATED, fromWalletId, some amount, .compensation sagaId, now⟩ now)] := by
  obtain ⟨w, w', x, sw, hw, hop, hx, hu, rfl⟩ := executeTransactionalStep_ok h
  rcases hu with ⟨h1, -⟩ | ⟨u, g, hu, hg, rfl⟩
  · cases h1
  · cases hu
    obtain ⟨hp, rfl⟩ := TransferSaga.markAsCompensated_ok.mp hg
    exact ⟨x, w, w', hx, hp, hw, hop, rfl⟩

end

end EventWallet
