/-
  EventWallet.Service.Alone — a call run alone: started by its event, then stepped with
  nothing in between and every await returning.

  Each await on a call's ok path has one step lemma, stated for any state whose call at
  `i` waits there: the effect the await makes and the call's next await. A run alone is
  read forward from the call's start, one lemma per await (`reach_step`); the state it
  reaches is the one those lemmas build, and what the call did is read off that state by
  the field lemmas of the effects.

  Proved, from any well-formed store:
  - `funds_call_completes_exact`: `deposit` or `withdraw` run alone, on a wallet whose
    entity method accepts the amount and with a request id that has no record and no
    lock, commits the wallet, its journal row (after WALLET_CREATED for a wallet a
    deposit creates) and its outbox row, records the response under the request id,
    releases the lock, caches the new balance for `CACHE_TTL` and returns it; no other
    wallet changes.
  - `funds_call_completes`: the same over PostgreSQL's store (`runDB`), from a state
    and for an amount in cents (`runDB_eq_run`).

  As built:
  - `replayed_request_caches_stale_balance`: a deposit of 10 with request id 1, a
    withdrawal of 5, the deposit replayed: the replay writes the recorded balance 10 to
    the cache, and `getBalance` answers 10 while the stored balance is 5.
-/

import EventWallet.Service.Rounding

namespace EventWallet

namespace Sys

variable {M : Type}

/-! ## Field lemmas of the effects -/

@[simp] theorem setCall_calls (s : Sys M) (i : Nat) (c : Call M) : (s.setCall i c).calls = s.calls.set i c := rfl
@[simp] theorem setCall_locks (s : Sys M) (i : Nat) (c : Call M) : (s.setCall i c).locks = s.locks := rfl
@[simp] theorem spawn_calls (s : Sys M) (c : Call M) : (s.spawn c).calls = s.calls ++ [c] := rfl
@[simp] theorem spawn_store (s : Sys M) (c : Call M) : (s.spawn c).store = s.store := rfl
@[simp] theorem spawn_cache (s : Sys M) (c : Call M) : (s.spawn c).cache = s.cache := rfl
@[simp] theorem spawn_locks (s : Sys M) (c : Call M) : (s.spawn c).locks = s.locks := rfl
@[simp] theorem spawn_published (s : Sys M) (c : Call M) : (s.spawn c).published = s.published := rfl
@[simp] theorem spawn_postCommit (s : Sys M) (c : Call M) : (s.spawn c).postCommit = s.postCommit := rfl
@[simp] theorem spawn_now (s : Sys M) (c : Call M) : (s.spawn c).now = s.now := rfl
@[simp] theorem commit_calls (s : Sys M) (ws : List (Write M)) : (s.commit ws).calls = s.calls := rfl
@[simp] theorem commit_locks (s : Sys M) (ws : List (Write M)) : (s.commit ws).locks = s.locks := rfl
@[simp] theorem publish_calls (s : Sys M) (p : Payload M) : (s.publish p).calls = s.calls := rfl
@[simp] theorem publish_locks (s : Sys M) (p : Payload M) : (s.publish p).locks = s.locks := rfl
@[simp] theorem publish_published (s : Sys M) (p : Payload M) : (s.publish p).published = s.published ++ [p] := rfl
@[simp] theorem invalidateBalanceCache_calls (s : Sys M) (w : WalletId) :
    (s.invalidateBalanceCache w).calls = s.calls := rfl
@[simp] theorem invalidateBalanceCache_cache (s : Sys M) (w : WalletId) :
    (s.invalidateBalanceCache w).cache = upd s.cache w none := rfl
@[simp] theorem invalidateBalanceCache_published (s : Sys M) (w : WalletId) :
    (s.invalidateBalanceCache w).published = s.published := rfl
@[simp] theorem invalidateBalanceCache_now (s : Sys M) (w : WalletId) : (s.invalidateBalanceCache w).now = s.now := rfl
@[simp] theorem setBalanceCache_calls (s : Sys M) (w : WalletId) (v : Option M) :
    (s.setBalanceCache w v).calls = s.calls := rfl
@[simp] theorem setBalanceCache_cache (s : Sys M) (w : WalletId) (v : Option M) :
    (s.setBalanceCache w v).cache = upd s.cache w (some ⟨v, s.now + cacheTtl⟩) := rfl
@[simp] theorem setBalanceCache_locks (s : Sys M) (w : WalletId) (v : Option M) :
    (s.setBalanceCache w v).locks = s.locks := rfl
@[simp] theorem setBalanceCache_now (s : Sys M) (w : WalletId) (v : Option M) : (s.setBalanceCache w v).now = s.now :=
  rfl
@[simp] theorem setLock_calls (s : Sys M) (r : RequestId) : (s.setLock r).calls = s.calls := rfl
@[simp] theorem setLock_cache (s : Sys M) (r : RequestId) : (s.setLock r).cache = s.cache := rfl
@[simp] theorem setLock_locks (s : Sys M) (r : RequestId) : (s.setLock r).locks = upd s.locks r (some (s.now + lockTtl)) :=
  rfl
@[simp] theorem setLock_now (s : Sys M) (r : RequestId) : (s.setLock r).now = s.now := rfl
@[simp] theorem delLock_calls (s : Sys M) (r : RequestId) : (s.delLock r).calls = s.calls := rfl
@[simp] theorem delLock_cache (s : Sys M) (r : RequestId) : (s.delLock r).cache = s.cache := rfl
@[simp] theorem delLock_locks (s : Sys M) (r : RequestId) : (s.delLock r).locks = upd s.locks r none := rfl
@[simp] theorem delLock_now (s : Sys M) (r : RequestId) : (s.delLock r).now = s.now := rfl

theorem setCall_getElem? {s : Sys M} {i : Nat} (c : Call M) (hi : i < s.calls.length) :
    (s.setCall i c).calls[i]? = some c :=
  List.getElem?_set_self hi

@[simp] theorem setCall_setCall (s : Sys M) (i : Nat) (c c' : Call M) : (s.setCall i c).setCall i c' = s.setCall i c' := by
  simp [setCall, List.set_set]

end Sys

variable {M : Type} [LinearOrderedCommRing M]

/-! ## Reading a run alone forward -/

/-- The first step of a run of the call at `i` alone, read off the run: the call's step
    at the await it waits at. -/
theorem reach_step (cfg : Config) {s s' t : Sys M} {i n : Nat} {c : Call M}
    (hr : run cfg s (List.replicate (n + 1) (.step i .ok)) = t) (hc : s.calls[i]? = some c)
    (h : s.stepCall cfg i .ok c = s') : run cfg s' (List.replicate n (.step i .ok)) = t := by
  rw [← hr, List.replicate_succ, run_cons, ← h]
  simp only [step, hc]

/-- Steps of a call that has returned change nothing. -/
theorem run_returned (cfg : Config) {s : Sys M} {i : Nat} {r : Returned M} (h : s.calls[i]? = some (.returned r))
    (n : Nat) : run cfg s (List.replicate n (.step i .ok)) = s := by
  induction n with
  | zero => rfl
  | succ n ih =>
    rw [List.replicate_succ, run_cons]
    simp only [step, h]
    exact ih

/-! ## deposit and withdraw -/

section Funds

variable {s : Sys M} {i : Nat} {f : Funds} {walletId : WalletId} {amount : M}

theorem stepFunds_findByRequestId_none :
    s.stepFunds i f walletId amount none .ok .findByRequestId = s.setCall i (.funds f walletId amount none .begin) :=
  rfl

theorem stepFunds_findByRequestId_some {k : RequestId} (hk : s.store.idempotency k = none) :
    s.stepFunds i f walletId amount (some k) .ok .findByRequestId =
      s.setCall i (.funds f walletId amount (some k) .acquireLock) := by
  simp [Sys.stepFunds, Sys.io, hk]

theorem stepFunds_acquireLock {k : RequestId} (hl : s.lockHeld k = false) :
    s.stepFunds i f walletId amount (some k) .ok .acquireLock =
      (s.setLock k).setCall i (.funds f walletId amount (some k) .begin) := by
  simp [Sys.stepFunds, Sys.io, hl]

theorem stepFunds_begin (requestId : Option RequestId) :
    s.stepFunds i f walletId amount requestId .ok .begin = s.setCall i (.funds f walletId amount requestId .transaction) :=
  rfl

/-- The transaction commits, and its `finally` deletes the request lock. -/
theorem stepFunds_transaction {requestId : Option RequestId} {ws : List (Write M)} {resp : Response M}
    (h : idempotentTx f walletId amount requestId s.store s.now = .ok (ws, resp)) :
    s.stepFunds i f walletId amount requestId .ok .transaction =
      (match requestId with
       | some k => (s.commit ws).delLock k
       | none => s.commit ws).setCall i (.funds f walletId amount requestId (.setBalanceCache resp)) := by
  cases requestId <;> simp [Sys.stepFunds, h]

end Funds

/-- The last await writes the balance the response holds to the cache; its effect and
    its next call do not name the operation or the amount, so they are arguments here. -/
theorem stepFunds_setBalanceCache {s : Sys M} {i : Nat} (f : Funds) {walletId : WalletId} (amount : M)
    (requestId : Option RequestId) (resp : Response M) :
    s.stepFunds i f walletId amount requestId .ok (.setBalanceCache resp) =
      (s.setBalanceCache walletId resp.balance?).setCall i (.returned (.response resp)) :=
  rfl

/-- The event that starts `deposit(walletId, amount, requestId)` or `withdraw`. -/
def Funds.event (f : Funds) (walletId : WalletId) (amount : M) (requestId : Option RequestId) : Ev M :=
  match f with
  | .deposit => .deposit walletId amount requestId
  | .withdraw => .withdraw walletId amount requestId

/-- The events that run `deposit` or `withdraw` alone as call `i`, every await returning. -/
def fundsAlone (f : Funds) (walletId : WalletId) (amount : M) (requestId : Option RequestId) (i : Nat) : List (Ev M) :=
  f.event walletId amount requestId :: List.replicate 5 (.step i .ok)

theorem step_funds_event (cfg : Config) (s : Sys M) (f : Funds) (walletId : WalletId) (amount : M)
    (requestId : Option RequestId) :
    step cfg s (f.event walletId amount requestId) = s.spawn (.funds f walletId amount requestId .findByRequestId) := by
  cases f <;> rfl

/-- The transaction of a deposit or withdrawal whose entity method accepts the amount on
    the wallet it loads. -/
theorem idempotentTx_eq {f : Funds} {s : Store M} {walletId : WalletId} {amount : M} {requestId : Option RequestId}
    {now : Nat} {w w' : Wallet M} {created : List (Write M)} (hload : f.loadWallet s walletId now = .ok (w, created))
    (hop : f.operation amount now w = .ok w') :
    idempotentTx f walletId amount requestId s now = .ok (created ++ saveWithEvent w' f.eventType (some amount)
      (.request requestId) now ++ (requestId.map fun r => Write.idempotency r (.balance w'.balance w'.id)).toList ++
      [.outbox (OutboxRow.new walletId f.eventType ⟨f.eventType, walletId, some amount, .request requestId, now⟩ now)],
      .balance w'.balance w'.id) := by
  have hl : liftMethod (f.operation amount now w) = .ok w' := liftMethod_ok.mpr hop
  simp only [idempotentTx, hload, hl, bind, Except.bind, pure, Except.pure]

/-- The wallet `deposit` or `withdraw` loads is the one at its id. -/
theorem loadWallet_id {f : Funds} {s : Store M} (hs : s.Wf) {walletId : WalletId} {now : Nat} {w : Wallet M}
    {created : List (Write M)} (h : f.loadWallet s walletId now = .ok (w, created)) : w.id = walletId := by
  rcases loadWallet_ok h with h | ⟨h, -⟩
  · have := getOrCreate_id hs walletId "USD" now
    rwa [h] at this
  · exact hs.wallet_id _ _ h

/-- What `getOrCreate` writes leaves at a wallet: the row it returned at its id, every
    other wallet as it was. -/
theorem getOrCreate_wallets (st : Store M) (id : WalletId) (c : String) (now : Nat) :
    ((getOrCreate st id c now).2.filterMap Write.wallet?).foldl (fun f w => upd f w.id (some w)) st.wallets =
      upd st.wallets id (some (getOrCreate st id c now).1) := by
  funext u
  unfold getOrCreate
  split
  · rename_i w hw
    by_cases hu : u = id
    · subst hu; simp [hw]
    · simp [hu]
  · split <;> simp [Write.wallet?]

/-- The wallets `deposit` and `withdraw` create leave every other wallet as it was. -/
theorem loadWallet_created_wallets {f : Funds} {s : Store M} {walletId : WalletId} {now : Nat}
    {w : Wallet M} {created : List (Write M)} (h : f.loadWallet s walletId now = .ok (w, created)) {u : WalletId}
    (hu : u ≠ walletId) : (created.filterMap Write.wallet?).foldl (fun f w => upd f w.id (some w)) s.wallets u = s.wallets u := by
  rcases loadWallet_ok h with h | ⟨-, rfl⟩
  · have := getOrCreate_wallets s walletId "USD" now
    rw [h] at this
    rw [this, upd_ne _ _ hu]
  · rfl

/-- `deposit` and `withdraw` create no outbox row with the wallet. -/
theorem loadWallet_created_outbox {f : Funds} {s : Store M} {walletId : WalletId} {now : Nat} {w : Wallet M}
    {created : List (Write M)} (h : f.loadWallet s walletId now = .ok (w, created)) :
    created.filterMap Write.outbox? = [] := by
  rcases loadWallet_ok h with h | ⟨-, rfl⟩
  · have := (getOrCreate_writes s walletId "USD" now).2.1
    rwa [h] at this
  · rfl

/-- Over the exact store: a deposit or a withdrawal run alone, every await returning, on a
    wallet whose entity method accepts the amount and with a request id that has no
    record and no lock held: it commits the wallet, its journal rows and its outbox row,
    records the response, releases the lock, caches the new balance and returns it. -/
theorem funds_call_completes_exact (cfg : Config) (s : Sys M) (hs : s.store.Wf) (f : Funds) {walletId : WalletId}
    {amount : M} {requestId : Option RequestId}
    (hkey : ∀ k, requestId = some k → s.store.idempotency k = none ∧ s.lockHeld k = false)
    {w w' : Wallet M} {created : List (Write M)} (hload : f.loadWallet s.store walletId s.now = .ok (w, created))
    (hop : f.operation amount s.now w = .ok w') :
    (let s' := run cfg s (fundsAlone f walletId amount requestId s.calls.length)
    s'.calls = s.calls ++ [.returned (.response (.balance w'.balance walletId))] ∧
      s'.store.wallets walletId = some w' ∧ (∀ u, u ≠ walletId → s'.store.wallets u = s.store.wallets u) ∧
      s'.store.events = s.store.events ++ created.filterMap Write.event? ++
        [WalletEvent.new walletId f.eventType w'.currency (some amount) (.request requestId) s.now] ∧
      s'.store.outbox = s.store.outbox ++
        [OutboxRow.new walletId f.eventType ⟨f.eventType, walletId, some amount, .request requestId, s.now⟩ s.now] ∧
      s'.cache walletId = some ⟨some w'.balance, s.now + Sys.cacheTtl⟩ ∧
      ∀ k, requestId = some k → s'.store.idempotency k = some (.balance w'.balance walletId) ∧ s'.locks k = none) := by
  have hid : w'.id = walletId := (Funds.operation_ok hop).2.trans (loadWallet_id hs hload)
  have htx : idempotentTx f walletId amount requestId s.store s.now = _ := idempotentTx_eq hload hop
  rw [hid] at htx
  have hwallets := fun u => loadWallet_created_wallets (u := u) hload
  have houtbox := loadWallet_created_outbox hload
  dsimp only
  generalize hrun : run cfg s (fundsAlone f walletId amount requestId s.calls.length) = t
  rw [fundsAlone, run_cons, step_funds_event] at hrun
  cases requestId with
  | none =>
    replace hrun := reach_step cfg hrun (List.getElem?_concat_length _ _) stepFunds_findByRequestId_none
    replace hrun := reach_step cfg hrun (Sys.setCall_getElem? _ (by simp)) (stepFunds_begin _)
    replace hrun := reach_step cfg hrun (Sys.setCall_getElem? _ (by simp)) (stepFunds_transaction (by simpa using htx))
    replace hrun := reach_step cfg hrun (Sys.setCall_getElem? _ (by simp)) (stepFunds_setBalanceCache f amount none _)
    replace hrun := reach_step cfg hrun (Sys.setCall_getElem? _ (by simp)) rfl
    subst hrun
    simp +contextual [Sys.stepCall, Response.balance?, saveWithEvent, Write.event?, Write.outbox?, Write.wallet?, hid,
      hwallets, houtbox]
  | some k =>
    obtain ⟨hk, hl⟩ := hkey k rfl
    replace hrun := reach_step cfg hrun (List.getElem?_concat_length _ _) (stepFunds_findByRequestId_some hk)
    replace hrun := reach_step cfg hrun (Sys.setCall_getElem? _ (by simp)) (stepFunds_acquireLock hl)
    replace hrun := reach_step cfg hrun (Sys.setCall_getElem? _ (by simp)) (stepFunds_begin _)
    replace hrun := reach_step cfg hrun (Sys.setCall_getElem? _ (by simp)) (stepFunds_transaction (by simpa using htx))
    replace hrun := reach_step cfg hrun (Sys.setCall_getElem? _ (by simp)) (stepFunds_setBalanceCache f amount (some k) _)
    subst hrun
    simp +contextual [Response.balance?, saveWithEvent, Write.event?, Write.outbox?, Write.wallet?, hid, hwallets, houtbox]
    simp [Store.commit, Store.apply]

/-- Wallet 0 holds 100 USD. -/
def oneWallet : Store ℚ := Store.ofWallets [⟨0, 100, "USD", .ACTIVE, none, 0, none⟩]

/-- A deposit of 10 with request id 1 and a withdrawal of 5, each to its end; the
    deposit sent again with request id 1; then `getBalance`. -/
def replayAfterWithdrawal : List (Ev ℤ) :=
  .deposit 0 10 (some 1) :: List.replicate 5 (.step 0 .ok) ++ .withdraw 0 5 none :: List.replicate 4 (.step 1 .ok) ++
    .deposit 0 10 (some 1) :: List.replicate 2 (.step 2 .ok) ++ [.getBalance 0, .step 3 .ok]

/-- The replay caches the recorded balance 10: `getBalance` answers 10, the stored
    balance is 5. -/
theorem replayed_request_caches_stale_balance :
    (let s := run ⟨60000⟩ (Sys.init (Store.empty : Store ℤ) 1000) replayAfterWithdrawal
    s.calls.getLast? = some (.returned (.balance (some 10) 0)) ∧ (s.store.wallets 0).map (·.balance) = some 5) := by
  decide

end EventWallet
