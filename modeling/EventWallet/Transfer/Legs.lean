/-
  EventWallet.Transfer.Legs — what a transfer saga commits to wallets, over every run of
  `executeTransfer`, `recoverSaga` and `processStuckSagas` among all the other calls.

  A saga's legs are the journal rows that carry its id: its debit (FUNDS_WITHDRAWN),
  its credits (FUNDS_DEPOSITED) and its refund (TRANSFER_COMPENSATED). The debit leg
  moves the stored saga PENDING → DEBITED and the refund DEBITED → COMPENSATED, both in
  the leg's transaction, and nothing but the insert writes PENDING. The credit leg
  checks no state of the saga, and after it the saga stays DEBITED until a later save.

  What a transaction does to the sagas is said once (`SagaMove`, from `Commits.sagaMove`);
  a relation of a saga's stored state to its debits and refunds that allows the moves
  of `PhaseRules` is then kept by every transaction (`SagaMove.phased`).

  Proved, over every run from a well-formed store whose journal agrees with its sagas:
  - `saga_debits_and_refunds_at_most_once`: every saga has at most one debit and at
    most one refund.

  As built:
  - `transfer_credits_and_refunds`: a transfer whose COMPLETED save throws after the
    credit leg committed: its `catch` reloads the saga, still DEBITED, and refunds the
    sender; the receiver keeps the credit and the two balances sum to 50 more than
    before, with the saga COMPENSATED.
  - `duplicate_transfers_both_move_money`: two `executeTransfer` calls with one request
    id, both past their idempotency lookup before either saves its key, run two sagas
    and move the amount twice.
-/

import EventWallet.Service.Steps

namespace EventWallet

variable {M : Type}

/-- The rows of saga `g`'s legs of type `t` in the journal. -/
def legs (s : Store M) (g : SagaId) (t : WalletEventType) : Nat :=
  s.events.countP fun e => e.eventType = t ∧ e.metadata.sagaId? = some g

/-- What the saga's stored state allows of its debits `d` and refunds `r`. -/
def PhaseOk : Option TransferSagaState → Nat → Nat → Prop
  | none, d, r | some .PENDING, d, r => d = 0 ∧ r = 0
  | some .DEBITED, d, r => d ≤ 1 ∧ r = 0
  | some _, d, r => d ≤ 1 ∧ r ≤ 1

/-- Saga `g`'s row and its legs agree. -/
def LegsOk (s : Store M) (g : SagaId) : Prop :=
  PhaseOk ((s.sagas g).map (·.state)) (legs s g .FUNDS_WITHDRAWN) (legs s g .TRANSFER_COMPENSATED)

/-! ## The phases -/

theorem PhaseOk.bound {o : Option TransferSagaState} {d r : Nat} (h : PhaseOk o d r) : d ≤ 1 ∧ r ≤ 1 := by
  rcases o with _ | ⟨_ | _ | _ | _ | _⟩ <;> simp only [PhaseOk] at h <;> omega

/-- A COMPLETED or FAILED save may land on any row. -/
theorem PhaseOk.final {o : Option TransferSagaState} {d r : Nat} (h : PhaseOk o d r) {st : TransferSagaState}
    (hst : st = .COMPLETED ∨ st = .FAILED) : PhaseOk (some st) d r := by
  have := h.bound
  rcases hst with rfl | rfl <;> exact this

theorem PhaseOk.debit {d r : Nat} (h : PhaseOk (some .PENDING) d r) : PhaseOk (some .DEBITED) (d + 1) r := by
  simp only [PhaseOk] at h ⊢; omega

theorem PhaseOk.compensate {d r : Nat} (h : PhaseOk (some .DEBITED) d r) : PhaseOk (some .COMPENSATED) d (r + 1) := by
  simp only [PhaseOk] at h ⊢; omega

theorem PhaseOk.insert {d r : Nat} (h : PhaseOk none d r) : PhaseOk (some .PENDING) d r := h

/-- The phase moves a relation `P` of a saga's stored state to its debits and refunds
    allows: the insert, the debit leg, the compensation leg, and a COMPLETED or FAILED
    save of any row. -/
structure PhaseRules (P : Option TransferSagaState → Nat → Nat → Prop) : Prop where
  insert : ∀ {d r}, P none d r → P (some .PENDING) d r
  debit : ∀ {d r}, P (some .PENDING) d r → P (some .DEBITED) (d + 1) r
  compensate : ∀ {d r}, P (some .DEBITED) d r → P (some .COMPENSATED) d (r + 1)
  final : ∀ {o d r st}, P o d r → st = .COMPLETED ∨ st = .FAILED → P (some st) d r

theorem PhaseOk.rules : PhaseRules PhaseOk :=
  ⟨PhaseOk.insert, PhaseOk.debit, PhaseOk.compensate, fun h hst => h.final hst⟩

/-- Saga `g`'s row and its legs as `P` relates them. -/
def Phased (P : Option TransferSagaState → Nat → Nat → Prop) (s : Store M) (g : SagaId) : Prop :=
  P ((s.sagas g).map (·.state)) (legs s g .FUNDS_WITHDRAWN) (legs s g .TRANSFER_COMPENSATED)

/-! ## What each transaction does to the sagas -/

/-- The saga rows one transaction writes and its journal rows, by what they do to the
    sagas: nothing (no saga row, no debit or refund of a saga); the insert of a PENDING
    saga at a fresh id; the debit leg, PENDING → DEBITED with its debit; the
    compensation leg, DEBITED → COMPENSATED with its refund; a COMPLETED or FAILED save. -/
inductive SagaMove (s : Store M) : List (TransferSaga M) → List (WalletEvent M) → Prop
  | none {es : List (WalletEvent M)} :
      (∀ e ∈ es, e.eventType = .FUNDS_WITHDRAWN ∨ e.eventType = .TRANSFER_COMPENSATED → e.metadata.sagaId? = none) →
      SagaMove s [] es
  | insert (g : TransferSaga M) : s.sagas g.id = none → g.state = .PENDING → SagaMove s [g] []
  | debit (x : TransferSaga M) (e : WalletEvent M) (now : Nat) : s.sagas x.id = some x → x.state = .PENDING →
      e.eventType = .FUNDS_WITHDRAWN → e.metadata.sagaId? = some x.id →
      SagaMove s [{ x with state := .DEBITED, updatedAt := now }] [e]
  | compensate (x : TransferSaga M) (e : WalletEvent M) (now : Nat) : s.sagas x.id = some x → x.state = .DEBITED →
      e.eventType = .TRANSFER_COMPENSATED → e.metadata.sagaId? = some x.id →
      SagaMove s [{ x with state := .COMPENSATED, updatedAt := now }] [e]
  | save (g : TransferSaga M) : g.state = .COMPLETED ∨ g.state = .FAILED → SagaMove s [g] []

section Commit

variable {s : Store M} {g : SagaId}

@[simp] theorem legs_commit (ws : List (Write M)) (t : WalletEventType) :
    legs (s.commit ws) g t = legs s g t + (ws.filterMap Write.event?).countP
      (fun e => e.eventType = t ∧ e.metadata.sagaId? = some g) := by
  simp [legs, List.countP_append]

theorem Store.sagas_commit_one {ws : List (Write M)} {x : TransferSaga M} (hr : ws.filterMap Write.saga? = [x])
    (g : SagaId) : (s.commit ws).sagas g = if g = x.id then some x else s.sagas g := by
  simp only [Store.commit_sagas, hr, List.foldl_cons, List.foldl_nil, upd]

/-- Journal rows with no leg of type `t` of saga `g` count none. -/
theorem countP_legs_zero {es : List (WalletEvent M)} {t : WalletEventType}
    (h : ∀ e ∈ es, e.eventType = t → e.metadata.sagaId? ≠ some g) :
    es.countP (fun e => e.eventType = t ∧ e.metadata.sagaId? = some g) = 0 :=
  List.countP_eq_zero.mpr fun e he hp => h e he (of_decide_eq_true hp).1 (of_decide_eq_true hp).2

/-- One leg of saga `x` counts once for `x` among the legs of its type. -/
theorem countP_legs_single {e : WalletEvent M} {t : WalletEventType} {x : SagaId} (ht : e.eventType = t)
    (hx : e.metadata.sagaId? = some x) :
    [e].countP (fun e => e.eventType = t ∧ e.metadata.sagaId? = some g) = if g = x then 1 else 0 := by
  by_cases hg : g = x
  · simp [ht, hx, hg]
  · simp [ht, hx, hg, Ne.symm hg]

/-- Every relation that follows the phase rules is kept by every transaction. -/
theorem SagaMove.phased {P : Option TransferSagaState → Nat → Nat → Prop} (hP : PhaseRules P)
    {rows : List (TransferSaga M)} {es : List (WalletEvent M)} (hm : SagaMove s rows es) (hl : ∀ g, Phased P s g)
    {ws : List (Write M)} (hr : ws.filterMap Write.saga? = rows) (he : ws.filterMap Write.event? = es) (g : SagaId) :
    Phased P (s.commit ws) g := by
  unfold Phased
  rw [legs_commit, legs_commit, he]
  cases hm with
  | none hq =>
    have hz : ∀ t, t = .FUNDS_WITHDRAWN ∨ t = .TRANSFER_COMPENSATED →
        es.countP (fun e => e.eventType = t ∧ e.metadata.sagaId? = some g) = 0 :=
      fun t ht => countP_legs_zero fun e he' het => by simp [hq e he' (het ▸ ht)]
    rw [hz _ (.inl rfl), hz _ (.inr rfl), Store.commit_sagas, hr, List.foldl_nil]
    exact hl g
  | insert x hx hst =>
    rw [Store.sagas_commit_one hr]
    split
    · rename_i e; subst e; simpa [hst] using hP.insert (by simpa [Phased, hx] using hl x.id)
    · simpa using hl g
  | debit x e now hx hst ht hg =>
    rw [Store.sagas_commit_one hr, countP_legs_single ht hg, countP_legs_zero fun e' he' h' => by simp_all]
    split
    · rename_i e; subst e; simpa using hP.debit (by simpa [Phased, hx, hst] using hl x.id)
    · rename_i hne; simpa [hne] using hl g
  | compensate x e now hx hst ht hg =>
    rw [Store.sagas_commit_one hr, countP_legs_single ht hg, countP_legs_zero fun e' he' h' => by simp_all]
    split
    · rename_i e; subst e; simpa using hP.compensate (by simpa [Phased, hx, hst] using hl x.id)
    · rename_i hne; simpa [hne] using hl g
  | save x hst =>
    rw [Store.sagas_commit_one hr]
    split
    · rename_i e; subst e; simpa using hP.final (hl x.id) hst
    · simpa using hl g

end Commit

variable [LinearOrderedCommRing M]

/-- Every transaction a call can commit writes saga rows and saga legs of one of the
    shapes of `SagaMove`. -/
theorem Commits.sagaMove {s : Sys M} {ws : List (Write M)} (hw : s.Wf) (h : Commits s ws) :
    SagaMove s.store (ws.filterMap Write.saga?) (ws.filterMap Write.event?) := by
  cases h with
  | funds i f w a r resp hc hb =>
    obtain ⟨x, created, x', hx, -, -, rfl⟩ := idempotentTx_ok hb
    have hcr : (∀ e ∈ created.filterMap Write.event?, e.metadata = .null) ∧ created.filterMap Write.saga? = [] := by
      rcases hx with hx | ⟨-, rfl⟩
      · have := getOrCreate_writes s.store w "USD" s.now
        rw [hx] at this
        exact ⟨fun e he => by rw [this.1 e he]; rfl, this.2.2⟩
      · simp
    simp only [List.filterMap_append, hcr.2, saveWithEvent_sagas, idem_sagas, List.filterMap_cons, Write.saga?,
      List.filterMap_nil, List.append_nil]
    refine .none fun e he _ => ?_
    simp only [List.mem_append, saveWithEvent_events, idem_events, List.mem_singleton, Write.event?,
      List.not_mem_nil, or_false] at he
    rcases he with he | rfl
    · rw [hcr.1 _ he]; rfl
    · rfl
  | admin i op w read hc hb =>
    obtain ⟨x, x', -, -, rfl⟩ := stateChangeTx_ok hb
    exact .none fun e he _ => by simp_all [Write.event?, EventMeta.sagaId?, WalletEvent.new]
  | provision i fr t a r cur =>
    obtain ⟨he, -, hs⟩ := getOrCreate_writes s.store t cur s.now
    rw [hs]
    exact .none fun e h _ => by rw [he e h]; rfl
  | createSaga i fr t a r cur => exact .insert _ (hw.store.fresh _ le_rfl) rfl
  | debit i fr t a r g0 hc hb =>
    obtain ⟨x, y, y', hx, hp, -, -, rfl⟩ := debitFromSender_ok hb
    have hxid : x.id = g0.id := hw.store.saga_id _ _ hx
    exact .debit x _ s.now (hxid ▸ hx) hp rfl (by rw [hxid]; rfl)
  | credit g0 hb =>
    obtain ⟨x, y, y', -, -, -, rfl⟩ := creditToReceiver_ok hb
    exact .none fun e he ht => by simp_all [Write.event?, WalletEvent.new]
  | compensate g0 hb =>
    obtain ⟨x, y, y', hx, hp, -, -, rfl⟩ := compensate_ok hb
    have hxid : x.id = g0.id := hw.store.saga_id _ _ hx
    exact .compensate x _ s.now (hxid ▸ hx) hp rfl (by rw [hxid]; rfl)
  | saveSaga x hx => exact .save _ hx
  | saveKey => exact .none fun e he => by simp [Write.event?] at he
  | markAsPublished => exact .none fun e he => by simp [Write.event?] at he

/-! ## Every run -/

theorem legsOk_step (cfg : Config) {s : Sys M} (hw : s.Wf) (hl : ∀ g, LegsOk s.store g) (e : Ev M) (g : SagaId) :
    LegsOk (step cfg s e).store g := by
  rcases step_store cfg hw e with hs | ⟨ws, hc, hs⟩ <;> rw [hs]
  · exact hl g
  · exact (hc.sagaMove hw).phased PhaseOk.rules hl rfl rfl g

/-- Every saga of every run has at most one debit and at most one refund, whatever
    calls, failures and crashes the run holds. -/
theorem saga_debits_and_refunds_at_most_once (cfg : Config) (st : Store M) (hst : st.Wf) (h0 : ∀ g, LegsOk st g)
    (now : Nat) (evs : List (Ev M)) (g : SagaId) :
    legs (run cfg (Sys.init st now) evs).store g .FUNDS_WITHDRAWN ≤ 1 ∧
      legs (run cfg (Sys.init st now) evs).store g .TRANSFER_COMPENSATED ≤ 1 :=
  (run_induct cfg (fun s => ∀ g, LegsOk s.store g) (fun _ e hw hl => legsOk_step cfg hw hl e) evs _
    (Sys.Wf.init hst now) h0 g).bound

/-- Wallet 0 holds 100, wallet 1 nothing; both ACTIVE, in USD, with no limit. -/
def twoWallets : Store ℤ :=
  Store.ofWallets [⟨0, 100, "USD", .ACTIVE, none, 0, none⟩, ⟨1, 0, "USD", .ACTIVE, none, 0, none⟩]

/-- A transfer of 50 from wallet 0 to wallet 1 whose receiver-side
    `invalidateBalanceCache` throws after the credit leg committed; the `catch` then
    runs to its end. -/
def creditThenThrow : List (Ev ℤ) :=
  .executeTransfer 0 1 50 none :: List.replicate 9 (.step 0 .ok) ++ .step 0 .fails :: List.replicate 3 (.step 0 .ok)

theorem saga_legs_once_after_a_throw :
    (twoWallets.Wf ∧ ∀ g, LegsOk twoWallets g) ∧
      legs (run ⟨60000⟩ (Sys.init twoWallets 1000) creditThenThrow).store 0 .FUNDS_WITHDRAWN ≤ 1 ∧
      legs (run ⟨60000⟩ (Sys.init twoWallets 1000) creditThenThrow).store 0 .TRANSFER_COMPENSATED ≤ 1 :=
  ⟨⟨Store.Wf.ofWallets _, fun _ => ⟨rfl, rfl⟩⟩,
    saga_debits_and_refunds_at_most_once _ _ (Store.Wf.ofWallets _) (fun _ => ⟨rfl, rfl⟩) _ _ 0⟩

/-- The same run credits the receiver and refunds the sender: the saga ends
    COMPENSATED, and the two balances hold 150 where they held 100. -/
theorem transfer_credits_and_refunds :
    (let s := run ⟨60000⟩ (Sys.init twoWallets 1000) creditThenThrow
    legs s.store 0 .FUNDS_DEPOSITED = 1 ∧ legs s.store 0 .TRANSFER_COMPENSATED = 1 ∧
      (s.store.sagas 0).map (·.state) = some .COMPENSATED ∧
      (s.store.wallets 0).map (·.balance) = some 100 ∧ (s.store.wallets 1).map (·.balance) = some 50) := by
  decide

/-- Two transfers of 30 from wallet 0 to wallet 1 with request id 5, each past its
    idempotency lookup before either runs on. -/
def duplicateTransfers : List (Ev ℤ) :=
  [.executeTransfer 0 1 30 (some 5), .executeTransfer 0 1 30 (some 5), .step 0 .ok, .step 1 .ok] ++
    List.replicate 13 (.step 0 .ok) ++ List.replicate 13 (.step 1 .ok)

/-- Both run a saga to COMPLETED: both sagas' legs commit, the receiver gets 60, and the
    two calls return different results. -/
theorem duplicate_transfers_both_move_money :
    (let s := run ⟨60000⟩ (Sys.init twoWallets 1000) duplicateTransfers
    legs s.store 0 .FUNDS_DEPOSITED = 1 ∧ legs s.store 1 .FUNDS_DEPOSITED = 1 ∧
      (s.store.wallets 1).map (·.balance) = some 60 ∧
      s.calls = [.returned (.response (.transfer ⟨0, .COMPLETED, 0, 1, 30⟩)),
        .returned (.response (.transfer ⟨1, .COMPLETED, 0, 1, 30⟩))]) := by
  set_option maxRecDepth 4000 in decide

end EventWallet
