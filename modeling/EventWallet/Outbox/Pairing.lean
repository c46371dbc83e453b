/-
  EventWallet.Outbox.Pairing — what the transactional outbox pairs, over every run.

  `TransactionManager.execute` saves the rows its callback's `publishEvent` buffered
  after the callback, in the same transaction, and hands their payloads to
  `publishEventsAsync` after the commit; `OutboxRelayService` publishes stored rows.
  Three writers go around it: `getOrCreate` journals WALLET_CREATED with no outbox row;
  the saga's PENDING insert and its COMPLETED and FAILED saves are plain
  `sagaRepository.save` calls; and `executeTransfer` and `recoverSaga` send
  TRANSFER_INITIATED, TRANSFER_COMPLETED and TRANSFER_FAILED with
  `eventPublisher.publish`, never through a row.

  Proved, over every run from a well-formed store:
  - `outbox_pairing_exact`: every transaction the run commits pairs its journal rows
    other than WALLET_CREATED one to one, in order, with its outbox rows (same type,
    wallet and amount); a transaction that moves a saga to DEBITED or COMPENSATED also
    commits an outbox row of that saga; and every message handed to the broker is the
    payload of a committed outbox row or one of the saga service's direct messages.
  - `outbox_pairing`: the same over PostgreSQL's store (`runDB`), from a store and
    for requests in cents.
  - `transfer_bypasses_outbox`: a transfer to a new wallet, run to its end, commits
    WALLET_CREATED, the PENDING insert and the COMPLETED save with no outbox row, and
    publishes TRANSFER_INITIATED and TRANSFER_COMPLETED with no row behind them.
-/

import EventWallet.Service.Rounding

namespace EventWallet

variable {M : Type}

/-- A journal row and an outbox row record the same change. -/
def WalletEvent.Matches (e : WalletEvent M) (r : OutboxRow M) : Prop :=
  r.eventType = e.eventType ∧ r.aggregateId = e.walletId ∧ r.payload.amount = e.amount

/-- A transaction's journal rows, WALLET_CREATED apart, and its outbox rows pair one to
    one, in order. -/
def OutboxPaired (ws : List (Write M)) : Prop :=
  List.Forall₂ WalletEvent.Matches ((ws.filterMap Write.event?).filter (·.eventType != .WALLET_CREATED))
    (ws.filterMap Write.outbox?)

/-- A transaction that moves a saga to DEBITED or COMPENSATED commits an outbox row of
    that saga. -/
def SagaMovesPaired (ws : List (Write M)) : Prop :=
  ∀ g ∈ ws.filterMap Write.saga?, (g.state = .DEBITED ∨ g.state = .COMPENSATED) →
    ∃ r ∈ ws.filterMap Write.outbox?, r.payload.metadata.sagaId? = some g.id

/-- Every pending post-commit publish is a committed row's payload, and every message
    handed to the broker is one or a saga message. -/
structure PublishedOk (s : Sys M) : Prop where
  pending : ∀ p ∈ s.postCommit, ∃ r ∈ s.store.outbox, r.payload = p
  published : ∀ p ∈ s.published, (∃ r ∈ s.store.outbox, r.payload = p) ∨ SagaMessage p

variable [LinearOrderedCommRing M]

/-! ## Each transaction pairs its rows -/

/-- Every transaction a call can commit pairs its journal rows with its outbox rows, and
    commits an outbox row of each saga it moves to DEBITED or COMPENSATED. -/
theorem Commits.paired {s : Sys M} {ws : List (Write M)} (hw : s.Wf) (h : Commits s ws) :
    OutboxPaired ws ∧ SagaMovesPaired ws := by
  cases h with
  | funds i f w a r resp hc hb =>
    obtain ⟨x, created, x', hx, hop, -, rfl⟩ := idempotentTx_ok hb
    obtain ⟨ha, hid⟩ := Funds.operation_ok hop
    have hxid : x.id = w ∧ ((created.filterMap Write.event?).filter (·.eventType != .WALLET_CREATED)) = [] ∧
        created.filterMap Write.outbox? = [] ∧ created.filterMap Write.saga? = [] := by
      rcases hx with hx | ⟨hx, rfl⟩
      · have := getOrCreate_writes s.store w "USD" s.now
        have hid := getOrCreate_id hw.store w "USD" s.now
        rw [hx] at this hid
        refine ⟨hid, List.filter_eq_nil_iff.mpr fun e he => ?_, this.2⟩
        simp [this.1 e he, WalletEvent.new]
      · exact ⟨hw.store.wallet_id _ _ hx, rfl, rfl, rfl⟩
    obtain ⟨hxid, he, ho, hsg⟩ := hxid
    cases f <;>
      simp [OutboxPaired, SagaMovesPaired, List.filter_append, he, ho, hsg, Write.event?, Write.outbox?, Write.saga?,
        WalletEvent.Matches, OutboxRow.new, WalletEvent.new, Funds.eventType, Option.filter, ha.ne', hid, hxid]
  | admin i op w read hc hb =>
    obtain ⟨x, x', rfl, hop, rfl⟩ := stateChangeTx_ok hb
    have hxid : x.id = w := hw.calls _ (List.getElem?_mem hc) x rfl
    cases op <;>
      simp [OutboxPaired, SagaMovesPaired, Write.event?, Write.outbox?, Write.saga?, WalletEvent.Matches,
        OutboxRow.new, WalletEvent.new, AdminOp.eventType, (AdminOp.operation_keeps hop).1, hxid]
    split <;> simp [WalletEvent.Matches]
  | provision i fr t a r cur =>
    obtain ⟨he, ho, hsg⟩ := getOrCreate_writes s.store t cur s.now
    have he' : ((getOrCreate s.store t cur s.now).2.filterMap Write.event?).filter
        (·.eventType != .WALLET_CREATED) = [] :=
      List.filter_eq_nil_iff.mpr fun e h => by simp [he e h, WalletEvent.new]
    simp [OutboxPaired, SagaMovesPaired, he', ho, hsg]
  | createSaga => simp [OutboxPaired, SagaMovesPaired, Write.event?, Write.outbox?, Write.saga?]
  | debit i fr t a r g hc hb =>
    obtain ⟨x, y, y', hx, -, -, hop, rfl⟩ := debitFromSender_ok hb
    have hxid : x.id = g.id := hw.store.saga_id _ _ hx
    have ha := (Wallet.withdraw_ok.mp hop).1
    simp [OutboxPaired, SagaMovesPaired, Write.event?, Write.outbox?, Write.saga?, WalletEvent.Matches,
      OutboxRow.new, WalletEvent.new, Option.filter, ha.ne', EventMeta.sagaId?, hxid]
  | credit g hb =>
    obtain ⟨x, y, y', -, -, hop, rfl⟩ := creditToReceiver_ok hb
    have ha := (Wallet.credit_ok.mp hop).1
    simp [OutboxPaired, SagaMovesPaired, Write.event?, Write.outbox?, Write.saga?, WalletEvent.Matches,
      OutboxRow.new, WalletEvent.new, Option.filter, ha.ne']
  | compensate g hb =>
    obtain ⟨x, y, y', hx, -, -, hop, rfl⟩ := compensate_ok hb
    have hxid : x.id = g.id := hw.store.saga_id _ _ hx
    have ha := (Wallet.credit_ok.mp hop).1
    simp [OutboxPaired, SagaMovesPaired, Write.event?, Write.outbox?, Write.saga?, WalletEvent.Matches,
      OutboxRow.new, WalletEvent.new, Option.filter, ha.ne', EventMeta.sagaId?, hxid]
  | saveSaga g hg =>
    simp only [OutboxPaired, SagaMovesPaired, List.filterMap_cons, Write.event?, Write.outbox?, Write.saga?,
      List.filterMap_nil, List.filter_nil, List.Forall₂.nil, List.mem_singleton, forall_eq, true_and]
    rintro (h | h) <;> rcases hg with hg | hg <;> simp_all
  | saveKey => simp [OutboxPaired, SagaMovesPaired, Write.event?, Write.outbox?, Write.saga?]
  | markAsPublished => simp [OutboxPaired, SagaMovesPaired, Write.event?, Write.outbox?, Write.saga?]

/-! ## Every run -/

/-- The transactions committed after `log0`, each of them paired. -/
def LogPaired (log0 : List (List (Write M))) (s : Sys M) : Prop :=
  ∃ L, s.store.log = log0 ++ L ∧ ∀ ws ∈ L, OutboxPaired ws ∧ SagaMovesPaired ws

section Published

variable {s : Sys M}

omit [LinearOrderedCommRing M] in
theorem PublishedOk.commit (h : PublishedOk s) (ws : List (Write M)) : PublishedOk (s.commit ws) where
  pending p hp := by
    simp only [Sys.commit, List.mem_append, List.mem_map] at hp
    rcases hp with hp | ⟨r, hr, rfl⟩
    · obtain ⟨r, hr, rfl⟩ := h.pending p hp
      exact ⟨r, by simp [hr], rfl⟩
    · exact ⟨r, by simp [hr], rfl⟩
  published p hp := (h.published p hp).imp (fun ⟨r, hr, e⟩ => ⟨r, by simp [hr], e⟩) id

omit [LinearOrderedCommRing M] in
theorem PublishedOk.publish (h : PublishedOk s) {p : Payload M}
    (hp : SagaMessage p ∨ ∃ r ∈ s.store.outbox, r.payload = p) : PublishedOk (s.publish p) where
  pending := h.pending
  published q hq := by
    rcases List.mem_append.mp hq with hq | hq
    · exact h.published q hq
    · rw [List.mem_singleton.mp hq]; exact hp.symm

theorem PublishedOk.effect (h : PublishedOk s) {u : Sys M} (hu : Effect s u) : PublishedOk u := by
  cases hu with
  | commit => exact h.commit _
  | commitRelease r => exact ⟨(h.commit _).pending, (h.commit _).published⟩
  | publish p hp => exact h.publish hp
  | _ => exact ⟨h.pending, h.published⟩

theorem PublishedOk.step (cfg : Config) (hw : s.Wf) (h : PublishedOk s) (e : Ev M) : PublishedOk (step cfg s e) := by
  rcases step_cases cfg hw e with ⟨i, -, -, -, u, c, hu, hs, -⟩ | ⟨c, -, hs⟩ | ⟨dt, hs⟩ | ⟨i, p, hp, ok, hs⟩ | hs <;> rw [hs]
  · have := h.effect hu; exact ⟨this.pending, this.published⟩
  · exact ⟨h.pending, h.published⟩
  · exact ⟨h.pending, h.published⟩
  · refine ⟨fun q hq => h.pending q (List.mem_of_mem_eraseIdx hq), fun q hq => ?_⟩
    have hmem : p ∈ s.postCommit := List.getElem?_mem hp
    cases ok
    · exact h.published q hq
    · rcases List.mem_append.mp hq with hq | hq
      · exact h.published q hq
      · exact .inl (List.mem_singleton.mp hq ▸ h.pending p hmem)
  · exact h

end Published

theorem LogPaired.step (cfg : Config) {log0 : List (List (Write M))} {s : Sys M} (hw : s.Wf) (h : LogPaired log0 s)
    (e : Ev M) : LogPaired log0 (step cfg s e) := by
  obtain ⟨L, hL, hp⟩ := h
  rcases step_store cfg hw e with hs | ⟨ws, hc, hs⟩ <;> rw [LogPaired, hs]
  · exact ⟨L, hL, hp⟩
  · refine ⟨L ++ [ws], by simp [hL], fun ws' h' => ?_⟩
    rcases List.mem_append.mp h' with h' | h'
    · exact hp ws' h'
    · exact List.mem_singleton.mp h' ▸ hc.paired hw

/-- Over the exact store: every transaction a run commits pairs its journal rows,
    WALLET_CREATED apart, with its outbox rows, and commits an outbox row of each saga it
    moves to DEBITED or COMPENSATED; every message the run hands to the broker is a
    committed row's payload or a TRANSFER_INITIATED, TRANSFER_COMPLETED or
    TRANSFER_FAILED message. -/
theorem outbox_pairing_exact (cfg : Config) (st : Store M) (hst : st.Wf) (now : Nat) (evs : List (Ev M)) :
    LogPaired st.log (run cfg (Sys.init st now) evs) ∧ PublishedOk (run cfg (Sys.init st now) evs) :=
  run_induct cfg (fun s => LogPaired st.log s ∧ PublishedOk s)
    (fun _ e hw h => ⟨h.1.step cfg hw e, h.2.step cfg hw e⟩) evs _ (Sys.Wf.init hst now)
    ⟨⟨[], by simp [Sys.init], by simp⟩, PublishedOk.mk (fun _ h => nomatch h) (fun _ h => nomatch h)⟩

/-- Over PostgreSQL's store, from a store in cents and for requests in cents: every
    transaction a run commits pairs its journal rows, WALLET_CREATED apart, with its
    outbox rows (the journal's amount column rounds, the payload's JSON does not: they
    agree on amounts in cents), and commits an outbox row of each saga it moves to
    DEBITED or COMPENSATED; every message the run hands to the broker is a committed
    row's payload or a saga message. -/
theorem outbox_pairing (cfg : Config) (st : Store ℚ) (hst : st.Wf) (hsc : st.InCents) (now : Nat)
    (evs : List (Ev ℚ)) (hev : ∀ e ∈ evs, e.InCents) :
    LogPaired st.log (runDB cfg (Sys.init st now) evs) ∧ PublishedOk (runDB cfg (Sys.init st now) evs) := by
  rw [runDB_eq_run cfg _ (Sys.InCents.init hsc now) evs hev]
  exact outbox_pairing_exact cfg st hst now evs

theorem outbox_pairing_on_deposit :
    ((Store.empty : Store ℚ).Wf ∧ (Store.empty : Store ℚ).InCents ∧
      ∀ e ∈ (.deposit 0 (21 / 2) none :: List.replicate 4 (.step 0 .ok) : List (Ev ℚ)), e.InCents) ∧
      LogPaired [] (runDB ⟨60000⟩ (Sys.init (Store.empty : Store ℚ) 0)
        (.deposit 0 (21 / 2) none :: List.replicate 4 (.step 0 .ok))) ∧
      PublishedOk (runDB ⟨60000⟩ (Sys.init (Store.empty : Store ℚ) 0)
        (.deposit 0 (21 / 2) none :: List.replicate 4 (.step 0 .ok))) :=
  have hev : ∀ e ∈ (.deposit 0 (21 / 2) none :: List.replicate 4 (.step 0 .ok) : List (Ev ℚ)), e.InCents := by
    with_unfolding_all decide
  ⟨⟨Store.Wf.empty, .empty, hev⟩, outbox_pairing ⟨60000⟩ Store.empty Store.Wf.empty .empty 0 _ hev⟩

/-- A transfer of 50 from wallet 0 to wallet 1, which does not exist yet, run to its end:
    `getOrCreate` commits WALLET_CREATED with no outbox row, the saga is inserted PENDING
    and saved COMPLETED with no outbox row, the two legs commit one row each, and the two
    messages published, TRANSFER_INITIATED and TRANSFER_COMPLETED, are no row's payload. -/
theorem transfer_bypasses_outbox :
    (let s := runDB ⟨60000⟩
      (Sys.init { (Store.empty : Store ℚ) with
        wallets := upd (fun _ => none) 0 (some ⟨0, 100, "USD", .ACTIVE, none, 0, none⟩) } 1000)
      (.executeTransfer 0 1 50 none :: List.replicate 14 (.step 0 .ok))
    s.store.log.map (fun ws => (ws.filterMap Write.event?).map (·.eventType)) =
        [[.WALLET_CREATED], [], [.FUNDS_WITHDRAWN], [.FUNDS_DEPOSITED], []] ∧
      s.store.log.map (fun ws => (ws.filterMap Write.saga?).map (·.state)) =
        [[], [.PENDING], [.DEBITED], [], [.COMPLETED]] ∧
      s.store.log.map (fun ws => (ws.filterMap Write.outbox?).map (·.eventType)) =
        [[], [], [.FUNDS_WITHDRAWN], [.FUNDS_DEPOSITED], []] ∧
      s.published.map (·.eventType) = [.TRANSFER_INITIATED, .TRANSFER_COMPLETED]) := by
  set_option maxRecDepth 8000 in with_unfolding_all decide

end EventWallet
