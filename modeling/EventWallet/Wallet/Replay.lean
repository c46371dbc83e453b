/-
  EventWallet.Wallet.Replay — the journal replayed onto a fresh wallet, against the
  stored rows, over every run.

  The code never replays the journal; `replay` is the reading an event-sourced view of
  `wallet_events` takes: a wallet's rows in id order onto a fresh ACTIVE wallet with
  balance 0, FUNDS_DEPOSITED and TRANSFER_COMPENSATED as `credit(amount)`,
  FUNDS_WITHDRAWN as a decrease by the amount, WALLET_FROZEN as `freeze`,
  WALLET_UNFROZEN as `unfreeze`, WALLET_CLOSED as `close`; a method that throws ends
  the replay. Each transaction journals what it did to the row it saved, except
  `setDailyWithdrawalLimit`, which journals WALLET_FROZEN (a limit set) or
  WALLET_UNFROZEN (a limit removed) and leaves the status.

  Proved, over every run from a store whose journal replays to its rows:
  - `replay_matches_stored_exact`: as long as every admin call about to commit holds
    its wallet's current row and none is a limit change, every wallet's journal
    replays to its stored balance and status.
  - `replay_matches_stored`: the same over PostgreSQL's store (`runDB`), for a store
    and amounts in cents (`runDB_eq_run`).

  As built:
  - `limit_change_replays_as_freeze`: a deposit of 10 to a new wallet, then a limit of
    100: the journal replays to a FROZEN wallet, the stored one is ACTIVE.
-/

import EventWallet.Wallet.Moves
import EventWallet.Service.Rounding

namespace EventWallet

variable {M : Type} [LinearOrderedCommRing M]

/-- One journal row replayed onto `w`. -/
def replayEvent (w : Wallet M) (e : WalletEvent M) : Option (Wallet M) :=
  match e.eventType with
  | .FUNDS_DEPOSITED | .TRANSFER_COMPENSATED => (w.credit (e.amount.getD 0)).toOption
  | .FUNDS_WITHDRAWN => some { w with balance := w.balance - e.amount.getD 0 }
  | .WALLET_FROZEN => w.freeze.toOption
  | .WALLET_UNFROZEN => w.unfreeze.toOption
  | .WALLET_CLOSED => w.close.toOption
  | _ => some w

/-- Wallet `v`'s journal rows, in id order, replayed onto a fresh wallet. -/
def replay (evs : List (WalletEvent M)) (v : WalletId) : Option (Wallet M) :=
  (evs.filter (·.walletId = v)).foldlM replayEvent (Wallet.new v "USD")

/-- What the replay is compared on: the balance and the status. -/
def Wallet.state (w : Wallet M) : M × WalletStatus := (w.balance, w.status)

/-- Every stored wallet's journal replays to its balance and status, and a missing
    wallet has no journal rows. -/
structure Replays (s : Store M) : Prop where
  stored : ∀ v y, s.wallets v = some y → (replay s.events v).map Wallet.state = some y.state
  missing : ∀ v, s.wallets v = none → ∀ e ∈ s.events, e.walletId ≠ v

/-- Whether an admin call about to commit holds its wallet's current row and is no
    limit change. -/
def Call.readsRow (s : Store M) : Call M → Bool
  | .admin (.setDailyWithdrawalLimit _) _ (.transaction _) => false
  | .admin _ w (.transaction (some x)) => decide (s.wallets w = some x)
  | _ => true

/-- Every admin call about to commit holds its wallet's current row and is no limit
    change. -/
def RowFresh (s : Sys M) : Prop := ∀ c ∈ s.calls, c.readsRow s.store = true

instance (s : Sys M) : Decidable (RowFresh s) := inferInstanceAs (Decidable (∀ c ∈ s.calls, _))

/-! ## Replaying -/

theorem replay_append (evs es : List (WalletEvent M)) (v : WalletId) :
    replay (evs ++ es) v = (replay evs v).bind fun r => (es.filter (·.walletId = v)).foldlM replayEvent r := by
  simp only [replay, List.filter_append, List.foldlM_append]
  rfl

/-- Rows of other wallets leave a replay as it was. -/
theorem replay_append_of_ne (evs : List (WalletEvent M)) {es : List (WalletEvent M)} {v : WalletId}
    (h : ∀ e ∈ es, e.walletId ≠ v) : replay (evs ++ es) v = replay evs v := by
  rw [replay_append, List.filter_eq_nil_iff.mpr fun e he => by simpa using h e he]
  cases replay evs v <;> rfl

/-- A wallet without journal rows replays to a fresh one. -/
theorem replay_of_missing {evs : List (WalletEvent M)} {v : WalletId} (h : ∀ e ∈ evs, e.walletId ≠ v) :
    replay evs v = some (Wallet.new v "USD") := by
  rw [replay, List.filter_eq_nil_iff.mpr fun e he => by simpa using h e he]
  rfl

theorem createdEvents_replay (s : Store M) (v : WalletId) (c : String) (now : Nat) (r : Wallet M) :
    ((createdEvents s v c now).filter (·.walletId = v)).foldlM replayEvent r = some r := by
  unfold createdEvents; split <;> simp [replayEvent]

/-- An admin call's journal row replays as its operation, unless it is a limit change. -/
theorem replayEvent_admin {op : AdminOp M} (hop : ∀ l, op ≠ .setDailyWithdrawalLimit l) (r : Wallet M) (v : WalletId)
    (c : String) (now : Nat) : replayEvent r (WalletEvent.new v op.eventType c none .admin now) = (op.operation r).toOption := by
  cases op with
  | setDailyWithdrawalLimit l => exact absurd rfl (hop l)
  | _ => rfl

/-- The admin methods other than the limit change read and write only the balance and
    the status. -/
theorem AdminOp.operation_state {op : AdminOp M} (hop : ∀ l, op ≠ .setDailyWithdrawalLimit l) {x x' r : Wallet M}
    (h : op.operation x = .ok x') (hr : r.state = x.state) : ∃ r', op.operation r = .ok r' ∧ r'.state = x'.state := by
  simp only [Wallet.state, Prod.mk.injEq] at hr
  cases op with
  | freeze =>
    simp only [AdminOp.operation, Wallet.freeze_eq, hr.2] at h ⊢
    split at h
    · cases h
    · rename_i hc; cases h; exact ⟨_, if_neg hc, by simp [Wallet.state, hr.1]⟩
  | unfreeze =>
    simp only [AdminOp.operation, Wallet.unfreeze_eq, hr.2, Except.ok.injEq] at h ⊢
    subst h; refine ⟨_, rfl, ?_⟩
    split <;> simp [Wallet.state, hr.1, hr.2]
  | close =>
    simp only [AdminOp.operation, Wallet.close_eq, hr.1] at h ⊢
    split at h
    · cases h
    · rename_i hc; cases h; exact ⟨_, if_neg hc, by simp [Wallet.state, hr.2]⟩
  | setDailyWithdrawalLimit l => exact absurd rfl (hop l)

/-! ## Each transaction keeps the replay -/

/-- Writing rows of one wallet, the last `y`, with journal rows of it that replay the
    old state onto `y`'s, keeps every replay. -/
theorem Replays.commit {s : Store M} (hr0 : Replays s) {ws : List (Write M)} (pre : List (Wallet M)) (y : Wallet M)
    (hws : ws.filterMap Write.wallet? = pre ++ [y]) (hpre : ∀ x ∈ pre, x.id = y.id)
    (hes : ∀ e ∈ ws.filterMap Write.event?, e.walletId = y.id)
    (hy : ((replay (s.events ++ ws.filterMap Write.event?) y.id).map Wallet.state = some y.state)) :
    Replays (s.commit ws) := by
  refine ⟨fun v x hx => ?_, fun v hv e he => ?_⟩
  · rw [Store.wallets_commit hws hpre] at hx
    rw [Store.commit_events]
    split at hx
    · rename_i h; subst h; cases hx; exact hy
    · rw [replay_append_of_ne _ fun e he => (hes e he).trans_ne (Ne.symm ‹_›)]
      exact hr0.stored v x hx
  · rw [Store.wallets_commit hws hpre] at hv
    split at hv
    · cases hv
    · rw [Store.commit_events] at he
      rcases List.mem_append.mp he with he | he
      · exact hr0.missing v hv e he
      · exact (hes e he).trans_ne (Ne.symm ‹_›)

/-- Every transaction keeps every replay; an admin call's save, only if it holds its
    wallet's current row and is no limit change. -/
theorem WalletMove.replays {s : Sys M} {rows : List (Wallet M)} {es : List (WalletEvent M)}
    (hm : WalletMove s rows es) (hf : RowFresh s) (hr0 : Replays s.store) {ws : List (Write M)}
    (hr : ws.filterMap Write.wallet? = rows) (he : ws.filterMap Write.event? = es) :
    Replays (s.store.commit ws) := by
  cases hm with
  | none =>
    refine ⟨fun v y hy => ?_, fun v hv e he' => ?_⟩
    · simp only [Store.commit_wallets, hr, List.foldl_nil] at hy
      rw [Store.commit_events, he, List.append_nil]; exact hr0.stored v y hy
    · simp only [Store.commit_wallets, hr, List.foldl_nil] at hv
      rw [Store.commit_events, he, List.append_nil] at he'; exact hr0.missing v hv e he'
  | create v c hv =>
    refine hr0.commit [] _ hr (by simp) ?_ ?_
    · rw [he, Wallet.new_id]; exact fun e he => by simp [mem_createdEvents he]
    · rw [he, Wallet.new_id, replay_append, replay_of_missing (hr0.missing v hv)]
      simp [createdEvents_replay, Wallet.state, Wallet.new]
  | createDeposit v a m hv ha =>
    refine hr0.commit [Wallet.new v "USD"] _ hr (by simp) ?_ ?_ <;> dsimp only [Wallet.new_id] <;> rw [he]
    · intro e he'
      rcases List.mem_append.mp he' with he' | he'
      · simp [mem_createdEvents he']
      · simp only [List.mem_singleton] at he'; simp [he']
    · rw [replay_append, replay_of_missing (hr0.missing v hv)]
      simp [List.filter_append, createdEvents_replay, replayEvent, Wallet.credit_eq, not_le.mpr ha, Wallet.state,
        Except.toOption, WalletEvent.new_amount_pos ha]
  | credit y a t m hy ha hact ht =>
    refine hr0.commit [] _ hr (by simp) (by rw [he]; simp) ?_
    obtain ⟨r, hr1, hr2⟩ := Option.map_eq_some'.mp (hr0.stored y.id y hy)
    simp only [Wallet.state, Prod.mk.injEq] at hr2
    rw [he, replay_append, hr1]
    rcases ht with rfl | rfl <;>
      simp [replayEvent, Wallet.credit_eq, not_le.mpr ha, hr2.2, hact, Except.toOption, Wallet.state, hr2.1,
        WalletEvent.new_amount_pos ha]
  | withdraw y a m hy ha =>
    refine hr0.commit [] _ hr (by simp) (by rw [he]; simp [Wallet.withdrawn]) ?_
    obtain ⟨r, hr1, hr2⟩ := Option.map_eq_some'.mp (hr0.stored y.id y hy)
    simp only [Wallet.state, Prod.mk.injEq] at hr2
    rw [he, replay_append, Wallet.withdrawn_id, hr1]
    simp [replayEvent, Wallet.state, hr2.1, hr2.2, WalletEvent.new_amount_pos ha]
  | admin i op x x' hc hop =>
    have hfresh := hf _ (List.getElem?_mem hc)
    have hnl : ∀ l, op ≠ .setDailyWithdrawalLimit l := by rintro l rfl; simp [Call.readsRow] at hfresh
    have hx : s.store.wallets x.id = some x := by cases op <;> simp_all [Call.readsRow]
    obtain ⟨hid, -⟩ := AdminOp.operation_keeps hop
    refine hr0.commit [] _ hr (by simp) (by rw [he]; simp) ?_
    obtain ⟨r, hr1, hr2⟩ := Option.map_eq_some'.mp (hr0.stored x.id x hx)
    obtain ⟨r', hr', hs'⟩ := AdminOp.operation_state hnl hop hr2
    rw [he, replay_append, hid, hr1]
    simp [replayEvent_admin hnl, hr', hs', Except.toOption]

/-! ## Every run -/

theorem replays_step (cfg : Config) {s : Sys M} (hw : s.Wf) (hf : RowFresh s) (hr : Replays s.store) (e : Ev M) :
    Replays (step cfg s e).store := by
  rcases step_store cfg hw e with hs | ⟨ws, hc, hs⟩ <;> rw [hs]
  · exact hr
  · exact (hc.move hw).replays hf hr rfl rfl

/-- Over the exact store, in every run in which each admin call about to commit holds its
    wallet's current row and none is a limit change, every stored wallet's journal
    replays to its balance and status. -/
theorem replay_matches_stored_exact (cfg : Config) (st : Store M) (hst : st.Wf) (hr : Replays st) (now : Nat)
    (evs : List (Ev M)) (hfresh : ∀ k ≤ evs.length, RowFresh (run cfg (Sys.init st now) (evs.take k))) :
    ∀ v y, (run cfg (Sys.init st now) evs).store.wallets v = some y →
      (replay (run cfg (Sys.init st now) evs).store.events v).map Wallet.state = some y.state :=
  (run_induct_while cfg (fun s => Replays s.store) RowFresh (fun _ e hw hf hr => replays_step cfg hw hf hr e) evs _
    (Sys.Wf.init hst now) hr hfresh).stored

theorem Replays.empty : Replays (Store.empty : Store M) where
  stored _ _ h := nomatch h
  missing _ _ _ h := nomatch h

/-- A deposit of 10.50 to a new wallet, a freeze and an unfreeze, one after the other. -/
def depositFreezeUnfreeze : List (Ev ℚ) :=
  .deposit 0 (21 / 2) none :: List.replicate 4 (.step 0 .ok) ++ .freezeWallet 0 :: List.replicate 4 (.step 1 .ok) ++
    .unfreezeWallet 0 :: List.replicate 4 (.step 2 .ok)

/-- A deposit of 10 to a new wallet, then a daily limit of 100, one after the other. -/
def depositThenLimit : List (Ev ℤ) :=
  .deposit 0 10 none :: List.replicate 4 (.step 0 .ok) ++ .setDailyWithdrawalLimit 0 (some 100) ::
    List.replicate 3 (.step 1 .ok)

/-- The limit change is journalled WALLET_FROZEN: the journal replays to a FROZEN wallet
    while the stored one is ACTIVE. -/
theorem limit_change_replays_as_freeze :
    (let s := run ⟨60000⟩ (Sys.init (Store.empty : Store ℤ) 1000) depositThenLimit
    (replay s.store.events 0).map Wallet.state = some (10, .FROZEN) ∧
      (s.store.wallets 0).map Wallet.state = some (10, .ACTIVE)) := by
  decide

end EventWallet
