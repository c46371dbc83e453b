/-
  EventWallet.Wallet.Books — stored balances against the journal, over every run.

  Every transaction that moves a balance locks the wallet row, reads it under the lock
  and writes the row and its journal row together: deposit and withdraw
  (`executeIdempotentTransaction`) and the saga's three legs (`executeTransactionalStep`).
  The admin family (`freezeWallet`, `unfreezeWallet`, `closeWallet`,
  `setDailyWithdrawalLimit`) reads the row with `findById`, outside its transaction and
  the lock, and saves that whole entity back: a balance change committed in between is
  overwritten.

  Proved, over every run from a well-formed store whose balances agree with its journal:
  - `books_balance_exact`: as long as every admin call about to commit holds its
    wallet's current balance (no balance change lands between its read and its save),
    every wallet's stored balance is the sum of its journal's deposits, credits and
    refunds minus its withdrawals and debits.
  - `books_balance`: the same over PostgreSQL's store (`runDB`), for a store and
    amounts in cents (`runDB_eq_run`).

  Proved, over every run from a well-formed store with no negative balance, with no
  condition on the interleaving:
  - `balances_never_negative`: no stored balance goes below 0. A withdrawal and the debit
    leg check the balance they read under the lock, and a stale admin save writes back a
    balance the store held (`Solvent`).

  As built:
  - `freeze_overwrites_deposit`: a freeze reads an empty wallet, a deposit of 10
    commits, the freeze saves its read: the balance is 0 with FUNDS_DEPOSITED of 10 in
    the journal.
  - `replayed_request_deposits_twice`: two deposits with one request id, both past the
    idempotency lookup before either commits, both commit: the balance is 20, the
    journal holds two deposits, and the record is overwritten with the second response.
  - `stale_limit_save_resets_total`: `setDailyWithdrawalLimit` reads the row, a
    withdrawal of 60 commits, the limit change saves the row it read with a day's total
    of 0, and a second withdrawal of 60 passes: 120 withdrawn in one day under a limit
    of 100.
-/

import Mathlib.Algebra.BigOperators.Group.List
import Mathlib.Tactic.Ring
import EventWallet.Wallet.Moves
import EventWallet.Service.Rounding

namespace EventWallet

variable {M : Type} [LinearOrderedCommRing M]

/-- What a journal row adds to its wallet's balance. -/
def WalletEvent.signedAmount (e : WalletEvent M) : M :=
  match e.eventType with
  | .FUNDS_DEPOSITED | .TRANSFER_COMPENSATED => e.amount.getD 0
  | .FUNDS_WITHDRAWN => -e.amount.getD 0
  | _ => 0

/-- What wallet `w`'s rows of a journal add up to. -/
def journalBalance (evs : List (WalletEvent M)) (w : WalletId) : M :=
  ((evs.filter (·.walletId = w)).map WalletEvent.signedAmount).sum

/-- The stored balance, 0 for a missing wallet (`getBalance`'s answer). -/
def storedBalance (s : Store M) (w : WalletId) : M := ((s.wallets w).map (·.balance)).getD 0

/-- Every wallet's stored balance is what its journal rows add up to. -/
def Books (s : Store M) : Prop := ∀ w, storedBalance s w = journalBalance s.events w

/-- Whether an admin call about to commit holds its wallet's current balance. -/
def Call.readFresh (s : Store M) : Call M → Bool
  | .admin _ w (.transaction (some x)) => storedBalance s w = x.balance
  | _ => true

/-- Every admin call about to commit holds its wallet's current balance. -/
def AdminFresh (s : Sys M) : Prop := ∀ c ∈ s.calls, c.readFresh s.store = true

instance (s : Sys M) : Decidable (AdminFresh s) := inferInstanceAs (Decidable (∀ c ∈ s.calls, _))

/-! ## Sums over the journal -/

theorem journalBalance_append (evs evs' : List (WalletEvent M)) (w : WalletId) :
    journalBalance (evs ++ evs') w = journalBalance evs w + journalBalance evs' w := by
  simp [journalBalance, List.filter_append]

theorem journalBalance_single (e : WalletEvent M) (v : WalletId) :
    journalBalance [e] v = if e.walletId = v then e.signedAmount else 0 := by
  by_cases h : e.walletId = v <;> simp [journalBalance, h]

/-- A transaction keeps the books when each stored balance moves by what its journal
    rows add. -/
theorem Books.commit {s : Store M} (hb : Books s) {ws : List (Write M)}
    (h : ∀ v, storedBalance (s.commit ws) v = storedBalance s v + journalBalance (ws.filterMap Write.event?) v) :
    Books (s.commit ws) := fun v => by
  rw [h v, hb v, Store.commit_events, journalBalance_append]

/-- Wallet rows of one id, the last one `y`, leave every other wallet as it was. -/
theorem storedBalance_commit {s : Store M} {ws : List (Write M)} {pre : List (Wallet M)} {y : Wallet M}
    (hws : ws.filterMap Write.wallet? = pre ++ [y]) (hpre : ∀ x ∈ pre, x.id = y.id) (v : WalletId) :
    storedBalance (s.commit ws) v = if v = y.id then y.balance else storedBalance s v := by
  rw [storedBalance, Store.wallets_commit hws hpre]
  split <;> rfl

/-- Rows that add nothing add up to nothing. -/
theorem journalBalance_zero {evs : List (WalletEvent M)} (h : ∀ e ∈ evs, e.signedAmount = 0) (v : WalletId) :
    journalBalance evs v = 0 :=
  List.sum_eq_zero fun a ha => by
    obtain ⟨e, he, rfl⟩ := List.mem_map.mp ha
    exact h e (List.mem_of_mem_filter he)

/-- A journal row with no amount adds nothing. -/
@[simp] theorem WalletEvent.signedAmount_none (w : WalletId) (t : WalletEventType) (c : String) (m : EventMeta)
    (now : Nat) : (WalletEvent.new w t c (none : Option M) m now).signedAmount = 0 := by
  unfold WalletEvent.signedAmount; split <;> simp [WalletEvent.new, Option.filter]

/-- The journal rows of a created wallet add nothing. -/
theorem createdEvents_signedAmount (s : Store M) (v : WalletId) (c : String) (now : Nat) :
    ∀ e ∈ createdEvents s v c now, e.signedAmount = 0 := fun _ he => by
  simp [mem_createdEvents he, WalletEvent.signedAmount]

/-! ## Each transaction keeps the books -/

/-- Each stored balance moves by what the transaction's journal rows add; an admin
    call's save, only if the balance it read is the stored one. -/
theorem WalletMove.balance {s : Sys M} {rows : List (Wallet M)} {es : List (WalletEvent M)}
    (hm : WalletMove s rows es) (hf : AdminFresh s) {ws : List (Write M)} (hr : ws.filterMap Write.wallet? = rows)
    (he : ws.filterMap Write.event? = es) (u : WalletId) :
    storedBalance (s.store.commit ws) u = storedBalance s.store u + journalBalance es u := by
  have one : ∀ (pre : List (Wallet M)) (y : Wallet M), rows = pre ++ [y] → (∀ x ∈ pre, x.id = y.id) →
      journalBalance es u = (if u = y.id then y.balance - storedBalance s.store y.id else 0) →
      storedBalance (s.store.commit ws) u = storedBalance s.store u + journalBalance es u := by
    intro pre y hrows hpre hev
    rw [storedBalance_commit (hr.trans hrows) hpre, hev]
    split
    · rename_i e; subst e; ring
    · simp
  cases hm with
  | none => simp [storedBalance, Store.commit_wallets, hr, journalBalance]
  | create v c hv =>
    refine one [] _ rfl (by simp) ?_
    rw [journalBalance_zero (createdEvents_signedAmount _ _ _ _)]
    simp [Wallet.new, storedBalance, hv]
  | createDeposit v a m hv ha =>
    refine one [Wallet.new v "USD"] _ rfl (by simp [Wallet.new]) ?_
    simp only [journalBalance_append, journalBalance_zero (createdEvents_signedAmount _ _ _ _), journalBalance_single,
      WalletEvent.new_walletId, WalletEvent.signedAmount, WalletEvent.new_eventType, WalletEvent.new_amount_pos ha]
    simp [Wallet.new, storedBalance, hv, eq_comm]
  | credit y a t m hy ha _ ht =>
    refine one [] _ rfl (by simp) ?_
    rcases ht with rfl | rfl <;>
      simp [journalBalance_single, WalletEvent.signedAmount, WalletEvent.new_amount_pos ha, storedBalance, hy, eq_comm]
  | withdraw y a m hy ha =>
    refine one [] _ rfl (by simp) ?_
    simp [journalBalance_single, WalletEvent.signedAmount, WalletEvent.new_amount_pos ha, storedBalance, hy, eq_comm,
      Wallet.withdrawn]
  | admin i op x x' hc hop =>
    obtain ⟨hid, hbal, -⟩ := AdminOp.operation_keeps hop
    have hfresh : storedBalance s.store x.id = x.balance := by
      simpa [Call.readFresh] using hf _ (List.getElem?_mem hc)
    refine one [] _ rfl (by simp) ?_
    rw [journalBalance_single, hid, hbal, hfresh, sub_self, ite_self, WalletEvent.signedAmount_none, ite_self]

/-- Every transaction a call can commit keeps the books, an admin call's only if the
    balance it read is still the stored one. -/
theorem Commits.books {s : Sys M} {ws : List (Write M)} (hw : s.Wf) (hf : AdminFresh s) (h : Commits s ws)
    (hb : Books s.store) : Books (s.store.commit ws) :=
  hb.commit ((h.move hw).balance hf rfl rfl)

/-! ## Every run -/

theorem books_step (cfg : Config) {s : Sys M} (hw : s.Wf) (hf : AdminFresh s) (hb : Books s.store) (e : Ev M) :
    Books (step cfg s e).store := by
  rcases step_store cfg hw e with hs | ⟨ws, hc, hs⟩ <;> rw [hs]
  · exact hb
  · exact hc.books hw hf hb

/-- Over the exact store, in every run in which no balance change lands between an admin
    call's read and its save, every wallet's stored balance is what its journal rows add
    up to. -/
theorem books_balance_exact (cfg : Config) (st : Store M) (hst : st.Wf) (hb : Books st) (now : Nat)
    (evs : List (Ev M)) (hfresh : ∀ k ≤ evs.length, AdminFresh (run cfg (Sys.init st now) (evs.take k))) :
    Books (run cfg (Sys.init st now) evs).store :=
  run_induct_while cfg (fun s => Books s.store) AdminFresh (fun _ e hw hf hb => books_step cfg hw hf hb e) evs _
    (Sys.Wf.init hst now) hb hfresh

/-- A deposit of 10.50 to a new wallet, then a freeze of it, one after the other. -/
def depositThenFreeze : List (Ev ℚ) :=
  .deposit 0 (21 / 2) none :: List.replicate 4 (.step 0 .ok) ++ .freezeWallet 0 :: List.replicate 3 (.step 1 .ok)

/-- A freeze of an empty wallet reads it, a deposit of 10 commits, the freeze saves what
    it read. -/
def freezeAcrossDeposit : List (Ev ℤ) :=
  .freezeWallet 0 :: List.replicate 2 (.step 0 .ok) ++ .deposit 0 10 none :: List.replicate 4 (.step 1 .ok) ++
    List.replicate 2 (.step 0 .ok)

/-- The deposit is lost: the balance is 0, the journal holds the deposit of 10. -/
theorem freeze_overwrites_deposit :
    (let s := run ⟨60000⟩ (Sys.init (Store.ofWallets [⟨0, 0, "USD", .ACTIVE, none, 0, none⟩]) 1000) freezeAcrossDeposit
    storedBalance s.store 0 = 0 ∧ journalBalance s.store.events 0 = 10 ∧
      s.store.events.map (·.eventType) = [.FUNDS_DEPOSITED, .WALLET_FROZEN]) := by
  decide

/-- Two deposits of 10 with request id 7, each past its idempotency lookup before either
    takes the lock; the first commits and releases the lock before the second takes it. -/
def sameRequestTwice : List (Ev ℤ) :=
  [.deposit 0 10 (some 7), .deposit 0 10 (some 7), .step 0 .ok, .step 1 .ok] ++ List.replicate 3 (.step 0 .ok) ++
    List.replicate 3 (.step 1 .ok) ++ [.step 0 .ok, .step 1 .ok]

/-- Both commit: two deposits in the journal, a balance of 20, two different responses,
    and the record holds the second. -/
theorem replayed_request_deposits_twice :
    (let s := run ⟨60000⟩ (Sys.init (Store.empty : Store ℤ) 1000) sameRequestTwice
    (s.store.events.filter (·.eventType = .FUNDS_DEPOSITED)).length = 2 ∧ storedBalance s.store 0 = 20 ∧
      s.calls = [.returned (.response (.balance 10 0)), .returned (.response (.balance 20 0))] ∧
      s.store.idempotency 7 = some (.balance 20 0)) := by
  decide

/-! ## The daily total under a stale save -/

/-- What wallet `w`'s withdrawals and debits journalled on UTC date `d` add up to. -/
def dayWithdrawn (evs : List (WalletEvent M)) (w : WalletId) (d : Nat) : M :=
  ((evs.filter fun e => e.walletId = w ∧ e.eventType = .FUNDS_WITHDRAWN ∧ dayOf e.createdAt = d).map
    (·.amount.getD 0)).sum

/-- One wallet holding 1000, with a daily limit of 100. -/
def limitedWallet : Store ℤ := Store.ofWallets [⟨0, 1000, "USD", .ACTIVE, some 100, 0, none⟩]

/-- `setDailyWithdrawalLimit(0, 100)` reads the row; a withdrawal of 60 runs to its end;
    the limit change saves what it read; a second withdrawal of 60 runs to its end. -/
def staleLimitSave : List (Ev ℤ) :=
  .setDailyWithdrawalLimit 0 (some 100) :: List.replicate 2 (.step 0 .ok) ++
    .withdraw 0 60 none :: List.replicate 4 (.step 1 .ok) ++
    .step 0 .ok :: .withdraw 0 60 none :: List.replicate 4 (.step 2 .ok)

/-- Both withdrawals commit: 120 withdrawn on one day under a limit of 100. -/
theorem stale_limit_save_resets_total :
    (let s := run ⟨60000⟩ (Sys.init limitedWallet 1000) staleLimitSave
    dayWithdrawn s.store.events 0 (dayOf 1000) = 120 ∧
      (s.store.wallets 0).bind (·.dailyWithdrawalLimit) = some 100 ∧
      s.calls = [.returned .unit, .returned (.response (.balance 940 0)), .returned (.response (.balance 940 0))]) := by
  decide

/-! ## Balances never go negative -/

/-- Every stored balance, and every balance an admin call holds to save, is at least 0. -/
structure Solvent (s : Sys M) : Prop where
  stored : ∀ v y, s.store.wallets v = some y → 0 ≤ y.balance
  held : ∀ op w x, Call.admin op w (.transaction (some x)) ∈ s.calls → 0 ≤ x.balance

/-- Every row a transaction writes has a balance of at least 0: a withdrawal's amount is
    at most the balance it read under the lock, and an admin call saves the balance it
    holds. -/
theorem WalletMove.nonneg {s : Sys M} {rows : List (Wallet M)} {es : List (WalletEvent M)}
    (hm : WalletMove s rows es) (hs : Solvent s) : ∀ y ∈ rows, 0 ≤ y.balance := by
  cases hm with
  | none => simp
  | create => simp
  | createDeposit v a m hv ha => simp [ha.le]
  | credit y a t m hy ha => simpa using add_nonneg (hs.stored _ _ hy) ha.le
  | withdraw y a m hy ha _ _ hle => simpa using hle
  | admin i op x x' hc hop =>
    simpa [(AdminOp.operation_keeps hop).2.1] using hs.held op x.id x (List.getElem?_mem hc)

/-- A call's move keeps every held balance at least 0: the row an admin call's `findById`
    reads is a stored one. -/
theorem solvent_step (cfg : Config) {s : Sys M} (hw : s.Wf) (hs : Solvent s) (e : Ev M) : Solvent (step cfg s e) := by
  have stored : ∀ v y, (step cfg s e).store.wallets v = some y → 0 ≤ y.balance := fun v y hy => by
    rcases step_store cfg hw e with h | ⟨ws, hc, h⟩ <;> rw [h] at hy
    · exact hs.stored v y hy
    · exact (Store.mem_wallets_commit hy).elim (hs.stored v y) ((hc.move hw).nonneg hs y)
  have read : ∀ {st : Store M} {op w x}, (∀ v y, st.wallets v = some y → 0 ≤ y.balance) →
      (Call.admin op w (.transaction (some x)) : Call M).OkIn st → 0 ≤ x.balance :=
    fun hst hc => let ⟨_, v, hv⟩ := hc _ rfl; hst v _ hv
  refine ⟨stored, fun op w x hx => ?_⟩
  rcases step_cases cfg hw e with ⟨i, -, -, -, u, c, hu, h, hc⟩ | ⟨c, hc, h⟩ | ⟨dt, h⟩ | ⟨i, p, -, ok, h⟩ | h <;>
    rw [h] at hx
  · rw [h] at stored
    change _ ∈ u.calls.set i c at hx
    rw [hu.calls] at hx
    rcases List.mem_or_eq_of_mem_set hx with hx | rfl
    · exact hs.held op w x hx
    · exact read stored hc
  · rcases List.mem_append.mp hx with hx | hx
    · exact hs.held op w x hx
    · rw [List.mem_singleton] at hx; subst hx; exact read hs.stored hc
  all_goals exact hs.held op w x hx

/-- Under every interleaving, with every failure and every stale admin save, no stored
    balance goes below 0. -/
theorem balances_never_negative (cfg : Config) (st : Store M) (hst : st.Wf)
    (h0 : ∀ v y, st.wallets v = some y → 0 ≤ y.balance) (now : Nat) (evs : List (Ev M)) :
    ∀ v y, (run cfg (Sys.init st now) evs).store.wallets v = some y → 0 ≤ y.balance :=
  (run_induct cfg Solvent (fun _ e hw hs => solvent_step cfg hw hs e) evs _ (Sys.Wf.init hst now)
    ⟨h0, fun _ _ _ h => nomatch h⟩).stored

theorem stale_freeze_keeps_balance_nonneg :
    ((Store.ofWallets [⟨0, 0, "USD", .ACTIVE, none, 0, none⟩] : Store ℤ).Wf ∧
      ∀ v y, (Store.ofWallets [⟨0, 0, "USD", .ACTIVE, none, 0, none⟩] : Store ℤ).wallets v = some y → 0 ≤ y.balance) ∧
      ∀ v y, (run ⟨60000⟩ (Sys.init (Store.ofWallets [⟨0, 0, "USD", .ACTIVE, none, 0, none⟩]) 1000)
        freezeAcrossDeposit).store.wallets v = some y → 0 ≤ y.balance :=
  have h0 : ∀ v y, (Store.ofWallets [⟨0, 0, "USD", .ACTIVE, none, 0, none⟩] : Store ℤ).wallets v = some y →
      0 ≤ y.balance := fun _ _ h => by
    dsimp only [Store.ofWallets] at h
    obtain rfl := List.mem_singleton.mp (List.mem_of_find?_eq_some h)
    exact le_rfl
  ⟨⟨Store.Wf.ofWallets _, h0⟩, balances_never_negative _ _ (Store.Wf.ofWallets _) h0 _ _⟩

end EventWallet
