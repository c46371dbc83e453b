/-
  EventWallet.Wallet.Ledger — the wallet entity over every sequence of calls of its
  seven methods on one object, as `wallet.entity.ts`'s fast-check properties run it in
  memory.

  Each call runs at an instant of the clock (only `withdraw` reads it, for its
  `new Date()`). A call that throws keeps what it mutated before the throw, and the
  next call runs on that object (`afterCall`). `runCalls` runs a sequence.

  Proved, for any amounts, limits and instants, with exact arithmetic:
  - `wallet_entity_laws`: from `new Wallet(id)`, after every sequence of calls the
    balance is at least 0 and is what the deposits and credits added and the
    withdrawals took, counting each call whose method returned on the object the calls
    before it left (`returnedDelta`); a call that throws leaves the balance,
    the status, the limit, the date of the last withdrawal and the day's total counted
    at its instant as they were; a CLOSED wallet keeps its status and its balance
    under every later sequence.
-/

import EventWallet.Wallet.Entity

namespace EventWallet

variable {M : Type} [LinearOrderedCommRing M]

/-- A call of one of the entity's methods. -/
inductive WalletCall (M : Type) where
  | deposit (amount : M)
  | withdraw (amount : M)
  | credit (amount : M)
  | freeze
  | unfreeze
  | close
  | setDailyWithdrawalLimit (limit : Option M)
  deriving DecidableEq, Repr

/-- The method the call runs, at instant `now`. -/
def WalletCall.call (now : Nat) : WalletCall M → Wallet M → Method M (Wallet M)
  | .deposit a, w => w.deposit a
  | .withdraw a, w => w.withdraw a now
  | .credit a, w => w.credit a
  | .freeze, w => w.freeze
  | .unfreeze, w => w.unfreeze
  | .close, w => w.close
  | .setDailyWithdrawalLimit l, w => w.setDailyWithdrawalLimit l

/-- What a call that returns adds to the balance. -/
def WalletCall.delta : WalletCall M → M
  | .deposit a | .credit a => a
  | .withdraw a => -a
  | _ => 0

/-- What the call adds to the balance when its method runs on `w`: its `delta` if the
    method returns, nothing if it throws. -/
def WalletCall.returnedDelta (now : Nat) (c : WalletCall M) (w : Wallet M) : M :=
  match c.call now w with
  | .ok _ => c.delta
  | .error _ => 0

/-- The object after a call: what it returned, or what it held when it threw. -/
def afterCall : Method M (Wallet M) → Wallet M
  | .ok w => w
  | .error (_, w) => w

/-- Run the calls in order on one object: the object left. -/
def runCalls (w : Wallet M) : List (WalletCall M × Nat) → Wallet M
  | [] => w
  | (c, now) :: cs => runCalls (afterCall (c.call now w)) cs

/-! ## One call -/

/-- A call that returns moves the balance by its `delta` and keeps it at least 0. -/
theorem WalletCall.call_ok {c : WalletCall M} {now : Nat} {w w' : Wallet M} (h : c.call now w = .ok w') :
    w'.balance = w.balance + c.delta ∧ (0 ≤ w.balance → 0 ≤ w'.balance) := by
  cases c with
  | deposit a =>
    obtain ⟨ha, -, rfl⟩ := Wallet.deposit_ok.mp h
    exact ⟨rfl, fun hb => add_nonneg hb ha.le⟩
  | credit a =>
    obtain ⟨ha, -, rfl⟩ := Wallet.credit_ok.mp h
    exact ⟨rfl, fun hb => add_nonneg hb ha.le⟩
  | withdraw a =>
    obtain ⟨-, -, -, hle, rfl⟩ := Wallet.withdraw_ok.mp h
    exact ⟨sub_eq_add_neg _ _, fun _ => sub_nonneg.mpr hle⟩
  | freeze => rw [Wallet.freeze_ok h]; simp [WalletCall.delta]
  | unfreeze => rw [Wallet.unfreeze_ok h]; split <;> simp [WalletCall.delta]
  | close => rw [(Wallet.close_ok h).2]; simp [WalletCall.delta]
  | setDailyWithdrawalLimit l => rw [Wallet.setDailyWithdrawalLimit_ok h]; simp [WalletCall.delta]

/-- A call that throws leaves the object as it was, but for a withdrawal's reset of
    the day's total. -/
theorem WalletCall.call_error {c : WalletCall M} {now : Nat} {w w' : Wallet M} {e : WalletError M}
    (h : c.call now w = .error (e, w')) :
    w' = w ∨ ∃ a, c = .withdraw a ∧ w' = w.resetDailyLimitIfNewDay now := by
  cases c with
  | deposit a => rw [WalletCall.call, Wallet.deposit_eq] at h; split_ifs at h <;> cases h <;> exact .inl rfl
  | credit a => rw [WalletCall.call, Wallet.credit_eq] at h; split_ifs at h <;> cases h <;> exact .inl rfl
  | withdraw a =>
    rw [WalletCall.call, Wallet.withdraw_eq] at h
    split_ifs at h <;> cases h
    exacts [.inl rfl, .inl rfl, .inr ⟨a, rfl, rfl⟩, .inr ⟨a, rfl, rfl⟩]
  | freeze => rw [WalletCall.call, Wallet.freeze_eq] at h; split_ifs at h; cases h; exact .inl rfl
  | unfreeze => cases h
  | close => rw [WalletCall.call, Wallet.close_eq] at h; split_ifs at h; cases h; exact .inl rfl
  | setDailyWithdrawalLimit l =>
    simp only [WalletCall.call, Wallet.setDailyWithdrawalLimit] at h
    split at h <;> [split_ifs at h; skip] <;> cases h
    exact .inl rfl

/-- The reset a throwing withdrawal keeps leaves every column but the day's total, and
    the total it counts at its instant. -/
theorem resetDailyLimitIfNewDay_frame (w : Wallet M) (now : Nat) :
    (w.resetDailyLimitIfNewDay now).balance = w.balance ∧ (w.resetDailyLimitIfNewDay now).status = w.status ∧
      (w.resetDailyLimitIfNewDay now).dailyWithdrawalLimit = w.dailyWithdrawalLimit ∧
      (w.resetDailyLimitIfNewDay now).lastWithdrawalDate = w.lastWithdrawalDate ∧
      (w.resetDailyLimitIfNewDay now).effectiveTotal now = w.effectiveTotal now := by
  rw [Wallet.resetDailyLimitIfNewDay_eq]
  refine ⟨rfl, rfl, rfl, rfl, ?_⟩
  simp only [Wallet.effectiveTotal]
  split <;> rfl

/-- A call on a CLOSED wallet leaves it CLOSED with its balance. -/
theorem WalletCall.call_closed (c : WalletCall M) (now : Nat) {w : Wallet M} (hw : w.status = .CLOSED) :
    (afterCall (c.call now w)).status = .CLOSED ∧ (afterCall (c.call now w)).balance = w.balance := by
  have hna : w.status ≠ .ACTIVE := by rw [hw]; decide
  cases c with
  | deposit a => rw [WalletCall.call, Wallet.deposit_eq]; split_ifs <;> exact ⟨hw, rfl⟩
  | credit a => rw [WalletCall.call, Wallet.credit_eq]; split_ifs <;> exact ⟨hw, rfl⟩
  | withdraw a =>
    rw [WalletCall.call, Wallet.withdraw_eq]
    simp only [hna, ne_eq, not_false_eq_true, if_true]
    split_ifs <;> exact ⟨hw, rfl⟩
  | freeze => rw [WalletCall.call, Wallet.freeze_eq, if_pos hw]; exact ⟨hw, rfl⟩
  | unfreeze => rw [WalletCall.call, Wallet.unfreeze_eq, if_neg (by rw [hw]; decide)]; exact ⟨hw, rfl⟩
  | close => rw [WalletCall.call, Wallet.close_eq]; split_ifs <;> first | exact ⟨hw, rfl⟩ | exact ⟨rfl, rfl⟩
  | setDailyWithdrawalLimit l =>
    simp only [WalletCall.call, Wallet.setDailyWithdrawalLimit]
    split <;> [split_ifs; skip] <;> exact ⟨hw, rfl⟩

/-! ## Every sequence -/

/-- A call moves the balance by `returnedDelta`, and keeps it at least 0 from at least 0. -/
theorem afterCall_balance (c : WalletCall M) (now : Nat) (w : Wallet M) :
    (afterCall (c.call now w)).balance = w.balance + c.returnedDelta now w ∧
      (0 ≤ w.balance → 0 ≤ (afterCall (c.call now w)).balance) := by
  unfold WalletCall.returnedDelta
  split
  · rename_i w' h
    rw [h]
    exact WalletCall.call_ok h
  · rename_i e h
    obtain ⟨e, w'⟩ := e
    rw [h, afterCall, add_zero]
    have hb : w'.balance = w.balance := by
      rcases WalletCall.call_error h with rfl | ⟨a, -, rfl⟩
      · rfl
      · exact (resetDailyLimitIfNewDay_frame w now).1
    exact ⟨hb, fun h0 => hb ▸ h0⟩

/-- The balance after a sequence is the balance before plus what each call added, run on
    the object the calls before it left; it stays at least 0 from a balance of at least
    0. -/
theorem runCalls_balance (w : Wallet M) (cs : List (WalletCall M × Nat)) :
    (runCalls w cs).balance =
        w.balance + ((cs.zip cs.inits).map fun ((c, now), before) => c.returnedDelta now (runCalls w before)).sum ∧
      (0 ≤ w.balance → 0 ≤ (runCalls w cs).balance) := by
  induction cs generalizing w with
  | nil => simp [runCalls]
  | cons p cs ih =>
    obtain ⟨c, now⟩ := p
    obtain ⟨hb, hn⟩ := afterCall_balance c now w
    obtain ⟨ih1, ih2⟩ := ih (afterCall (c.call now w))
    refine ⟨?_, fun h0 => ih2 (hn h0)⟩
    simp only [runCalls, List.inits, List.zip_cons_cons, List.zip_map_right, List.map_cons, List.map_map,
      List.sum_cons]
    rw [ih1, hb, add_assoc]
    rfl

/-- A CLOSED wallet stays CLOSED with its balance under every sequence of calls. -/
theorem runCalls_closed {w : Wallet M} (hw : w.status = .CLOSED) (cs : List (WalletCall M × Nat)) :
    (runCalls w cs).status = .CLOSED ∧ (runCalls w cs).balance = w.balance := by
  induction cs generalizing w with
  | nil => exact ⟨hw, rfl⟩
  | cons p cs ih =>
    obtain ⟨c, now⟩ := p
    have hc := c.call_closed now hw
    exact (ih hc.1).imp_right (·.trans hc.2)

/-- The laws of the entity over every sequence of calls of its seven methods. -/
theorem wallet_entity_laws :
    (∀ (id : WalletId) (currency : String) (cs : List (WalletCall M × Nat)),
      0 ≤ (runCalls (Wallet.new id currency) cs).balance ∧
      (runCalls (Wallet.new id currency) cs).balance =
        ((cs.zip cs.inits).map fun ((c, now), before) =>
          c.returnedDelta now (runCalls (Wallet.new id currency) before)).sum) ∧
    (∀ (c : WalletCall M) (now : Nat) (w w' : Wallet M) (e : WalletError M), c.call now w = .error (e, w') →
      w'.balance = w.balance ∧ w'.status = w.status ∧ w'.dailyWithdrawalLimit = w.dailyWithdrawalLimit ∧
        w'.lastWithdrawalDate = w.lastWithdrawalDate ∧ w'.effectiveTotal now = w.effectiveTotal now) ∧
    (∀ (w : Wallet M) (cs : List (WalletCall M × Nat)), w.status = .CLOSED →
      (runCalls w cs).status = .CLOSED ∧ (runCalls w cs).balance = w.balance) := by
  refine ⟨fun id currency cs => ?_, fun c now w w' e h => ?_, fun w cs hw => runCalls_closed hw cs⟩
  · obtain ⟨hb, hn⟩ := runCalls_balance (Wallet.new id currency) cs
    exact ⟨hn le_rfl, by rw [hb, Wallet.new_balance, zero_add]⟩
  · rcases WalletCall.call_error h with rfl | ⟨a, -, rfl⟩
    · exact ⟨rfl, rfl, rfl, rfl, rfl⟩
    · exact resetDailyLimitIfNewDay_frame w now

/-- A wallet whose last withdrawal, of 50, was on day 0, under a daily limit of 10. -/
def yesterdaysWallet : Wallet ℤ := ⟨0, 100, "USD", .ACTIVE, some 10, 50, some 0⟩

/-- A withdrawal of 20 on day 1 resets the day's total, then throws over the limit; what
    it keeps is what the laws allow. -/
theorem withdrawal_over_limit_keeps_laws :
    (WalletCall.withdraw (20 : ℤ)).call 86400000 yesterdaysWallet =
        .error (.WithdrawalLimitExceeded 20 10, { yesterdaysWallet with dailyWithdrawalTotal := 0 }) ∧
      ({ yesterdaysWallet with dailyWithdrawalTotal := 0 } : Wallet ℤ).balance = yesterdaysWallet.balance ∧
      ({ yesterdaysWallet with dailyWithdrawalTotal := 0 } : Wallet ℤ).status = yesterdaysWallet.status ∧
      ({ yesterdaysWallet with dailyWithdrawalTotal := 0 } : Wallet ℤ).dailyWithdrawalLimit =
        yesterdaysWallet.dailyWithdrawalLimit ∧
      ({ yesterdaysWallet with dailyWithdrawalTotal := 0 } : Wallet ℤ).lastWithdrawalDate =
        yesterdaysWallet.lastWithdrawalDate ∧
      ({ yesterdaysWallet with dailyWithdrawalTotal := 0 } : Wallet ℤ).effectiveTotal 86400000 =
        yesterdaysWallet.effectiveTotal 86400000 :=
  have h : (WalletCall.withdraw (20 : ℤ)).call 86400000 yesterdaysWallet =
      .error (.WithdrawalLimitExceeded 20 10, { yesterdaysWallet with dailyWithdrawalTotal := 0 }) := rfl
  ⟨h, wallet_entity_laws.2.1 _ _ _ _ _ h⟩

end EventWallet
