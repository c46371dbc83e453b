/-
  EventWallet.Wallet.Entity — the wallet entity (`wallet.entity.ts`): its columns and
  the seven methods the engine and the saga call (`deposit`, `withdraw`, `credit`,
  `freeze`, `unfreeze`, `close`, `setDailyWithdrawalLimit`).

  Amounts live in any linearly ordered commutative ring `M` (ℚ reads the code's numbers
  as exact values, ℤ counts cents); the entity only adds, subtracts and compares them.
  Identifiers are compared and used as keys and nothing else, so they are numbers. An
  instant is a count of milliseconds and its UTC date the day number (`getTodayDate`,
  `toISOString().split('T')[0]`).

  A method mutates the wallet and may throw; a throw keeps what the method mutated
  before it (`Method`). Only `withdraw` mutates before a check: on a new day it resets
  the daily total, then checks the limit and the balance.

  Each method has one spec lemma (`*_eq`), and from it what a call that returns
  leaves (`*_ok`):
  - `deposit_ok`, `credit_ok`, `withdraw_ok`: the amount was positive, the wallet
    ACTIVE, and the balance moved by the amount; a withdrawal also passed the limit
    and counted its amount into the day's total.
  - `freeze_ok`, `unfreeze_ok`, `close_ok`, `setDailyWithdrawalLimit_ok`: the balance,
    the daily total and its date are left as they were.

  `canDebit`, the pre-check nothing calls, accepts every withdrawal that goes through
  (`canDebit_of_withdraw_ok`).
-/

import Mathlib.Algebra.Order.Ring.Defs
import Mathlib.Tactic.Linarith

namespace EventWallet

abbrev WalletId := Nat
abbrev SagaId := Nat
abbrev RequestId := Nat

def msPerDay : Nat := 86400000

/-- The UTC date of an instant. -/
def dayOf (t : Nat) : Nat := t / msPerDay

inductive WalletStatus where
  | ACTIVE
  | FROZEN
  | CLOSED
  deriving DecidableEq, Repr

/-- The entity's exceptions (`wallet.exceptions.ts`) with the fields they carry. -/
inductive WalletError (M : Type) where
  | InsufficientFunds (currentBalance requestedAmount : M)
  | WalletNotActive (currentStatus : WalletStatus)
  | WithdrawalLimitExceeded (requestedAmount dailyLimit : M)
  | InvalidAmount (amount : M) (operation : String)
  | WalletClosed
  | NonZeroBalance (balance : M)
  deriving DecidableEq, Repr

structure Wallet (M : Type) where
  id : WalletId
  balance : M
  currency : String
  status : WalletStatus
  dailyWithdrawalLimit : Option M
  dailyWithdrawalTotal : M
  /-- The UTC date of the last withdrawal. -/
  lastWithdrawalDate : Option Nat
  deriving DecidableEq, Repr

/-- A method call: it returns, or throws an exception with the wallet as it stood
    when thrown. -/
abbrev Method (M : Type) := Except (WalletError M × Wallet M)

section
variable {M : Type} [LinearOrderedCommRing M]

/-- `new Wallet(id, currency)`. -/
def Wallet.new (id : WalletId) (currency : String) : Wallet M :=
  ⟨id, 0, currency, .ACTIVE, none, 0, none⟩

namespace Wallet

@[simp] theorem new_id (id : WalletId) (currency : String) : (Wallet.new id currency : Wallet M).id = id := rfl
@[simp] theorem new_balance (id : WalletId) (currency : String) : (Wallet.new id currency : Wallet M).balance = 0 := rfl
@[simp] theorem new_status (id : WalletId) (currency : String) :
    (Wallet.new id currency : Wallet M).status = .ACTIVE := rfl

def ensureWalletActive (w : Wallet M) : Method M Unit :=
  if w.status ≠ .ACTIVE then throw (.WalletNotActive w.status, w) else pure ()

def validatePositiveAmount (w : Wallet M) (amount : M) (operation : String) :
    Method M Unit :=
  if amount ≤ 0 then throw (.InvalidAmount amount operation, w) else pure ()

def resetDailyLimitIfNewDay (w : Wallet M) (now : Nat) : Wallet M :=
  if w.lastWithdrawalDate ≠ some (dayOf now) then { w with dailyWithdrawalTotal := 0 } else w

def validateDailyLimit (w : Wallet M) (amount : M) : Method M Unit :=
  match w.dailyWithdrawalLimit with
  | none => pure ()
  | some l => if w.dailyWithdrawalTotal + amount > l then throw (.WithdrawalLimitExceeded amount l, w) else pure ()

def trackWithdrawal (w : Wallet M) (amount : M) (now : Nat) : Wallet M :=
  { w with dailyWithdrawalTotal := w.dailyWithdrawalTotal + amount, lastWithdrawalDate := some (dayOf now) }

def deposit (w : Wallet M) (amount : M) : Method M (Wallet M) := do
  w.validatePositiveAmount amount "Deposit"
  w.ensureWalletActive
  return { w with balance := w.balance + amount }

/-- `now` is the instant of the call's `new Date()`. -/
def withdraw (w : Wallet M) (amount : M) (now : Nat) : Method M (Wallet M) := do
  w.validatePositiveAmount amount "Withdrawal"
  w.ensureWalletActive
  let w := w.resetDailyLimitIfNewDay now
  w.validateDailyLimit amount
  if w.balance < amount then throw (.InsufficientFunds w.balance amount, w)
  return trackWithdrawal { w with balance := w.balance - amount } amount now

def credit (w : Wallet M) (amount : M) : Method M (Wallet M) := do
  w.validatePositiveAmount amount "Credit"
  w.ensureWalletActive
  return { w with balance := w.balance + amount }

def freeze (w : Wallet M) : Method M (Wallet M) :=
  if w.status = .CLOSED then throw (.WalletClosed, w) else pure { w with status := .FROZEN }

def unfreeze (w : Wallet M) : Method M (Wallet M) :=
  pure (if w.status = .FROZEN then { w with status := .ACTIVE } else w)

def close (w : Wallet M) : Method M (Wallet M) :=
  if w.balance ≠ 0 then throw (.NonZeroBalance w.balance, w) else pure { w with status := .CLOSED }

def setDailyWithdrawalLimit (w : Wallet M) (limit : Option M) : Method M (Wallet M) :=
  match limit with
  | some l => if l ≤ 0 then throw (.InvalidAmount l "Daily withdrawal limit", w)
      else pure { w with dailyWithdrawalLimit := limit }
  | none => pure { w with dailyWithdrawalLimit := limit }

/-- `canDebit(amount)`, "used for pre-validation before operations"; nothing calls it. -/
def canDebit (w : Wallet M) (amount : M) : Bool :=
  w.status == .ACTIVE && decide (w.balance ≥ amount) && decide (amount > 0) &&
    match w.dailyWithdrawalLimit with
    | none => true
    | some l => decide (amount ≤ l)

/-- The daily total a withdrawal at `now` counts from. -/
def effectiveTotal (w : Wallet M) (now : Nat) : M :=
  if w.lastWithdrawalDate = some (dayOf now) then w.dailyWithdrawalTotal else 0

/-- The limit check, read on the wallet before the reset. -/
def withinLimit (w : Wallet M) (amount : M) (now : Nat) : Prop :=
  ∀ l, w.dailyWithdrawalLimit = some l → w.effectiveTotal now + amount ≤ l

instance (w : Wallet M) (amount : M) (now : Nat) : Decidable (w.withinLimit amount now) :=
  match h : w.dailyWithdrawalLimit with
  | none => isTrue (fun l hl => by simp [h] at hl)
  | some l => decidable_of_iff (w.effectiveTotal now + amount ≤ l) (by simp [withinLimit, h])

/-- The wallet a withdrawal that passes its checks leaves. -/
def withdrawn (w : Wallet M) (amount : M) (now : Nat) : Wallet M :=
  { w with balance := w.balance - amount, dailyWithdrawalTotal := w.effectiveTotal now + amount,
           lastWithdrawalDate := some (dayOf now) }

@[simp] theorem withdrawn_id (w : Wallet M) (amount : M) (now : Nat) : (w.withdrawn amount now).id = w.id := rfl
@[simp] theorem withdrawn_status (w : Wallet M) (amount : M) (now : Nat) :
    (w.withdrawn amount now).status = w.status := rfl
@[simp] theorem withdrawn_balance (w : Wallet M) (amount : M) (now : Nat) :
    (w.withdrawn amount now).balance = w.balance - amount := rfl

/-! ## Spec lemmas -/

/-- The reset leaves the daily total a withdrawal at `now` counts from. -/
theorem resetDailyLimitIfNewDay_eq (w : Wallet M) (now : Nat) :
    w.resetDailyLimitIfNewDay now = { w with dailyWithdrawalTotal := w.effectiveTotal now } := by
  cases w; unfold resetDailyLimitIfNewDay effectiveTotal; split <;> simp_all

@[simp] theorem resetDailyLimitIfNewDay_balance (w : Wallet M) (now : Nat) :
    (w.resetDailyLimitIfNewDay now).balance = w.balance := by
  rw [resetDailyLimitIfNewDay_eq]

/-- The limit check after the reset is `withinLimit` on the wallet before it. -/
theorem validateDailyLimit_reset (w : Wallet M) (a : M) (now : Nat) :
    (w.resetDailyLimitIfNewDay now).validateDailyLimit a =
      if w.withinLimit a now then .ok ()
      else .error (.WithdrawalLimitExceeded a (w.dailyWithdrawalLimit.getD 0), w.resetDailyLimitIfNewDay now) := by
  rw [resetDailyLimitIfNewDay_eq]
  rcases w with ⟨id, b, c, st, _ | l, tot, last⟩
  · simp [validateDailyLimit, withinLimit, pure, Except.pure]
  · simp only [validateDailyLimit, withinLimit, Option.some.injEq, forall_eq', Option.getD_some, gt_iff_lt, ← not_le]
    split_ifs <;> rfl

theorem trackWithdrawal_reset (w : Wallet M) (a : M) (now : Nat) :
    trackWithdrawal { w.resetDailyLimitIfNewDay now with balance := w.balance - a } a now = w.withdrawn a now := by
  rw [resetDailyLimitIfNewDay_eq]; rfl

theorem deposit_eq (w : Wallet M) (a : M) :
    w.deposit a =
      if a ≤ 0 then .error (.InvalidAmount a "Deposit", w)
      else if w.status ≠ .ACTIVE then .error (.WalletNotActive w.status, w)
      else .ok { w with balance := w.balance + a } := by
  unfold deposit validatePositiveAmount ensureWalletActive
  split <;> [rfl; split <;> rfl]

theorem credit_eq (w : Wallet M) (a : M) :
    w.credit a =
      if a ≤ 0 then .error (.InvalidAmount a "Credit", w)
      else if w.status ≠ .ACTIVE then .error (.WalletNotActive w.status, w)
      else .ok { w with balance := w.balance + a } := by
  unfold credit validatePositiveAmount ensureWalletActive
  split <;> [rfl; split <;> rfl]

theorem withdraw_eq (w : Wallet M) (a : M) (now : Nat) :
    w.withdraw a now =
      if a ≤ 0 then .error (.InvalidAmount a "Withdrawal", w)
      else if w.status ≠ .ACTIVE then .error (.WalletNotActive w.status, w)
      else if ¬ w.withinLimit a now then
        .error (.WithdrawalLimitExceeded a (w.dailyWithdrawalLimit.getD 0), w.resetDailyLimitIfNewDay now)
      else if w.balance < a then .error (.InsufficientFunds w.balance a, w.resetDailyLimitIfNewDay now)
      else .ok (w.withdrawn a now) := by
  unfold withdraw validatePositiveAmount ensureWalletActive
  simp only [validateDailyLimit_reset, resetDailyLimitIfNewDay_balance, trackWithdrawal_reset]
  by_cases h1 : a ≤ 0 <;> simp only [h1, if_true, if_false]
  · rfl
  by_cases h2 : w.status = .ACTIVE <;> simp only [h2, ne_eq, not_true_eq_false, not_false_eq_true, if_true, if_false]
  · by_cases h3 : w.withinLimit a now <;> simp only [h3, not_true_eq_false, not_false_eq_true, if_true, if_false]
    · by_cases h4 : w.balance < a <;> simp only [h4, if_true, if_false] <;> rfl
    · rfl
  · rfl

omit [LinearOrderedCommRing M] in
theorem freeze_eq (w : Wallet M) :
    w.freeze = if w.status = .CLOSED then .error (.WalletClosed, w) else .ok { w with status := .FROZEN } := rfl

omit [LinearOrderedCommRing M] in
theorem unfreeze_eq (w : Wallet M) : w.unfreeze = .ok (if w.status = .FROZEN then { w with status := .ACTIVE } else w) :=
  rfl

theorem close_eq (w : Wallet M) :
    w.close = if w.balance ≠ 0 then .error (.NonZeroBalance w.balance, w) else .ok { w with status := .CLOSED } := rfl

/-! ## What a call that returns leaves -/

variable {w w' : Wallet M} {a : M}

/-- The checks `deposit` and `credit` share, whatever the operation's name. -/
theorem added_ok (op : String) :
    (if a ≤ 0 then .error (.InvalidAmount a op, w)
      else if w.status ≠ .ACTIVE then .error (.WalletNotActive w.status, w)
      else .ok { w with balance := w.balance + a } : Method M (Wallet M)) = .ok w' ↔
      0 < a ∧ w.status = .ACTIVE ∧ w' = { w with balance := w.balance + a } := by
  by_cases h1 : a ≤ 0
  · simp [h1, not_lt.mpr h1]
  by_cases h2 : w.status = .ACTIVE
  · simp [h1, not_le.mp h1, h2, eq_comm]
  · simp [h1, h2]

theorem deposit_ok : w.deposit a = .ok w' ↔ 0 < a ∧ w.status = .ACTIVE ∧ w' = { w with balance := w.balance + a } := by
  rw [deposit_eq, added_ok]

theorem credit_ok : w.credit a = .ok w' ↔ 0 < a ∧ w.status = .ACTIVE ∧ w' = { w with balance := w.balance + a } := by
  rw [credit_eq, added_ok]

theorem withdraw_ok {now : Nat} :
    w.withdraw a now = .ok w' ↔
      0 < a ∧ w.status = .ACTIVE ∧ w.withinLimit a now ∧ a ≤ w.balance ∧ w' = w.withdrawn a now := by
  rw [withdraw_eq]
  by_cases h1 : a ≤ 0
  · simp [h1, not_lt.mpr h1]
  by_cases h2 : w.status = .ACTIVE
  · by_cases h3 : w.withinLimit a now
    · by_cases h4 : w.balance < a
      · simp [h1, h2, h3, h4, not_le.mpr h4]
      · simp [h1, not_le.mp h1, h2, h3, h4, not_lt.mp h4, eq_comm]
    · simp [h1, h2, h3]
  · simp [h1, h2]

/-- `canDebit` never refuses a withdrawal that goes through, when the day's total is not
    negative. -/
theorem canDebit_of_withdraw_ok {now : Nat} (ht : 0 ≤ w.dailyWithdrawalTotal) (h : w.withdraw a now = .ok w') :
    w.canDebit a = true := by
  obtain ⟨ha, hs, hl, hb, -⟩ := withdraw_ok.mp h
  have he : 0 ≤ w.effectiveTotal now := by unfold effectiveTotal; split <;> simp [ht]
  unfold canDebit
  cases hlim : w.dailyWithdrawalLimit with
  | none => simp [hs, ha, hb]
  | some l => simpa [hs, ha, hb] using (by linarith [hl l hlim] : a ≤ l)

/-- A wallet with 100 and a daily limit of 100, no withdrawal yet. -/
def hundredAtLimit : Wallet ℤ := ⟨0, 100, "USD", .ACTIVE, some 100, 0, none⟩

theorem withdrawal_within_limit_passes_canDebit :
    (0 ≤ hundredAtLimit.dailyWithdrawalTotal ∧ hundredAtLimit.withdraw 50 0 = .ok (hundredAtLimit.withdrawn 50 0)) ∧
      hundredAtLimit.canDebit 50 = true := by
  have h : hundredAtLimit.withdraw 50 0 = .ok (hundredAtLimit.withdrawn 50 0) := rfl
  exact ⟨⟨le_rfl, h⟩, canDebit_of_withdraw_ok le_rfl h⟩

omit [LinearOrderedCommRing M] in
theorem freeze_ok : w.freeze = .ok w' → w' = { w with status := .FROZEN } := by
  unfold freeze; split <;> simp [throw, throwThe, MonadExceptOf.throw, pure, Except.pure, eq_comm]

omit [LinearOrderedCommRing M] in
theorem unfreeze_ok : w.unfreeze = .ok w' → w' = if w.status = .FROZEN then { w with status := .ACTIVE } else w := by
  simp [unfreeze, pure, Except.pure, eq_comm]

theorem close_ok : w.close = .ok w' → w.balance = 0 ∧ w' = { w with status := .CLOSED } := by
  unfold close; split <;> simp_all [throw, throwThe, MonadExceptOf.throw, pure, Except.pure, eq_comm]

theorem setDailyWithdrawalLimit_ok {limit : Option M} :
    w.setDailyWithdrawalLimit limit = .ok w' → w' = { w with dailyWithdrawalLimit := limit } := by
  unfold setDailyWithdrawalLimit; split <;> [split; skip] <;>
    simp_all [throw, throwThe, MonadExceptOf.throw, pure, Except.pure, eq_comm]

end Wallet
end

end EventWallet
