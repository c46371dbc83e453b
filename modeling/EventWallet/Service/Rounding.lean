/-
  EventWallet.Service.Rounding — the system over the store PostgreSQL keeps.

  The services compute in JavaScript numbers, here exact rationals. The columns
  `wallets.balance`, `daily_withdrawal_limit` and `daily_withdrawal_total`,
  `wallet_events.amount` and `transfer_sagas.amount` are DECIMAL(20,2): PostgreSQL
  rounds a value written to them to two places, half away from zero (`decimal2`), and
  a later read returns the rounded value. The idempotency record and the outbox
  payload are `jsonb` and keep the numbers as computed, and so do the objects a call
  holds in memory. `stepDB` is `step` with the store's DECIMAL(20,2) columns rounded
  after it (`Store.stored`); from a store PostgreSQL can hold, that is the store with
  the step's writes committed rounded (`stepDB_store`). `runDB` folds it.

  The DTOs admit any positive number (`@IsNumber() @IsPositive()`; their
  `minimum: 0.01` is documentation only), so the two runs part as soon as an amount
  has a third decimal. While every amount a call is given and every DECIMAL(20,2)
  value of the store has at most two decimals (`Cents`), so has every value a step
  writes: a sum or a difference of such values, or a value read back (`Sys.InCents`,
  kept by every step). Rounding then changes nothing.

  Proved, over every run:
  - `runDB_eq_run`: from a state whose store and calls are in cents, a run of events
    whose amounts are in cents reaches the same state over PostgreSQL's store as over
    the exact one. The results of the exact model are carried over through it, each
    beside the result it carries.
-/

import EventWallet.Service.Steps
import Mathlib.Data.Rat.Floor

namespace EventWallet

/-! ## DECIMAL(20,2) -/

/-- A value assigned to a `DECIMAL(20,2)` column: rounded to two places, half away from
    zero. -/
def decimal2 (q : ℚ) : ℚ := if q < 0 then -(round (-q * 100) / 100) else round (q * 100) / 100

/-- A value with at most two decimals. -/
def Cents (q : ℚ) : Prop := (q * 100).den = 1

instance (q : ℚ) : Decidable (Cents q) := inferInstanceAs (Decidable (_ = _))

theorem cents_iff {q : ℚ} : Cents q ↔ ∃ z : ℤ, q * 100 = z :=
  ⟨fun h => ⟨_, (Rat.coe_int_num_of_den_eq_one h).symm⟩, fun ⟨z, hz⟩ => by rw [Cents, hz, Rat.intCast_den]⟩

theorem Cents.zero : Cents 0 := cents_iff.mpr ⟨0, by simp⟩

theorem Cents.add {p q : ℚ} (hp : Cents p) (hq : Cents q) : Cents (p + q) := by
  obtain ⟨a, ha⟩ := cents_iff.mp hp
  obtain ⟨b, hb⟩ := cents_iff.mp hq
  exact cents_iff.mpr ⟨a + b, by push_cast; rw [← ha, ← hb]; ring⟩

theorem Cents.sub {p q : ℚ} (hp : Cents p) (hq : Cents q) : Cents (p - q) := by
  obtain ⟨a, ha⟩ := cents_iff.mp hp
  obtain ⟨b, hb⟩ := cents_iff.mp hq
  exact cents_iff.mpr ⟨a - b, by push_cast; rw [← ha, ← hb]; ring⟩

/-- What a DECIMAL(20,2) column holds has at most two decimals. -/
theorem cents_decimal2 (q : ℚ) : Cents (decimal2 q) := by
  unfold decimal2
  split
  · exact cents_iff.mpr ⟨-round (-q * 100), by push_cast; ring⟩
  · exact cents_iff.mpr ⟨round (q * 100), by ring⟩

theorem decimal2_of_cents {q : ℚ} (h : Cents q) : decimal2 q = q := by
  obtain ⟨z, hz⟩ := cents_iff.mp h
  have hn : -q * 100 = ((-z : ℤ) : ℚ) := by push_cast; rw [← hz]; ring
  unfold decimal2
  split
  · rw [hn, round_intCast]; push_cast; rw [← hz]; ring
  · rw [hz, round_intCast, ← hz]; ring

/-- A column keeps a value as written exactly when it has at most two decimals. -/
theorem decimal2_eq_self {q : ℚ} : decimal2 q = q ↔ Cents q :=
  ⟨fun h => h ▸ cents_decimal2 q, decimal2_of_cents⟩

theorem Option.map_decimal2_of_cents {o : Option ℚ} (h : ∀ a ∈ o, Cents a) : o.map decimal2 = o := by
  cases o with
  | none => rfl
  | some a => rw [Option.map_some', decimal2_of_cents (h a rfl)]

theorem cents_of_map_decimal2 {o : Option ℚ} (h : o.map decimal2 = o) : ∀ a ∈ o, Cents a := by
  rintro a rfl
  exact decimal2_eq_self.mp (Option.some.inj h)

/-! ## The rows PostgreSQL keeps -/

/-- The wallet row PostgreSQL keeps. -/
def Wallet.stored (w : Wallet ℚ) : Wallet ℚ :=
  { w with balance := decimal2 w.balance, dailyWithdrawalLimit := w.dailyWithdrawalLimit.map decimal2,
           dailyWithdrawalTotal := decimal2 w.dailyWithdrawalTotal }

@[simp] theorem Wallet.stored_id (w : Wallet ℚ) : w.stored.id = w.id := rfl

/-- The row a write leaves: every DECIMAL(20,2) column rounded. -/
def Write.stored : Write ℚ → Write ℚ
  | .wallet w => .wallet w.stored
  | .event e => .event { e with amount := e.amount.map decimal2 }
  | .saga g => .saga { g with amount := decimal2 g.amount }
  | w => w

/-- The store PostgreSQL keeps: every DECIMAL(20,2) column of every row rounded. -/
def Store.stored (s : Store ℚ) : Store ℚ :=
  { s with wallets := fun v => (s.wallets v).map Wallet.stored
           events := s.events.map fun e => { e with amount := e.amount.map decimal2 }
           sagas := fun g => (s.sagas g).map fun x => { x with amount := decimal2 x.amount }
           log := s.log.map (·.map Write.stored) }

/-- Every DECIMAL(20,2) value of the wallet row has at most two decimals. -/
def Wallet.InCents (w : Wallet ℚ) : Prop :=
  Cents w.balance ∧ (∀ l ∈ w.dailyWithdrawalLimit, Cents l) ∧ Cents w.dailyWithdrawalTotal

instance (w : Wallet ℚ) : Decidable w.InCents := inferInstanceAs (Decidable (_ ∧ _ ∧ _))

/-- Every DECIMAL(20,2) value of the write has at most two decimals. -/
def Write.InCents : Write ℚ → Prop
  | .wallet w => w.InCents
  | .event e => ∀ a ∈ e.amount, Cents a
  | .saga g => Cents g.amount
  | _ => True

instance : DecidablePred Write.InCents := fun w => by cases w <;> unfold Write.InCents <;> infer_instance

/-- Every DECIMAL(20,2) value of the store has at most two decimals: rounding leaves it
    as it is. -/
def Store.InCents (s : Store ℚ) : Prop := s.stored = s

theorem Wallet.stored_of_inCents {w : Wallet ℚ} (h : w.InCents) : w.stored = w := by
  obtain ⟨hb, hl, ht⟩ := h
  simp [Wallet.stored, decimal2_of_cents, hb, ht, Option.map_decimal2_of_cents hl]

theorem Wallet.inCents_of_stored {w : Wallet ℚ} (h : w.stored = w) : w.InCents :=
  ⟨decimal2_eq_self.mp (congrArg Wallet.balance h), cents_of_map_decimal2 (congrArg Wallet.dailyWithdrawalLimit h),
    decimal2_eq_self.mp (congrArg Wallet.dailyWithdrawalTotal h)⟩

/-- A write in cents is stored as written. -/
theorem Write.stored_of_cents {w : Write ℚ} (h : w.InCents) : w.stored = w := by
  cases w with
  | wallet x => exact congrArg Write.wallet (Wallet.stored_of_inCents h)
  | event e => simp [Write.stored, Option.map_decimal2_of_cents h]
  | saga g => simp [Write.stored, decimal2_of_cents (show Cents g.amount from h)]
  | _ => rfl

theorem map_upd {α β : Type} (f : Nat → Option α) (i : Nat) (v : Option α) (g : α → β) :
    (fun j => (upd f i v j).map g) = upd (fun j => (f j).map g) i (v.map g) := by
  funext j
  by_cases h : j = i <;> simp [upd, h]

theorem Store.stored_apply (s : Store ℚ) (w : Write ℚ) : (s.apply w).stored = s.stored.apply w.stored := by
  cases w <;> simp only [Store.apply, Store.stored, Write.stored, map_upd, Wallet.stored_id, List.map_append,
    List.map_cons, List.map_nil, Option.map_some']

theorem Store.stored_foldl (ws : List (Write ℚ)) (s : Store ℚ) :
    (ws.foldl Store.apply s).stored = (ws.map Write.stored).foldl Store.apply s.stored := by
  induction ws generalizing s with
  | nil => rfl
  | cons w ws ih => rw [List.foldl_cons, ih, Store.stored_apply]; rfl

/-- Rounding the store a commit leaves is committing the rounded writes to the rounded
    store. -/
theorem Store.stored_commit (s : Store ℚ) (ws : List (Write ℚ)) :
    (s.commit ws).stored = s.stored.commit (ws.map Write.stored) := by
  have h := Store.stored_foldl ws s
  simp only [Store.commit, Store.stored, List.map_append, List.map_cons, List.map_nil] at h ⊢
  rw [← h]

namespace Store.InCents

variable {s : Store ℚ}

theorem wallet (h : s.InCents) {v : WalletId} {w : Wallet ℚ} (hw : s.wallets v = some w) : w.InCents := by
  have hv := congrFun (congrArg Store.wallets h) v
  simp only [Store.stored, hw, Option.map_some', Option.some.injEq] at hv
  exact Wallet.inCents_of_stored hv

theorem saga (h : s.InCents) {g : SagaId} {x : TransferSaga ℚ} (hg : s.sagas g = some x) : Cents x.amount := by
  have hv := congrFun (congrArg Store.sagas h) g
  simp only [Store.stored, hg, Option.map_some', Option.some.injEq] at hv
  exact decimal2_eq_self.mp (congrArg TransferSaga.amount hv)

/-- A commit of writes in cents keeps the store in cents. -/
theorem commit (h : s.InCents) {ws : List (Write ℚ)} (hws : ∀ x ∈ ws, x.InCents) : (s.commit ws).InCents := by
  have hm : ws.map Write.stored = ws := (List.map_congr_left fun x hx => Write.stored_of_cents (hws x hx)).trans ws.map_id
  rw [Store.InCents, Store.stored_commit, hm, h]

theorem empty : (Store.empty : Store ℚ).InCents := rfl

theorem ofWallets {ws : List (Wallet ℚ)} (h : ∀ w ∈ ws, w.InCents) : (Store.ofWallets ws).InCents := by
  have hw : (fun v => ((Store.ofWallets ws).wallets v).map Wallet.stored) = (Store.ofWallets ws).wallets := by
    funext v
    show (ws.find? (·.id = v)).map Wallet.stored = ws.find? (·.id = v)
    cases hv : ws.find? (·.id = v) with
    | none => rfl
    | some w => rw [Option.map_some', Wallet.stored_of_inCents (h w (List.mem_of_find?_eq_some hv))]
  unfold Store.InCents Store.stored
  rw [hw]
  rfl

end Store.InCents

/-! ## A step over PostgreSQL's store -/

/-- One step over PostgreSQL's store: the step, with the DECIMAL(20,2) columns of the
    store it leaves rounded. -/
def stepDB (cfg : Config) (s : Sys ℚ) (e : Ev ℚ) : Sys ℚ :=
  { step cfg s e with store := (step cfg s e).store.stored }

def runDB (cfg : Config) (s : Sys ℚ) (evs : List (Ev ℚ)) : Sys ℚ := evs.foldl (stepDB cfg) s

@[simp] theorem runDB_nil (cfg : Config) (s : Sys ℚ) : runDB cfg s [] = s := rfl

@[simp] theorem runDB_cons (cfg : Config) (s : Sys ℚ) (e : Ev ℚ) (evs : List (Ev ℚ)) :
    runDB cfg s (e :: evs) = runDB cfg (stepDB cfg s e) evs := rfl

/-- From a store PostgreSQL can hold, a step over it leaves the store as it was or
    commits the rounded writes of one transaction of `Commits`. -/
theorem stepDB_store (cfg : Config) {s : Sys ℚ} (hw : s.Wf) (hs : s.store.InCents) (e : Ev ℚ) :
    (stepDB cfg s e).store = s.store ∨
      ∃ ws, Commits s ws ∧ (stepDB cfg s e).store = s.store.commit (ws.map Write.stored) := by
  rcases step_store cfg hw e with h | ⟨ws, hc, h⟩
  · exact .inl (by rw [stepDB, h]; exact hs)
  · exact .inr ⟨ws, hc, by rw [stepDB, h, Store.stored_commit, hs]⟩

/-! ## Amounts in cents -/

/-- The limit a limit change sets has at most two decimals. -/
def AdminOp.InCents : AdminOp ℚ → Prop
  | .setDailyWithdrawalLimit limit => ∀ l ∈ limit, Cents l
  | _ => True

/-- The row an admin call read, at its transaction. -/
def AdminPc.InCents : AdminPc ℚ → Prop
  | .transaction (some w) => w.InCents
  | _ => True

/-- The saga a transfer call holds. -/
def TransferPc.InCents : TransferPc ℚ → Prop
  | .publishInitiated g | .debitFromSender g | .invalidateFrom g | .creditToReceiver g | .invalidateTo g
  | .saveCompleted g | .publishCompleted g | .compensate g _ | .publishFailed g _ | .saveFailed g _ => Cents g.amount
  | _ => True

/-- The saga `recoverSaga` loaded. -/
def RecoverPc.InCents : RecoverPc ℚ → Prop
  | .findById _ => True
  | .creditToReceiver g | .invalidateTo g | .saveCompleted g | .publishCompleted g | .compensate g
  | .publishFailed g => Cents g.amount

/-- Every amount a call holds that can reach a DECIMAL(20,2) column has at most two
    decimals. -/
def Call.InCents : Call ℚ → Prop
  | .funds _ _ amount _ _ => Cents amount
  | .admin op _ pc => op.InCents ∧ pc.InCents
  | .transfer _ _ amount _ pc => Cents amount ∧ pc.InCents
  | .recovery (.recover _ pc) => pc.InCents
  | _ => True

/-- The amount an entry point is called with has at most two decimals. -/
def Ev.InCents : Ev ℚ → Prop
  | .deposit _ amount _ | .withdraw _ amount _ | .executeTransfer _ _ amount _ => Cents amount
  | .setDailyWithdrawalLimit _ limit => ∀ l ∈ limit, Cents l
  | _ => True

instance : DecidablePred Ev.InCents := fun e => by cases e <;> unfold Ev.InCents <;> infer_instance

theorem Ev.inCents_steps (n i : Nat) (f : Fault) : ∀ e ∈ List.replicate n (.step i f : Ev ℚ), e.InCents :=
  fun e h => by rw [List.eq_of_mem_replicate h]; trivial

/-- An entry point in cents followed by awaits: every event of it is in cents. -/
theorem Ev.inCents_cons_steps {e : Ev ℚ} (he : e.InCents) (n i : Nat) (f : Fault) :
    ∀ e' ∈ e :: List.replicate n (.step i f), e'.InCents :=
  List.forall_mem_cons.mpr ⟨he, Ev.inCents_steps n i f⟩

/-- The store and every call are in cents. -/
structure Sys.InCents (s : Sys ℚ) : Prop where
  store : s.store.InCents
  calls : ∀ c ∈ s.calls, c.InCents

theorem Sys.InCents.init {st : Store ℚ} (h : st.InCents) (now : Nat) : (Sys.init st now).InCents :=
  ⟨h, fun _ h => nomatch h⟩

/-! ### What the bodies write -/

section Bodies

variable {w w' : Wallet ℚ} {a : ℚ} {now : Nat}

theorem Wallet.InCents.add (hw : w.InCents) (ha : Cents a) : ({ w with balance := w.balance + a } : Wallet ℚ).InCents :=
  ⟨hw.1.add ha, hw.2⟩

theorem Wallet.InCents.withdrawn (hw : w.InCents) (ha : Cents a) : (w.withdrawn a now).InCents := by
  refine ⟨hw.1.sub ha, hw.2.1, Cents.add ?_ ha⟩
  unfold Wallet.effectiveTotal
  split
  · exact hw.2.2
  · exact .zero

theorem Wallet.InCents.new (v : WalletId) (c : String) : (Wallet.new v c : Wallet ℚ).InCents :=
  ⟨.zero, fun _ h => (Option.not_mem_none _ h).elim, .zero⟩

theorem Funds.operation_inCents {f : Funds} (hw : w.InCents) (ha : Cents a) (h : f.operation a now w = .ok w') :
    w'.InCents := by
  cases f
  · obtain ⟨-, -, rfl⟩ := Wallet.deposit_ok.mp h; exact hw.add ha
  · obtain ⟨-, -, -, -, rfl⟩ := Wallet.withdraw_ok.mp h; exact hw.withdrawn ha

theorem AdminOp.operation_inCents {op : AdminOp ℚ} (hop : op.InCents) (hw : w.InCents) (h : op.operation w = .ok w') :
    w'.InCents := by
  obtain ⟨-, hb, ht, -⟩ := AdminOp.operation_keeps h
  refine ⟨hb ▸ hw.1, ?_, ht ▸ hw.2.2⟩
  cases op with
  | freeze => rw [Wallet.freeze_ok h]; exact hw.2.1
  | unfreeze => rw [Wallet.unfreeze_ok h]; split <;> exact hw.2.1
  | close => rw [(Wallet.close_ok h).2]; exact hw.2.1
  | setDailyWithdrawalLimit l => rw [Wallet.setDailyWithdrawalLimit_ok h]; exact hop

theorem WalletEvent.new_inCents {amount : Option ℚ} (ha : ∀ x ∈ amount, Cents x) (v : WalletId) (t : WalletEventType)
    (c : String) (m : EventMeta) : Write.InCents (.event (WalletEvent.new v t c amount m now)) := fun x hx =>
  ha x (Option.mem_filter_iff.mp hx).1

/-- A transaction's writes in cents, from those of its parts. -/
theorem writes_inCents_append {ws ws' : List (Write ℚ)} (h : ∀ x ∈ ws, x.InCents) (h' : ∀ x ∈ ws', x.InCents) :
    ∀ x ∈ ws ++ ws', x.InCents := fun x hx => (List.mem_append.mp hx).elim (h x) (h' x)

theorem getOrCreate_inCents (s : Store ℚ) (v : WalletId) (c : String) (now : Nat) :
    ∀ x ∈ (getOrCreate s v c now).2, x.InCents := by
  unfold getOrCreate
  split
  · exact fun _ h => nomatch h
  · intro x hx
    rcases List.mem_cons.mp hx with rfl | hx
    · exact Wallet.InCents.new v c
    · split at hx
      · cases hx
      · rw [List.mem_singleton.mp hx]
        exact WalletEvent.new_inCents (fun _ h => (Option.not_mem_none _ h).elim) _ _ _ _

theorem saveWithEvent_inCents (hw : w.InCents) {amount : Option ℚ} (ha : ∀ x ∈ amount, Cents x) (t : WalletEventType)
    (m : EventMeta) : ∀ x ∈ saveWithEvent w t amount m now, x.InCents := by
  simp only [saveWithEvent, List.mem_cons, List.mem_singleton, List.not_mem_nil, or_false]
  rintro x (rfl | rfl)
  · exact hw
  · exact WalletEvent.new_inCents ha _ _ _ _

theorem idempotentTx_inCents {s : Store ℚ} (hs : s.InCents) {f : Funds} {v : WalletId} {r : Option RequestId}
    {ws : List (Write ℚ)} {resp : Response ℚ} (ha : Cents a) (h : idempotentTx f v a r s now = .ok (ws, resp)) :
    ∀ x ∈ ws, x.InCents := by
  obtain ⟨y, created, y', hy, hop, -, rfl⟩ := idempotentTx_ok h
  have hyc : y.InCents ∧ ∀ x ∈ created, x.InCents := by
    rcases hy with hy | ⟨hy, rfl⟩
    · have hc := getOrCreate_inCents s v "USD" now
      rw [hy] at hc
      cases hv : s.wallets v with
      | some x =>
        rw [getOrCreate_fst hv] at hy
        obtain ⟨rfl, -⟩ := Prod.mk.inj hy
        exact ⟨hs.wallet hv, hc⟩
      | none =>
        rw [getOrCreate_none hv] at hy
        obtain ⟨rfl, -⟩ := Prod.mk.inj hy
        exact ⟨Wallet.InCents.new v "USD", hc⟩
    · exact ⟨hs.wallet hy, fun _ h => nomatch h⟩
  refine writes_inCents_append (writes_inCents_append (writes_inCents_append hyc.2 ?_) ?_) ?_
  · exact saveWithEvent_inCents (Funds.operation_inCents hyc.1 ha hop) (fun x hx => Option.some.inj hx ▸ ha) _ _
  · cases r <;> simp [Write.InCents]
  · simp [Write.InCents]

theorem stateChangeTx_inCents {op : AdminOp ℚ} {v : WalletId} {read : Option (Wallet ℚ)} {ws : List (Write ℚ)}
    (hop : op.InCents) (hr : (AdminPc.transaction read).InCents) (h : stateChangeTx op v read now = .ok ws) :
    ∀ x ∈ ws, x.InCents := by
  obtain ⟨y, y', rfl, hy, rfl⟩ := stateChangeTx_ok h
  exact writes_inCents_append
    (saveWithEvent_inCents (AdminOp.operation_inCents hop hr hy) (fun _ h => (Option.not_mem_none _ h).elim) _ _)
    (by simp [Write.InCents])

/-- A leg writes its wallet moved by an amount in cents, its saga with the stored
    amount, its event and its outbox row. -/
theorem executeTransactionalStep_inCents {s : Store ℚ} (hs : s.InCents) {g : SagaId} {v : WalletId}
    {operation : Wallet ℚ → Method ℚ (Wallet ℚ)} {t : WalletEventType} {m : EventMeta}
    {updateSaga : Option (TransferSaga ℚ → Except SagaError (TransferSaga ℚ))} {ws : List (Write ℚ)}
    (hop : ∀ y y', y.InCents → operation y = .ok y' → y'.InCents)
    (hu : ∀ u x x', updateSaga = some u → u x = .ok x' → x'.amount = x.amount) (ha : Cents a)
    (h : executeTransactionalStep g v a operation t m updateSaga s now = .ok ws) : ∀ x ∈ ws, x.InCents := by
  obtain ⟨y, y', x, sagaWrites, hy, hy', hx, hsw, rfl⟩ := executeTransactionalStep_ok h
  refine writes_inCents_append (writes_inCents_append ?_ ?_) ?_
  · simpa using hop y y' (hs.wallet hy) hy'
  · rcases hsw with ⟨-, rfl⟩ | ⟨u, x', hu', hx', rfl⟩
    · exact fun _ h => nomatch h
    · simp only [List.mem_singleton, forall_eq]
      show Cents x'.amount
      rw [hu u x x' hu' hx']
      exact hs.saga hx
  · simp only [List.mem_cons, List.mem_singleton, List.not_mem_nil, or_false, forall_eq_or_imp, forall_eq]
    exact ⟨WalletEvent.new_inCents (fun x hx => Option.some.inj hx ▸ ha) _ _ _ _, trivial⟩

theorem debitFromSender_inCents {s : Store ℚ} (hs : s.InCents) {g : TransferSaga ℚ} {ws : List (Write ℚ)}
    (hg : Cents g.amount) (h : debitFromSender g s now = .ok ws) : ∀ x ∈ ws, x.InCents :=
  executeTransactionalStep_inCents hs
    (fun _ _ hy h => by obtain ⟨-, -, -, -, rfl⟩ := Wallet.withdraw_ok.mp h; exact hy.withdrawn hg)
    (fun _ _ _ hu h => by cases hu; obtain ⟨-, rfl⟩ := TransferSaga.markAsDebited_ok.mp h; rfl) hg h

theorem creditToReceiver_inCents {s : Store ℚ} (hs : s.InCents) {g : TransferSaga ℚ} {ws : List (Write ℚ)}
    (hg : Cents g.amount) (h : creditToReceiver g s now = .ok ws) : ∀ x ∈ ws, x.InCents :=
  executeTransactionalStep_inCents hs
    (fun _ _ hy h => by obtain ⟨-, -, rfl⟩ := Wallet.credit_ok.mp h; exact hy.add hg)
    (by intro _ _ _ hu; cases hu) hg h

theorem compensate_inCents {s : Store ℚ} (hs : s.InCents) {g : SagaId} {v : WalletId} {ws : List (Write ℚ)}
    (ha : Cents a) (h : compensate g v a s now = .ok ws) : ∀ x ∈ ws, x.InCents :=
  executeTransactionalStep_inCents hs
    (fun _ _ hy h => by obtain ⟨-, -, rfl⟩ := Wallet.credit_ok.mp h; exact hy.add ha)
    (fun _ _ _ hu h => by cases hu; obtain ⟨-, rfl⟩ := TransferSaga.markAsCompensated_ok.mp h; rfl) ha h

end Bodies

/-! ### Every step keeps the amounts in cents -/

namespace Sys.InCents

variable {s : Sys ℚ} {i : Nat} {fault : Fault}

theorem setCall (h : s.InCents) {c : Call ℚ} (hc : c.InCents) : (s.setCall i c).InCents :=
  ⟨h.store, fun x hx => (List.mem_or_eq_of_mem_set hx).elim (h.calls x) (· ▸ hc)⟩

theorem commit (h : s.InCents) {ws : List (Write ℚ)} (hws : ∀ x ∈ ws, x.InCents) : (s.commit ws).InCents :=
  ⟨h.store.commit hws, h.calls⟩

/-- An await whose effect writes neither the store nor the calls. -/
theorem io (h : s.InCents) {eff : Sys ℚ → Sys ℚ} {next onErr : Call ℚ}
    (he : (eff s).store = s.store ∧ (eff s).calls = s.calls) (hn : next.InCents) (ho : onErr.InCents) :
    (s.io i fault eff next onErr).InCents := by
  have h' : (eff s).InCents := ⟨he.1 ▸ h.store, he.2 ▸ h.calls⟩
  cases fault
  · exact h'.setCall hn
  · exact h.setCall ho
  · exact h'.setCall ho

theorem tx (h : s.InCents) {body : Except (Err ℚ) (List (Write ℚ))} {next : Call ℚ} {onErr : Err ℚ → Call ℚ}
    (hb : ∀ ws, body = .ok ws → ∀ x ∈ ws, x.InCents) (hn : next.InCents) (ho : ∀ e, (onErr e).InCents) :
    (s.tx i fault body next onErr).InCents := by
  unfold Sys.tx
  split
  · exact h.setCall (ho _)
  · exact h.setCall (ho _)
  · exact (h.commit (hb _ rfl)).setCall hn
  · exact (h.commit (hb _ rfl)).setCall (ho _)

theorem stepFunds (h : s.InCents) {f : Funds} {v : WalletId} {a : ℚ} {r : Option RequestId} {pc : FundsPc ℚ}
    (ha : Cents a) : (s.stepFunds i f v a r fault pc).InCents := by
  cases pc with
  | findByRequestId =>
    cases r with
    | none => exact h.setCall ha
    | some r => exact h.io ⟨rfl, rfl⟩ (by split <;> exact ha) trivial
  | acquireLock =>
    cases r with
    | none => exact h.setCall ha
    | some r =>
      simp only [Sys.stepFunds]
      split
      · exact h.io ⟨rfl, rfl⟩ trivial trivial
      · exact h.io ⟨rfl, rfl⟩ ha trivial
  | begin => exact h.io ⟨rfl, rfl⟩ ha trivial
  | transaction =>
    simp only [Sys.stepFunds]
    have hrel : ∀ t : Sys ℚ, t.InCents → (match r with | some r => t.delLock r | none => t).InCents := fun t ht => by
      cases r <;> exact ⟨ht.store, ht.calls⟩
    split
    · exact (hrel s h).setCall trivial
    · exact (hrel s h).setCall trivial
    · exact (hrel _ (h.commit (idempotentTx_inCents h.store ha ‹_›))).setCall ha
    · exact (h.commit (idempotentTx_inCents h.store ha ‹_›)).setCall trivial
  | setBalanceCache resp =>
    dsimp only [Sys.stepFunds]
    exact h.io ⟨rfl, rfl⟩ trivial trivial

theorem stepAdmin (h : s.InCents) {op : AdminOp ℚ} {v : WalletId} {pc : AdminPc ℚ} (hop : op.InCents)
    (hpc : pc.InCents) : (s.stepAdmin i op v fault pc).InCents := by
  cases pc <;> dsimp only [Sys.stepAdmin]
  case begin => exact h.io ⟨rfl, rfl⟩ ⟨hop, trivial⟩ trivial
  case findById =>
    refine h.io ⟨rfl, rfl⟩ ⟨hop, ?_⟩ trivial
    cases hv : s.store.wallets v with
    | none => trivial
    | some w => exact h.store.wallet hv
  case transaction read =>
    refine h.tx (fun _ hb => stateChangeTx_inCents hop hpc hb) ?_ fun _ => trivial
    split
    · exact ⟨hop, trivial⟩
    · trivial
  case invalidateBalanceCache => exact h.io ⟨rfl, rfl⟩ trivial trivial

theorem stepBalance (h : s.InCents) {v : WalletId} {pc : BalancePc ℚ} : (s.stepBalance i v fault pc).InCents := by
  cases pc <;> dsimp only [Sys.stepBalance]
  case get => exact h.io ⟨rfl, rfl⟩ (by split <;> trivial) trivial
  case findById => exact h.io ⟨rfl, rfl⟩ (by split <;> trivial) trivial
  case setBalanceCache b => exact h.io ⟨rfl, rfl⟩ trivial trivial

theorem stepTransfer (h : s.InCents) {fr t : WalletId} {a : ℚ} {r : Option RequestId} {pc : TransferPc ℚ}
    (ha : Cents a) (hpc : pc.InCents) : (s.stepTransfer i fr t a r fault pc).InCents := by
  have store_saga : ∀ {g x}, s.store.sagas g = some x → Cents x.amount := h.store.saga
  cases pc <;> dsimp only [Sys.stepTransfer]
  case findByRequestId =>
    have hgo : (if fr = t then Call.threw .sameWallet else .transfer fr t a r .findFrom).InCents := by
      split
      · trivial
      · exact ⟨ha, trivial⟩
    cases r with
    | none => exact h.setCall hgo
    | some r => exact h.io ⟨rfl, rfl⟩ (by split; trivial; exact hgo) trivial
  case findFrom => exact h.io ⟨rfl, rfl⟩ (by split <;> trivial) trivial
  case getOrCreate cur =>
    exact h.tx (fun _ hb => by cases hb; exact getOrCreate_inCents _ _ _ _)
      (by split; trivial; exact ⟨ha, trivial⟩) fun _ => trivial
  case saveSaga cur =>
    exact h.tx (fun _ hb => by cases hb; simpa [Write.InCents] using ha) ⟨ha, ha⟩ fun _ => trivial
  case publishInitiated g => exact h.io ⟨rfl, rfl⟩ ⟨ha, hpc⟩ trivial
  case debitFromSender g =>
    exact h.tx (fun _ hb => debitFromSender_inCents h.store hpc hb) ⟨ha, hpc⟩ fun _ => ⟨ha, trivial⟩
  case invalidateFrom g => exact h.io ⟨rfl, rfl⟩ ⟨ha, trivial⟩ ⟨ha, trivial⟩
  case findDebited g =>
    refine h.io ⟨rfl, rfl⟩ ?_ ⟨ha, trivial⟩
    split
    · exact ⟨ha, store_saga ‹_›⟩
    · exact ⟨ha, trivial⟩
  case creditToReceiver g =>
    exact h.tx (fun _ hb => creditToReceiver_inCents h.store hpc hb) ⟨ha, hpc⟩ fun _ => ⟨ha, trivial⟩
  case invalidateTo g => exact h.io ⟨rfl, rfl⟩ ⟨ha, trivial⟩ ⟨ha, trivial⟩
  case findCredited g =>
    refine h.io ⟨rfl, rfl⟩ ?_ ⟨ha, trivial⟩
    split
    · rename_i x hx
      split
      · rename_i x' hx'
        obtain ⟨-, rfl⟩ := TransferSaga.markAsCompleted_ok.mp hx'
        exact ⟨ha, show Cents x.amount from store_saga hx⟩
      · exact ⟨ha, trivial⟩
    · exact ⟨ha, trivial⟩
  case saveCompleted g =>
    exact h.tx (fun _ hb => by cases hb; simpa [Write.InCents] using hpc) ⟨ha, hpc⟩ fun _ => ⟨ha, trivial⟩
  case publishCompleted g => exact h.io ⟨rfl, rfl⟩ (by split <;> trivial) ⟨ha, trivial⟩
  case saveKey res =>
    cases r with
    | none => exact h.setCall trivial
    | some r => exact h.tx (fun _ hb => by cases hb; simp [Write.InCents]) trivial fun _ => ⟨ha, trivial⟩
  case findCurrent g e =>
    refine h.io ⟨rfl, rfl⟩ ?_ trivial
    split
    · rename_i x hx
      split
      · exact ⟨ha, store_saga hx⟩
      · exact ⟨ha, show Cents x.amount from store_saga hx⟩
    · trivial
  case compensate g e =>
    exact h.tx (fun _ hb => compensate_inCents h.store hpc hb) ⟨ha, hpc⟩ fun _ => trivial
  case publishFailed g e => exact h.io ⟨rfl, rfl⟩ trivial trivial
  case saveFailed g e =>
    exact h.tx (fun _ hb => by cases hb; simpa [Write.InCents] using hpc) trivial fun _ => trivial

theorem nextRecover_inCents (l : List SagaId) : (Sys.nextRecover l : Call ℚ).InCents := by
  cases l <;> trivial

theorem stepRecover (h : s.InCents) {rest : List SagaId} {pc : RecoverPc ℚ} (hpc : pc.InCents) :
    (s.stepRecover i rest fault pc).InCents := by
  have hn := nextRecover_inCents rest
  cases pc <;> dsimp only [Sys.stepRecover]
  case findById g =>
    refine h.io ⟨rfl, rfl⟩ ?_ hn
    split
    · split
      · exact h.store.saga ‹_›
      · exact hn
    · exact hn
  case creditToReceiver g => exact h.tx (fun _ hb => creditToReceiver_inCents h.store hpc hb) hpc fun _ => hpc
  case invalidateTo g => exact h.io ⟨rfl, rfl⟩ hpc hpc
  case saveCompleted g =>
    split
    · rename_i g' hg
      obtain ⟨-, rfl⟩ := TransferSaga.markAsCompleted_ok.mp hg
      exact h.tx (fun _ hb => by cases hb; simpa [Write.InCents] using hpc) hpc fun _ => hpc
    · exact h.setCall hpc
  case publishCompleted g => exact h.io ⟨rfl, rfl⟩ hn hpc
  case compensate g => exact h.tx (fun _ hb => compensate_inCents h.store hpc hb) hpc fun _ => hn
  case publishFailed g => exact h.io ⟨rfl, rfl⟩ hn hn

theorem stepRelay (h : s.InCents) {pc : RelayPc} : (s.stepRelay i fault pc).InCents := by
  cases pc with
  | findUnpublished => exact h.io ⟨rfl, rfl⟩ (by split <;> trivial) trivial
  | publish pending ids =>
    cases pending with
    | nil => exact h.setCall trivial
    | cons j rest =>
      simp only [Sys.stepRelay]
      split
      · exact h.io ⟨rfl, rfl⟩ trivial trivial
      · exact h.setCall trivial
  | markAsPublished ids =>
    simp only [Sys.stepRelay]
    split
    · exact h.setCall trivial
    · exact h.tx (fun _ hb => by cases hb; simp [Write.InCents]) trivial fun _ => trivial

theorem stepCall (h : s.InCents) {cfg : Config} {c : Call ℚ} (hc : s.calls[i]? = some c) :
    (s.stepCall cfg i fault c).InCents := by
  have hcc : c.InCents := h.calls c (List.getElem?_mem hc)
  cases c with
  | funds => exact h.stepFunds hcc
  | admin => exact h.stepAdmin hcc.1 hcc.2
  | getBalance => exact h.stepBalance
  | transfer => exact h.stepTransfer hcc.1 hcc.2
  | recovery pc =>
    cases pc with
    | find => exact h.io ⟨rfl, rfl⟩ (nextRecover_inCents _) trivial
    | recover => exact h.stepRecover hcc
  | relay => exact h.stepRelay
  | _ => exact h

/-- Every step with an event in cents keeps the store and the calls in cents. -/
theorem step (h : s.InCents) (cfg : Config) {e : Ev ℚ} (he : e.InCents) : (EventWallet.step cfg s e).InCents := by
  have spawn : ∀ c : Call ℚ, c.InCents → (s.spawn c).InCents := fun c hc =>
    ⟨h.store, fun x hx => (List.mem_append.mp hx).elim (h.calls x) fun hx => List.mem_singleton.mp hx ▸ hc⟩
  cases e with
  | deposit | withdraw => exact spawn _ he
  | setDailyWithdrawalLimit => exact spawn _ ⟨he, trivial⟩
  | executeTransfer => exact spawn _ ⟨he, trivial⟩
  | step i f =>
    simp only [EventWallet.step]
    split
    · exact h.stepCall ‹_›
    · exact h
  | crash i =>
    simp only [EventWallet.step]
    split <;> first | exact h | exact h.setCall trivial
  | tick => exact ⟨h.store, h.calls⟩
  | flush i ok =>
    simp only [EventWallet.step]
    split
    · exact ⟨h.store, h.calls⟩
    · exact h
  | _ => exact spawn _ (by trivial)

end Sys.InCents

/-! ## The two runs agree while amounts are in cents -/

theorem stepDB_eq_step (cfg : Config) {s : Sys ℚ} {e : Ev ℚ} (h : (step cfg s e).store.InCents) :
    stepDB cfg s e = step cfg s e := by
  rw [stepDB, h]

/-- From a state whose store and calls are in cents, every run of events whose amounts
    are in cents reaches the same state over PostgreSQL's store as over the exact one. -/
theorem runDB_eq_run (cfg : Config) (s : Sys ℚ) (hs : s.InCents) (evs : List (Ev ℚ)) (he : ∀ e ∈ evs, e.InCents) :
    runDB cfg s evs = run cfg s evs := by
  induction evs generalizing s with
  | nil => rfl
  | cons e evs ih =>
    have hs' := hs.step cfg (he e (List.mem_cons_self _ _))
    rw [runDB_cons, run_cons, stepDB_eq_step cfg hs'.store]
    exact ih _ hs' fun e' h => he e' (List.mem_cons_of_mem _ h)

/-- The same of every prefix of the run. -/
theorem runDB_take_eq_run (cfg : Config) (s : Sys ℚ) (hs : s.InCents) (evs : List (Ev ℚ))
    (he : ∀ e ∈ evs, e.InCents) (k : Nat) : runDB cfg s (evs.take k) = run cfg s (evs.take k) :=
  runDB_eq_run cfg s hs _ fun e h => he e (List.mem_of_mem_take h)

end EventWallet
