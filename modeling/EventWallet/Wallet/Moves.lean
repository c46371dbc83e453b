/-
  EventWallet.Wallet.Moves — what a committed transaction does to the wallet rows and
  the journal, said once.

  Every transaction of `Commits` writes its wallet rows and its journal rows in one of
  six shapes (`WalletMove`): nothing; a wallet `getOrCreate` creates; a deposit to a
  wallet it creates; a credit of a stored row (a deposit, the credit leg, the
  compensation leg); a withdrawal of a stored row (a withdrawal, the debit leg); an
  admin call's save of the row it read, whatever the row holds by then. The rows a
  transaction reads under the lock are the stored ones. `Commits.move` says so; the
  invariants relating the wallet rows to the journal are proved from it.
-/

import EventWallet.Service.Steps

namespace EventWallet

variable {M : Type} [LinearOrderedCommRing M]

/-- The journal rows `getOrCreate` writes with a wallet it creates: WALLET_CREATED, unless
    the journal has a row of the id already. -/
def createdEvents (s : Store M) (v : WalletId) (c : String) (now : Nat) : List (WalletEvent M) :=
  if s.events.any (·.walletId == v) then [] else [WalletEvent.new v .WALLET_CREATED c none .null now]

theorem mem_createdEvents {s : Store M} {v : WalletId} {c : String} {now : Nat} {e : WalletEvent M}
    (he : e ∈ createdEvents s v c now) : e = WalletEvent.new v .WALLET_CREATED c none .null now := by
  unfold createdEvents at he; split at he <;> simp_all

/-- The wallet rows and the journal rows one transaction writes, in order. -/
inductive WalletMove (s : Sys M) : List (Wallet M) → List (WalletEvent M) → Prop
  | none : WalletMove s [] []
  /-- `getOrCreate` of a missing wallet. -/
  | create (v : WalletId) (c : String) : s.store.wallets v = none →
      WalletMove s [Wallet.new v c] (createdEvents s.store v c s.now)
  /-- A deposit to a wallet its transaction creates. -/
  | createDeposit (v : WalletId) (a : M) (m : EventMeta) : s.store.wallets v = none → 0 < a →
      WalletMove s [Wallet.new v "USD", { Wallet.new v "USD" with balance := a }]
        (createdEvents s.store v "USD" s.now ++ [WalletEvent.new v .FUNDS_DEPOSITED "USD" (some a) m s.now])
  /-- A deposit, the credit leg or the compensation leg on the stored row `y`. -/
  | credit (y : Wallet M) (a : M) (t : WalletEventType) (m : EventMeta) : s.store.wallets y.id = some y → 0 < a →
      y.status = .ACTIVE → t = .FUNDS_DEPOSITED ∨ t = .TRANSFER_COMPENSATED →
      WalletMove s [{ y with balance := y.balance + a }] [WalletEvent.new y.id t y.currency (some a) m s.now]
  /-- A withdrawal or the debit leg on the stored row `y`. -/
  | withdraw (y : Wallet M) (a : M) (m : EventMeta) : s.store.wallets y.id = some y → 0 < a → y.status = .ACTIVE →
      y.withinLimit a s.now → a ≤ y.balance →
      WalletMove s [y.withdrawn a s.now] [WalletEvent.new y.id .FUNDS_WITHDRAWN y.currency (some a) m s.now]
  /-- Admin call `i`'s save of the row `x` it read. -/
  | admin (i : Nat) (op : AdminOp M) (x x' : Wallet M) : s.calls[i]? = some (.admin op x.id (.transaction (some x))) →
      op.operation x = .ok x' →
      WalletMove s [x'] [WalletEvent.new x'.id op.eventType x'.currency none .admin s.now]

omit [LinearOrderedCommRing M] in
/-- Wallet rows of one id, the last one `y`: the row of `y.id` is `y`, every other
    row is as it was. -/
theorem Store.wallets_commit {s : Store M} {ws : List (Write M)} {pre : List (Wallet M)} {y : Wallet M}
    (hws : ws.filterMap Write.wallet? = pre ++ [y]) (hpre : ∀ x ∈ pre, x.id = y.id) (u : WalletId) :
    (s.commit ws).wallets u = if u = y.id then some y else s.wallets u := by
  have hfold : ∀ (l : List (Wallet M)) f, (∀ x ∈ l, x.id = y.id) → u ≠ y.id →
      l.foldl (fun f x => upd f x.id (some x)) f u = f u := by
    intro l
    induction l with
    | nil => intro _ _ _; rfl
    | cons x l ih =>
      intro f hl hu
      rw [List.foldl_cons, ih _ (fun z hz => hl z (by simp [hz])) hu, upd_ne _ _ (hl x (by simp) ▸ hu)]
  simp only [Store.commit_wallets, hws, List.foldl_append, List.foldl_cons, List.foldl_nil]
  split
  · rename_i e; subst e; simp
  · rw [upd_ne _ _ ‹_›, hfold pre _ hpre ‹_›]

omit [LinearOrderedCommRing M] in
/-- A row a commit leaves is a row the store held or one the transaction wrote. -/
theorem Store.mem_wallets_commit {s : Store M} {ws : List (Write M)} {v : WalletId} {y : Wallet M}
    (h : (s.commit ws).wallets v = some y) : s.wallets v = some y ∨ y ∈ ws.filterMap Write.wallet? := by
  suffices ∀ (l : List (Wallet M)) (f : WalletId → Option (Wallet M)),
      l.foldl (fun f x => upd f x.id (some x)) f v = some y → f v = some y ∨ y ∈ l from
    this _ _ (by rwa [Store.commit_wallets] at h)
  intro l
  induction l with
  | nil => exact fun _ h => .inl h
  | cons x l ih =>
    intro f h
    simp only [List.foldl_cons] at h
    rcases ih _ h with h | h
    · by_cases hv : v = x.id
      · subst hv
        rw [upd_same] at h
        exact .inr (Option.some.inj h ▸ List.mem_cons_self _ _)
      · exact .inl (by rwa [upd_ne _ _ hv] at h)
    · exact .inr (List.mem_cons_of_mem _ h)

theorem getOrCreate_rows (s : Store M) {v : WalletId} (hv : s.wallets v = none) (c : String) (now : Nat) :
    (getOrCreate s v c now).2.filterMap Write.wallet? = [Wallet.new v c] ∧
      (getOrCreate s v c now).2.filterMap Write.event? = createdEvents s v c now := by
  rw [getOrCreate_none hv, createdEvents]
  split <;> simp [Write.wallet?, Write.event?]

/-- Every transaction a call can commit writes wallet and journal rows of one of the
    shapes of `WalletMove`. -/
theorem Commits.move {s : Sys M} {ws : List (Write M)} (hw : s.Wf) (h : Commits s ws) :
    WalletMove s (ws.filterMap Write.wallet?) (ws.filterMap Write.event?) := by
  have quiet : ∀ {ws : List (Write M)}, ws.filterMap Write.wallet? = [] → ws.filterMap Write.event? = [] →
      WalletMove s (ws.filterMap Write.wallet?) (ws.filterMap Write.event?) := fun h1 h2 => h1 ▸ h2 ▸ .none
  cases h with
  | funds i f w a r resp hc hb =>
    obtain ⟨x, created, x', hx, hop, -, rfl⟩ := idempotentTx_ok hb
    obtain ⟨ha, -⟩ := Funds.operation_ok hop
    have hwhere : s.store.wallets w = some x ∧ created = [] ∨ s.store.wallets w = none ∧ x = Wallet.new w "USD" ∧
        created.filterMap Write.wallet? = [Wallet.new w "USD"] ∧
        created.filterMap Write.event? = createdEvents s.store w "USD" s.now := by
      rcases hx with hx | hx
      · cases hy : s.store.wallets w with
        | some y => rw [getOrCreate_fst hy] at hx; cases hx; exact .inl ⟨rfl, rfl⟩
        | none =>
          have h12 := getOrCreate_rows s.store hy "USD" s.now
          rw [hx] at h12
          rw [getOrCreate_none hy] at hx
          exact .inr ⟨rfl, (Prod.mk.inj hx).1.symm, h12⟩
      · exact .inl hx
    simp only [List.filterMap_append, saveWithEvent_wallets, saveWithEvent_events, idem_wallets, idem_events,
      List.filterMap_cons, List.filterMap_nil, Write.wallet?, Write.event?, List.append_nil]
    rcases hwhere with ⟨hy, rfl⟩ | ⟨hy, rfl, h1, h2⟩
    · have hy' : s.store.wallets x.id = some x := hw.store.wallet_id _ _ hy ▸ hy
      cases f
      · obtain ⟨-, hact, rfl⟩ := Wallet.deposit_ok.mp hop
        exact WalletMove.credit x a _ _ hy' ha hact (.inl rfl)
      · obtain ⟨-, hact, hlim, hle, rfl⟩ := Wallet.withdraw_ok.mp hop
        exact WalletMove.withdraw x a _ hy' ha hact hlim hle
    · rw [h1, h2]
      cases f
      · obtain ⟨-, -, rfl⟩ := Wallet.deposit_ok.mp hop
        rw [show (Wallet.new w "USD" : Wallet M).balance + a = a from zero_add a]
        exact WalletMove.createDeposit w a _ hy ha
      · obtain ⟨-, -, -, hle, -⟩ := Wallet.withdraw_ok.mp hop
        exact absurd (ha.trans_le hle) (lt_irrefl 0)
  | admin i op w read hc hb =>
    obtain ⟨x, x', rfl, hop, rfl⟩ := stateChangeTx_ok hb
    have hxid : x.id = w := hw.calls _ (List.getElem?_mem hc) x rfl
    subst hxid
    simpa [Write.wallet?, Write.event?] using WalletMove.admin i op x x' hc hop
  | provision i fr t a r cur =>
    cases hy : s.store.wallets t with
    | some y => exact quiet (by simp [getOrCreate_fst hy]) (by simp [getOrCreate_fst hy])
    | none =>
      obtain ⟨h1, h2⟩ := getOrCreate_rows s.store hy cur s.now
      rw [h1, h2]
      exact .create t cur hy
  | createSaga => exact quiet rfl rfl
  | debit i fr t a r g hc hb =>
    obtain ⟨x, y, y', -, -, hy, hop, rfl⟩ := debitFromSender_ok hb
    obtain ⟨ha, hact, hlim, hle, rfl⟩ := Wallet.withdraw_ok.mp hop
    have hid := hw.store.wallet_id _ _ hy
    simp only [List.filterMap_cons, Write.wallet?, Write.event?, List.filterMap_nil, ← hid]
    exact .withdraw y _ _ (hid ▸ hy) ha hact hlim hle
  | credit g hb =>
    obtain ⟨x, y, y', -, hy, hop, rfl⟩ := creditToReceiver_ok hb
    obtain ⟨ha, hact, rfl⟩ := Wallet.credit_ok.mp hop
    have hid := hw.store.wallet_id _ _ hy
    simp only [List.filterMap_cons, Write.wallet?, Write.event?, List.filterMap_nil, ← hid]
    exact .credit y _ _ _ (hid ▸ hy) ha hact (.inl rfl)
  | compensate g hb =>
    obtain ⟨x, y, y', -, -, hy, hop, rfl⟩ := compensate_ok hb
    obtain ⟨ha, hact, rfl⟩ := Wallet.credit_ok.mp hop
    have hid := hw.store.wallet_id _ _ hy
    simp only [List.filterMap_cons, Write.wallet?, Write.event?, List.filterMap_nil, ← hid]
    exact .credit y _ _ _ (hid ▸ hy) ha hact (.inr rfl)
  | saveSaga => exact quiet rfl rfl
  | saveKey => exact quiet rfl rfl
  | markAsPublished => exact quiet rfl rfl

end EventWallet
