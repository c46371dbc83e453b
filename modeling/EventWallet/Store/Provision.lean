/-
  EventWallet.Store.Provision — concurrent `WalletRepository.getOrCreate(id, …)` calls
  for one id, statement by statement, under READ COMMITTED.

  `Store.getOrCreate` runs a whole transaction as one step. Here every transaction that
  calls `getOrCreate` for the id (a deposit's `executeIdempotentTransaction` with
  `autoCreateWallet`, `executeTransfer`'s provisioning of its destination) runs its
  statements one at a time, interleaved with the others': `findOne` with
  `pessimistic_write`, `INSERT … ON CONFLICT ("id") DO NOTHING`, the second `findOne`,
  `count(WalletEvent)` and, when the count is 0, `save` of WALLET_CREATED; then the
  enclosing transaction's own statements (a deposit's `saveWithEvent`) and its commit,
  or its rollback, which a throw anywhere brings about.

  PostgreSQL's rules, as these statements meet them: a statement reads the rows
  committed when it starts and its transaction's own; a row another transaction
  inserted and has not committed is invisible to it. `FOR UPDATE` waits for the holder
  of the row's lock. An `INSERT` whose key has a committed row does nothing; one whose
  key another open transaction inserted waits for that transaction to end. A statement
  that must wait does not move; the schedule runs it again later.

  Proved, over every schedule of any number of such transactions, from no wallet:
  - `getOrCreate_provisions_at_most_once`: at most one row of the id is committed, and
    as many WALLET_CREATED events of it as rows; once any of the transactions has
    committed, exactly one of each; while none has, neither a row nor an event, since a
    committed row's inserter has committed (`RowsCommitted`).

  As built:
  - `racing_rollbacks_commit_no_wallet`: two deposits race for a new wallet and both
    enclosing transactions roll back: no row and no WALLET_CREATED is committed.
-/

import EventWallet.Store

namespace EventWallet

/-- The statement a transaction runs next. -/
inductive GetOrCreatePc where
  /-- `findOne(Wallet, { where: { id }, lock: { mode: 'pessimistic_write' } })`. -/
  | findOne
  /-- `INSERT … ON CONFLICT ("id") DO NOTHING`. -/
  | insert
  /-- The second `findOne` with `pessimistic_write`. -/
  | findAgain
  /-- `count(WalletEvent, { where: { walletId: id } })`. -/
  | count
  /-- `save(WalletEvent, WALLET_CREATED)`. -/
  | saveCreated
  /-- `getOrCreate` returned; the enclosing transaction goes on. -/
  | returned
  | committed
  | rolledBack
  deriving DecidableEq, Repr

/-- A transaction calling `getOrCreate(id, …)`, with what it wrote and has not committed. -/
structure ProvTx where
  pc : GetOrCreatePc
  /-- Its `INSERT` wrote the row. -/
  inserted : Bool
  /-- The events of the id it saved. -/
  written : List WalletEventType
  deriving DecidableEq, Repr

/-- The committed rows of the id and the transactions calling `getOrCreate`. -/
structure ProvDb where
  /-- The `wallets` rows with the id, each by the transaction that inserted it. -/
  rows : List Nat
  /-- The `wallet_events` of the id, in commit order. -/
  events : List WalletEventType
  /-- The holder of the row's `FOR UPDATE` lock. -/
  locker : Option Nat
  txs : List ProvTx
  deriving DecidableEq, Repr

/-- What moves next. -/
inductive ProvEv where
  /-- Transaction `i` runs its next statement of `getOrCreate`, unless it must wait. -/
  | step (i : Nat)
  /-- A deposit's `saveWithEvent`: FUNDS_DEPOSITED. -/
  | saveWithEvent (i : Nat)
  | commit (i : Nat)
  /-- A throw anywhere in the enclosing transaction. -/
  | rollback (i : Nat)
  deriving DecidableEq, Repr

namespace ProvDb

variable (db : ProvDb)

/-- No wallet, `n` transactions about to call `getOrCreate`. -/
def init (n : Nat) : ProvDb := ⟨[], [], none, List.replicate n ⟨.findOne, false, []⟩⟩

def setTx (i : Nat) (t : ProvTx) : ProvDb := { db with txs := db.txs.set i t }

/-- Whether transaction `i` may take the row's `FOR UPDATE` lock. -/
def lockFree (i : Nat) : Bool := db.locker.all (· == i)

/-- The lock once transaction `i` has ended. -/
def unlock (i : Nat) : Option Nat := if db.locker = some i then none else db.locker

def rollbackTx (i : Nat) (t : ProvTx) : ProvDb :=
  { db.setTx i { t with pc := .rolledBack, inserted := false, written := [] } with locker := db.unlock i }

def commitTx (i : Nat) (t : ProvTx) : ProvDb :=
  { db.setTx i { t with pc := .committed, inserted := false, written := [] } with
    rows := db.rows ++ (if t.inserted then [i] else []), events := db.events ++ t.written, locker := db.unlock i }

/-- The next statement of `getOrCreate` in transaction `i` (`t`). -/
def stepTx (i : Nat) (t : ProvTx) : ProvDb :=
  match t.pc with
  | .findOne =>
    if db.rows = [] then db.setTx i { t with pc := .insert }
    else if db.lockFree i then { db.setTx i { t with pc := .returned } with locker := some i } else db
  | .insert =>
    if db.rows ≠ [] then db.setTx i { t with pc := .findAgain }
    else if db.txs.any (·.inserted) then db
    else db.setTx i { t with pc := .findAgain, inserted := true }
  | .findAgain =>
    -- `Failed to retrieve or create wallet with ID`
    if db.rows = [] ∧ t.inserted = false then db.rollbackTx i t
    else if db.lockFree i then { db.setTx i { t with pc := .count } with locker := some i } else db
  | .count =>
    if db.events.length + t.written.length = 0 then db.setTx i { t with pc := .saveCreated }
    else db.setTx i { t with pc := .returned }
  | .saveCreated => db.setTx i { t with pc := .returned, written := t.written ++ [.WALLET_CREATED] }
  | .returned | .committed | .rolledBack => db

def step : ProvEv → ProvDb
  | .step i =>
    match db.txs[i]? with
    | some t => db.stepTx i t
    | none => db
  | .saveWithEvent i =>
    match db.txs[i]? with
    | some t => if t.pc = .returned then db.setTx i { t with written := t.written ++ [.FUNDS_DEPOSITED] } else db
    | none => db
  | .commit i =>
    match db.txs[i]? with
    | some t => if t.pc = .returned then db.commitTx i t else db
    | none => db
  | .rollback i =>
    match db.txs[i]? with
    | some t => if t.pc = .committed ∨ t.pc = .rolledBack then db else db.rollbackTx i t
    | none => db

end ProvDb

def runProv (db : ProvDb) (evs : List ProvEv) : ProvDb := evs.foldl ProvDb.step db

/-! ## The invariant -/

/-- What a transaction has written by the statement it stands at. -/
def ProvTx.Ok (rows : List Nat) (t : ProvTx) : Prop :=
  match t.pc with
  | .findOne | .insert | .committed | .rolledBack => t.inserted = false ∧ t.written = []
  | .findAgain => t.written = []
  | .count => t.written = [] ∧ (t.inserted = true ∨ rows ≠ [])
  | .saveCreated => t.inserted = true ∧ t.written = []
  | .returned => t.written.count .WALLET_CREATED = (if t.inserted then 1 else 0) ∧ (t.inserted = true ∨ rows ≠ [])

theorem ProvTx.Ok.append {rows : List Nat} {t : ProvTx} (h : t.Ok rows) (more : List Nat) : t.Ok (rows ++ more) := by
  have grow : (t.inserted = true ∨ rows ≠ []) → t.inserted = true ∨ rows ++ more ≠ [] :=
    Or.imp_right fun hr he => hr (List.append_eq_nil.mp he).1
  unfold ProvTx.Ok at *
  cases hpc : t.pc <;> simp only [hpc] at h ⊢ <;> first | exact h | exact ⟨h.1, grow h.2⟩

namespace ProvDb

/-- What every reachable state keeps. -/
structure Inv (db : ProvDb) : Prop where
  rows_le : db.rows.length ≤ 1
  created : db.events.count .WALLET_CREATED = db.rows.length
  events_nil : db.rows = [] → db.events = []
  /-- An uncommitted row exists only while no row is committed. -/
  inserted_rows : ∀ (i : Nat) (t : ProvTx), db.txs[i]? = some t → t.inserted = true → db.rows = []
  /-- At most one open transaction holds an uncommitted row. -/
  uniq : ∀ (i j : Nat) (t u : ProvTx), db.txs[i]? = some t → db.txs[j]? = some u → t.inserted = true →
    u.inserted = true → i = j
  txs : ∀ (i : Nat) (t : ProvTx), db.txs[i]? = some t → t.Ok db.rows
  committed : ∀ (i : Nat) (t : ProvTx), db.txs[i]? = some t → t.pc = .committed → db.rows ≠ []

theorem getElem?_init {n j : Nat} {u : ProvTx} (h : (init n).txs[j]? = some u) : u = ⟨.findOne, false, []⟩ :=
  List.eq_of_mem_replicate (List.getElem?_mem h)

theorem Inv.init (n : Nat) : (init n).Inv where
  rows_le := Nat.zero_le 1
  created := rfl
  events_nil _ := rfl
  inserted_rows _ _ hu hi := by cases getElem?_init hu; cases hi
  uniq _ _ _ _ hu _ hi _ := by cases getElem?_init hu; cases hi
  txs _ _ hu := by cases getElem?_init hu; exact ⟨rfl, rfl⟩
  committed _ _ hu hc := by cases getElem?_init hu; cases hc

variable {db : ProvDb} {i : Nat} {t : ProvTx}

theorem Inv.locker (h : db.Inv) (l : Option Nat) : { db with locker := l }.Inv :=
  ⟨h.rows_le, h.created, h.events_nil, h.inserted_rows, h.uniq, h.txs, h.committed⟩

theorem getElem?_setTx (ht : db.txs[i]? = some t) (t' : ProvTx) (j : Nat) :
    (db.setTx i t').txs[j]? = if j = i then some t' else db.txs[j]? := by
  by_cases hj : j = i
  · subst hj; simp [setTx, (List.getElem?_eq_some_iff.mp ht).1]
  · simp [setTx, List.getElem?_set, Ne.symm hj, hj]

/-- Transaction `i` moves on, the committed rows unchanged: it keeps the invariant when
    it has written what its new statement asks, and holds an uncommitted row only when
    no other transaction and no committed row is there. -/
theorem Inv.setTx (h : db.Inv) (ht : db.txs[i]? = some t) {s : ProvTx} (hok : s.Ok db.rows)
    (hins : s.inserted = true → db.rows = [] ∧ ∀ (k : Nat) (u : ProvTx), db.txs[k]? = some u → u.inserted = true → k = i)
    (hc : s.pc = .committed → db.rows ≠ []) : (db.setTx i s).Inv := by
  have hget := getElem?_setTx ht s
  refine ⟨h.rows_le, h.created, h.events_nil, fun j u hu hi => ?_, fun j k u v hu hv hiu hiv => ?_,
    fun j u hu => ?_, fun j u hu hpc => ?_⟩
  · rw [hget] at hu
    split_ifs at hu
    · cases hu; exact (hins hi).1
    · exact h.inserted_rows j u hu hi
  · rw [hget] at hu hv
    split_ifs at hu hv with hj hk
    · exact hj.trans hk.symm
    · cases hu; exact absurd ((hins hiu).2 k v hv hiv) hk
    · cases hv; exact absurd ((hins hiv).2 j u hu hiu) hj
    · exact h.uniq j k u v hu hv hiu hiv
  · rw [hget] at hu
    split_ifs at hu
    · cases hu; exact hok
    · exact h.txs j u hu
  · rw [hget] at hu
    split_ifs at hu
    · cases hu; exact hc hpc
    · exact h.committed j u hu hpc

/-- A transaction that keeps its uncommitted row, or its lack of one, meets `Inv.setTx`'s
    condition. -/
theorem Inv.keep (h : db.Inv) (ht : db.txs[i]? = some t) {s : ProvTx} (hi : s.inserted = t.inserted) :
    s.inserted = true → db.rows = [] ∧ ∀ (k : Nat) (u : ProvTx), db.txs[k]? = some u → u.inserted = true → k = i :=
  fun hi' => ⟨h.inserted_rows i t ht (hi ▸ hi'), fun k u hu hiu => h.uniq k i u t hu ht hiu (hi ▸ hi')⟩

theorem Inv.rollbackTx (h : db.Inv) (ht : db.txs[i]? = some t) : (db.rollbackTx i t).Inv :=
  (h.setTx ht (s := { t with pc := .rolledBack, inserted := false, written := [] }) ⟨rfl, rfl⟩
    (fun hi => nomatch hi) (fun hc => nomatch hc)).locker _

/-- A commit adds the row if the transaction inserted it, and its events: WALLET_CREATED
    exactly then. -/
theorem Inv.commitTx (h : db.Inv) (ht : db.txs[i]? = some t) (hpc : t.pc = .returned) : (db.commitTx i t).Inv := by
  have hok := h.txs i t ht
  simp only [ProvTx.Ok, hpc] at hok
  obtain ⟨hcount, hrow⟩ := hok
  have hrows : (db.commitTx i t).rows = db.rows ++ (if t.inserted then [i] else []) := rfl
  have hget : ∀ j, (db.commitTx i t).txs[j]? = if j = i then some ⟨.committed, false, []⟩ else db.txs[j]? :=
    getElem?_setTx ht _
  -- the rows after the commit: one, or those before
  have hnew : db.rows ++ (if t.inserted then [i] else []) ≠ [] := by
    rcases hrow with hi | hr
    · simp [hi]
    · simp [hr]
  refine ⟨?_, ?_, fun he => absurd he hnew, fun j u hu hi => ?_, fun j k u v hu hv hiu hiv => ?_,
    fun j u hu => ?_, fun _ _ _ _ => hnew⟩
  · rw [hrows]
    cases hi : t.inserted
    · simpa using h.rows_le
    · simp [h.inserted_rows i t ht hi]
  · rw [show (db.commitTx i t).events = db.events ++ t.written from rfl, hrows, List.count_append, h.created, hcount,
      List.length_append]
    split <;> rfl
  · rw [hget] at hu
    split_ifs at hu with hj
    · cases hu; cases hi
    · have hti : t.inserted = false := Bool.eq_false_iff.mpr fun hti => hj (h.uniq j i u t hu ht hi hti)
      simp [hrows, hti, h.inserted_rows j u hu hi]
  · rw [hget] at hu hv
    split_ifs at hu hv with hj hk
    · exact hj.trans hk.symm
    · cases hu; cases hiu
    · cases hv; cases hiv
    · exact h.uniq j k u v hu hv hiu hiv
  · rw [hget] at hu
    split_ifs at hu
    · cases hu; exact ⟨rfl, rfl⟩
    · exact hrows ▸ (h.txs j u hu).append _

/-- Every statement of `getOrCreate` keeps the invariant. -/
theorem Inv.stepTx (h : db.Inv) (ht : db.txs[i]? = some t) : (db.stepTx i t).Inv := by
  have hok := h.txs i t ht
  unfold ProvDb.stepTx
  split <;> rename_i hpc <;> simp only [ProvTx.Ok, hpc] at hok
  case h_1 =>
    split_ifs with hr hl
    · exact h.setTx ht (s := { t with pc := .insert }) hok (h.keep ht rfl) (fun hc => nomatch hc)
    · exact (h.setTx ht (s := { t with pc := .returned }) (by simp [ProvTx.Ok, hok.1, hok.2, hr]) (h.keep ht rfl)
        (fun hc => nomatch hc)).locker _
    · exact h
  case h_2 =>
    split_ifs with hr hany
    · exact h.setTx ht (s := { t with pc := .findAgain }) hok.2 (h.keep ht rfl) (fun hc => nomatch hc)
    · exact h
    · refine h.setTx ht (s := { t with pc := .findAgain, inserted := true }) hok.2
        (fun _ => ⟨not_not.mp hr, fun k u hu hiu => ?_⟩) (fun hc => nomatch hc)
      exact absurd (List.any_eq_true.mpr ⟨u, List.getElem?_mem hu, hiu⟩) hany
  case h_3 =>
    split_ifs with hr hl
    · exact h.rollbackTx ht
    · refine (h.setTx ht (s := { t with pc := .count }) ⟨hok, ?_⟩ (h.keep ht rfl) (fun hc => nomatch hc)).locker _
      cases hi : t.inserted
      · exact .inr fun he => hr ⟨he, hi⟩
      · exact .inl rfl
    · exact h
  case h_4 =>
    -- a committed row brings its WALLET_CREATED, so the count is 0 only for the inserter
    have hpos : db.rows ≠ [] → db.events ≠ [] := fun hr he => by
      have := h.created
      simp [he] at this
      exact hr (List.length_eq_zero.mp this.symm)
    split_ifs with hz
    · have hi : t.inserted = true := hok.2.resolve_right fun hr => hpos hr (List.length_eq_zero.mp (by omega))
      exact h.setTx ht (s := { t with pc := .saveCreated }) ⟨hi, hok.1⟩ (h.keep ht rfl) (fun hc => nomatch hc)
    · have hi : t.inserted = false := Bool.eq_false_iff.mpr fun hi => hz (by
        simp [h.events_nil (h.inserted_rows i t ht hi), hok.1])
      exact h.setTx ht (s := { t with pc := .returned }) ⟨by simp [hok.1, hi], hok.2⟩ (h.keep ht rfl)
        (fun hc => nomatch hc)
  case h_5 =>
    exact h.setTx ht (s := { t with pc := .returned, written := t.written ++ [.WALLET_CREATED] })
      ⟨by simp [hok.1, hok.2], .inl hok.1⟩ (h.keep ht rfl) (fun hc => nomatch hc)
  all_goals exact h

theorem Inv.step (h : db.Inv) : ∀ e : ProvEv, (db.step e).Inv
  | .step i => by
    simp only [ProvDb.step]
    split
    · exact h.stepTx ‹_›
    · exact h
  | .saveWithEvent i => by
    simp only [ProvDb.step]
    split
    · rename_i t ht
      split_ifs with hpc
      · have hok := h.txs i t ht
        simp only [ProvTx.Ok, hpc] at hok
        exact h.setTx ht (s := { t with written := t.written ++ [.FUNDS_DEPOSITED] })
          (by simpa [ProvTx.Ok, hpc] using hok) (h.keep ht rfl) (fun hc => absurd (hpc.symm.trans hc) (by decide))
      · exact h
    · exact h
  | .commit i => by
    simp only [ProvDb.step]
    split
    · split_ifs with hpc
      · exact h.commitTx ‹_› hpc
      · exact h
    · exact h
  | .rollback i => by
    simp only [ProvDb.step]
    split
    · split_ifs
      · exact h
      · exact h.rollbackTx ‹_›
    · exact h

theorem Inv.run (h : db.Inv) (evs : List ProvEv) : (runProv db evs).Inv := by
  induction evs generalizing db with
  | nil => exact h
  | cons e evs ih => exact ih (h.step e)

/-! ## A committed row has a committed inserter -/

/-- Every committed row was inserted by a transaction that has committed. -/
def RowsCommitted (db : ProvDb) : Prop := ∀ j ∈ db.rows, ∃ t, db.txs[j]? = some t ∧ t.pc = .committed

theorem RowsCommitted.init (n : Nat) : (init n).RowsCommitted := fun _ h => nomatch h

theorem RowsCommitted.locker (h : db.RowsCommitted) (l : Option Nat) : { db with locker := l }.RowsCommitted := h

/-- A transaction that has not committed moves on, the committed rows unchanged. -/
theorem RowsCommitted.setTx (h : db.RowsCommitted) (ht : db.txs[i]? = some t) (hpc : t.pc ≠ .committed)
    (s : ProvTx) : (db.setTx i s).RowsCommitted := fun j hj => by
  obtain ⟨u, hu, hc⟩ := h j hj
  have hji : j ≠ i := by rintro rfl; rw [ht] at hu; cases hu; exact hpc hc
  exact ⟨u, by rw [getElem?_setTx ht, if_neg hji]; exact hu, hc⟩

theorem RowsCommitted.rollbackTx (h : db.RowsCommitted) (ht : db.txs[i]? = some t) (hpc : t.pc ≠ .committed) :
    (db.rollbackTx i t).RowsCommitted :=
  (h.setTx ht hpc _).locker _

/-- A commit adds at most its own row, and the transaction is committed from then on. -/
theorem RowsCommitted.commitTx (h : db.RowsCommitted) (ht : db.txs[i]? = some t) (hpc : t.pc = .returned) :
    (db.commitTx i t).RowsCommitted := fun j hj => by
  have hget : ∀ j, (db.commitTx i t).txs[j]? = if j = i then some ⟨.committed, false, []⟩ else db.txs[j]? :=
    getElem?_setTx ht _
  rcases List.mem_append.mp hj with hj | hj
  · obtain ⟨u, hu, hc⟩ := h j hj
    have hji : j ≠ i := by rintro rfl; rw [ht] at hu; cases hu; rw [hpc] at hc; cases hc
    exact ⟨u, by rw [hget, if_neg hji]; exact hu, hc⟩
  · have hji : j = i := by split at hj <;> simp_all
    exact ⟨_, by rw [hget, if_pos hji], rfl⟩

theorem RowsCommitted.stepTx (h : db.RowsCommitted) (ht : db.txs[i]? = some t) : (db.stepTx i t).RowsCommitted := by
  -- each statement leaves the committed rows and moves a transaction that has not committed
  unfold ProvDb.stepTx
  split <;> rename_i hpc
  all_goals first
    | exact h
    | (have hne : t.pc ≠ .committed := by simp [hpc]
       first
        | exact h.setTx ht hne _
        | split_ifs <;> first | exact h | exact h.setTx ht hne _)

theorem RowsCommitted.step (h : db.RowsCommitted) : ∀ e : ProvEv, (db.step e).RowsCommitted
  | .step i => by
    simp only [ProvDb.step]
    split
    · exact h.stepTx ‹_›
    · exact h
  | .saveWithEvent i => by
    simp only [ProvDb.step]
    split
    · split_ifs with hpc
      · exact h.setTx ‹_› (by simp [hpc]) _
      · exact h
    · exact h
  | .commit i => by
    simp only [ProvDb.step]
    split
    · split_ifs with hpc
      · exact h.commitTx ‹_› hpc
      · exact h
    · exact h
  | .rollback i => by
    simp only [ProvDb.step]
    split
    · split_ifs with hpc
      · exact h
      · exact h.rollbackTx ‹_› fun hc => hpc (.inl hc)
    · exact h

theorem RowsCommitted.run (h : db.RowsCommitted) (evs : List ProvEv) : (runProv db evs).RowsCommitted := by
  induction evs generalizing db with
  | nil => exact h
  | cons e evs ih => exact ih (h.step e)

end ProvDb

/-- Over every schedule of any number of transactions calling `getOrCreate` for a new
    id, each committing or rolling back at any point: at most one row is committed, with
    as many WALLET_CREATED events; once one transaction has committed, exactly one of
    each. -/
theorem getOrCreate_provisions_at_most_once (n : Nat) (evs : List ProvEv) :
    (let db := runProv (ProvDb.init n) evs
    db.rows.length ≤ 1 ∧ db.events.count .WALLET_CREATED = db.rows.length ∧
      ((∃ (i : Nat) (t : ProvTx), db.txs[i]? = some t ∧ t.pc = .committed) →
        db.rows.length = 1 ∧ db.events.count .WALLET_CREATED = 1) ∧
      ((∀ (i : Nat) (t : ProvTx), db.txs[i]? = some t → t.pc ≠ .committed) → db.rows = [] ∧ db.events = [])) := by
  intro db
  have h : db.Inv := (ProvDb.Inv.init n).run evs
  have hrc : db.RowsCommitted := (ProvDb.RowsCommitted.init n).run evs
  refine ⟨h.rows_le, h.created, fun ⟨i, t, ht, hc⟩ => ?_, fun hnone => ?_⟩
  · have hpos := List.length_pos.mpr (h.committed i t ht hc)
    have hle := h.rows_le
    exact ⟨by omega, by rw [h.created]; omega⟩
  · -- a committed row would have a committed inserter
    have hr : db.rows = [] := List.eq_nil_iff_forall_not_mem.mpr fun j hj =>
      let ⟨t, ht, hc⟩ := hrc j hj
      hnone j t ht hc
    exact ⟨hr, h.events_nil hr⟩

/-- Deposits 0 and 1 to a new wallet: 0 inserts the row and saves WALLET_CREATED, 1's
    `INSERT` waits for 0; 0 saves its deposit and ends (`end0`); 1 goes on, saves its
    deposit and ends (`end1`). -/
def racingDeposits (end0 end1 : Nat → ProvEv) : List ProvEv :=
  [.step 0, .step 0, .step 0, .step 0, .step 0, .step 1, .step 1, .saveWithEvent 0, end0 0,
    .step 1, .step 1, .step 1, .step 1, .saveWithEvent 1, end1 1]

/-- When 0 commits, 1's `INSERT` does nothing and its count sees 0's events: one row,
    one WALLET_CREATED. -/
theorem racing_deposits_provision_once :
    (let db := runProv (ProvDb.init 2) (racingDeposits .commit .commit)
    db.events = [.WALLET_CREATED, .FUNDS_DEPOSITED, .FUNDS_DEPOSITED] ∧
      db.txs[1]? = some ⟨.committed, false, []⟩ ∧ db.rows.length = 1 ∧ db.events.count .WALLET_CREATED = 1) :=
  ⟨by decide, by decide, (getOrCreate_provisions_at_most_once 2 _).2.2.1 ⟨1, ⟨.committed, false, []⟩, by decide, rfl⟩⟩

/-- As built: when both enclosing transactions roll back, the schedule commits no row
    and no event. -/
theorem racing_rollbacks_commit_no_wallet :
    (let db := runProv (ProvDb.init 2) (racingDeposits .rollback .rollback)
    db.rows = [] ∧ db.events = [] ∧ db.txs.map (·.pc) = [.rolledBack, .rolledBack]) := by
  decide

end EventWallet
