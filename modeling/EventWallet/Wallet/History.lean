/-
  EventWallet.Wallet.History — `WalletService.getHistory` and
  `WalletRepository.getEventHistory`:
  `find({ where: { walletId }, order: { createdAt: 'DESC' }, take: limit, skip: offset })`.

  The journal is kept in id order (`Store.events`); a row's id is its position. The
  query orders by `createdAt` alone, the start of the transaction that wrote the row:
  a deposit that creates its wallet writes WALLET_CREATED and FUNDS_DEPOSITED at one
  instant. SQL fixes no order among rows of one instant, and two queries may order them
  differently: each query is given the order it takes among ties (`tieRank`, a row of
  lower rank first). Reading a history page by page is `historyPages`.

  As built:
  - `history_pages_misorder_ties`: after a deposit that creates its wallet, pages of one
    row return WALLET_CREATED before FUNDS_DEPOSITED when both queries order ties by id,
    and WALLET_CREATED twice when the second orders them the other way.
-/

import Mathlib.Data.List.Sort
import EventWallet.Service.Run

namespace EventWallet

variable {M : Type}

/-- The rows of the wallet's journal, each with its id. -/
def walletRows (events : List (WalletEvent M)) (walletId : WalletId) : List (Nat × WalletEvent M) :=
  events.enum.filter fun r => r.2.walletId = walletId

/-- `order: { createdAt: 'DESC' }`, ties in the query's own order. -/
def historyOrder (tieRank : Nat → Nat) (a b : Nat × WalletEvent M) : Prop :=
  b.2.createdAt < a.2.createdAt ∨ a.2.createdAt = b.2.createdAt ∧ tieRank a.1 ≤ tieRank b.1

instance (tieRank : Nat → Nat) : DecidableRel (historyOrder (M := M) tieRank) := fun _ _ =>
  inferInstanceAs (Decidable (_ ∨ _))

/-- `getEventHistory(walletId, limit, offset)`, its rows' ids. -/
def getEventHistory (events : List (WalletEvent M)) (walletId : WalletId) (limit offset : Nat) (tieRank : Nat → Nat) :
    List Nat :=
  (((walletRows events walletId).insertionSort (historyOrder tieRank)).drop offset |>.take limit).map (·.1)

/-- `getHistory(walletId, limit, offset)` called for offsets 0, `limit`, `2·limit`, …, one
    query per tie order given, the pages concatenated. -/
def historyPages (events : List (WalletEvent M)) (walletId : WalletId) (limit : Nat) (tieRanks : List (Nat → Nat)) :
    List Nat :=
  tieRanks.enum.flatMap fun (k, tieRank) => getEventHistory events walletId limit (k * limit) tieRank

/-- A deposit of 10 that creates wallet 0, at instant 5. -/
def depositToNewWallet : List (Ev ℤ) := .deposit 0 10 none :: List.replicate 4 (.step 0 .ok)

/-- As built: the journal holds WALLET_CREATED (id 0) and FUNDS_DEPOSITED (id 1) of one
    instant; two pages of one row read ids 0 then 1, not the latest first, or id 0
    twice. -/
theorem history_pages_misorder_ties :
    (let s := (run ⟨60000⟩ (Sys.init Store.empty 5) depositToNewWallet).store
    s.events.map (fun e => (e.eventType, e.createdAt)) = [(.WALLET_CREATED, 5), (.FUNDS_DEPOSITED, 5)] ∧
      historyPages s.events 0 1 [id, id] = [0, 1] ∧ historyPages s.events 0 1 [id, (1 - ·)] = [0, 0]) := by
  decide

end EventWallet
