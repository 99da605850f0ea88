import Armory.CombinedLedger
import Mathlib.Data.List.Forall2

/-!
What the window shows of its combined ledger: the two labels and the table. The totals loop
and `convertLedgerToTable` each compute a confirmation count, the loop without the sentinel
clamp. Below the sentinel height they still split the ledger alike. The table has one row per
pair, in the ledger's order; a confirmed entry's row shows the top block's time.
-/

namespace Armory.Table
open Armory.Types Armory.Window Armory.LoadWallets Armory.LedgerSort Armory.CombinedLedger

/-! ## The labels -/

/-- Below the sentinel height, the totals loop counts an entry as unconfirmed exactly when the
table shows fewer than 6 confirmations for it. -/
theorem unconfirmedAt_eq_displayed {latestBlockNum : Nat} (height : latestBlockNum < 0xffffffff)
    (pair : WalletID × LedgerEntry) :
    unconfirmedAt latestBlockNum pair = decide (displayedNConf latestBlockNum pair.2 < 6) := by
  unfold unconfirmedAt displayedNConf
  split_ifs with sentinel
  · simp only [decide_eq_decide]
    omega
  · rfl

theorem ledgerTotals_displayed {latestBlockNum : Nat} (height : latestBlockNum < 0xffffffff)
    (ledger : List (WalletID × LedgerEntry)) :
    ledgerTotals latestBlockNum ledger =
      (((ledger.filter fun pair => !decide (displayedNConf latestBlockNum pair.2 < 6)).map (·.2.value)).sum,
        ((ledger.filter fun pair => decide (displayedNConf latestBlockNum pair.2 < 6)).map (·.2.value)).sum) := by
  have shown : unconfirmedAt latestBlockNum = fun pair => decide (displayedNConf latestBlockNum pair.2 < 6) :=
    funext (unconfirmedAt_eq_displayed height)
  rw [ledgerTotals, foldl_addToTotals, shown, zero_add, zero_add]

/-- Below the sentinel height, the labels that `publishLedger` sets split the combined ledger by
the confirmation count the table shows. The unconfirmed label sums the entries shown with fewer
than 6 confirmations, sentinel entries included; the total label sums all the others; and the
two add up to the sum of the whole ledger. -/
theorem publishLedger_totals_partition (bdm : Bdm) (net : NetworkingFactory) (s : MainWindow)
    (height : s.latestBlockNum < 0xffffffff) :
    let after := (publishLedger bdm net s).state
    let shownUnconfirmed := fun pair : WalletID × LedgerEntry =>
      decide (displayedNConf after.latestBlockNum pair.2 < 6)
    after.lblUnconfirmed = ((after.combinedLedger.filter shownUnconfirmed).map (·.2.value)).sum ∧
      after.lblTotalFunds =
        ((after.combinedLedger.filter fun pair => !shownUnconfirmed pair).map (·.2.value)).sum ∧
      after.lblTotalFunds + after.lblUnconfirmed = (after.combinedLedger.map (·.2.value)).sum := by
  intro after shownUnconfirmed
  obtain ⟨table, published⟩ := publishLedger_state bdm net s
  have totals := ledgerTotals_displayed height (sortByEntryReverse s.combinedLedger)
  simp only [after, shownUnconfirmed, published, withSortedLedger, totals, true_and]
  rw [add_comm, ← List.sum_append, ← List.map_append]
  exact ((List.filter_append_perm _ _).map _).sum_eq

def mixedLedger : MainWindow :=
  { twoWallets with
    combinedLedger := [("A", ⟨"t", 10, 0, -5⟩), ("B", ⟨"t", 10, 0, 5⟩), ("A", ⟨"z", 0xffffffff, 0, 2⟩),
      ("B", ⟨"o", 1, 0, 7⟩)] }

theorem publishLedger_totals_partition_mixed :
    mixedLedger.latestBlockNum < 0xffffffff ∧
      let after := (publishLedger transferBdm ⟨[], []⟩ mixedLedger).state
      let shownUnconfirmed := fun pair : WalletID × LedgerEntry =>
        decide (displayedNConf after.latestBlockNum pair.2 < 6)
      after.lblUnconfirmed = ((after.combinedLedger.filter shownUnconfirmed).map (·.2.value)).sum ∧
        after.lblTotalFunds =
          ((after.combinedLedger.filter fun pair => !shownUnconfirmed pair).map (·.2.value)).sum ∧
        after.lblTotalFunds + after.lblUnconfirmed = (after.combinedLedger.map (·.2.value)).sum :=
  ⟨by decide, publishLedger_totals_partition transferBdm ⟨[], []⟩ mixedLedger (by decide)⟩

/-! ## The table -/

/-- `mapM` in `Except` returns a list exactly when every call returns its element. -/
theorem mapM_eq_ok_iff {α β ε : Type} (f : α → Except ε β) :
    ∀ (items : List α) (results : List β),
      items.mapM f = .ok results ↔ List.Forall₂ (fun item result => f item = .ok result) items results
  | [], results => by rw [List.mapM_nil]; cases results <;> simp [pure, Except.pure]
  | item :: rest, results => by
    rw [List.mapM_cons, List.forall₂_cons_left_iff]
    simp only [← mapM_eq_ok_iff f rest]
    cases f item <;> cases rest.mapM f <;> simp [bind, Except.bind, pure, Except.pure, eq_comm]

/-- What the row of a pair shows, column by column: the confirmation count, a time, the value,
the wallet's label and its comment on the transaction, whether the money is the user's, and the
wallet ID. The time is the top block's when the count is positive, and otherwise the
transaction's arrival time. -/
structure RowShows (bdm : Bdm) (net : NetworkingFactory) (s : MainWindow)
    (pair : WalletID × LedgerEntry) (row : Row) : Prop where
  nConf : row.nConf = displayedNConf s.latestBlockNum pair.2
  txtime : (if 0 < row.nConf then some bdm.topBlockTimestamp
    else net.zeroConfTxTime.lookup pair.2.txHash) = some row.txtime
  value : row.value = pair.2.value
  wallet : ∃ wlt, s.walletMap.lookup pair.1 = some wlt ∧ row.labelName = wlt.labelName ∧
    row.comment = (wlt.commentsMap.lookup pair.2.txHash).getD "" ∧
    row.isMine = (wlt.watchingOnly && decide (pair.1 ∉ s.walletOfflines))
  wltID : row.wltID = pair.1

theorem convertRow_eq_ok_iff (bdm : Bdm) (net : NetworkingFactory) (s : MainWindow)
    (pair : WalletID × LedgerEntry) (row : Row) :
    convertRow bdm net s pair = .ok row ↔ RowShows bdm net s pair row := by
  constructor
  · intro built
    unfold convertRow at built
    dsimp only at built
    split at built
    · cases built
    · rename_i wlt found
      split at built
      · cases built
      · rename_i time timed
        cases built
        exact ⟨rfl, timed, rfl, ⟨wlt, found, rfl, rfl, rfl⟩, rfl⟩
  · rintro ⟨nConf, txtime, value, ⟨wlt, found, label, comment, mine⟩, wltID⟩
    obtain ⟨n, time, v, l, c, m, w⟩ := row
    dsimp only at nConf txtime value label comment mine wltID
    subst nConf value label comment mine wltID
    simp only [convertRow, found, gt_iff_lt, txtime]

/-- `convertLedgerToTable` returns a table exactly when it can build a row for every pair, and
the table then has one row per pair, in the ledger's order, each showing what `RowShows` says. -/
theorem convertLedgerToTable_eq_ok_iff (bdm : Bdm) (net : NetworkingFactory) (s : MainWindow)
    (ledger : List (WalletID × LedgerEntry)) (table : List Row) :
    convertLedgerToTable bdm net s ledger = .ok table ↔ List.Forall₂ (RowShows bdm net s) ledger table := by
  simp only [convertLedgerToTable, mapM_eq_ok_iff, convertRow_eq_ok_iff]

/-- `mapM` in `Except` raises exactly when some call raises. -/
theorem mapM_raises_iff {α β ε : Type} (f : α → Except ε β) :
    ∀ items : List α, (∃ error, items.mapM f = .error error) ↔ ∃ item ∈ items, ∃ error, f item = .error error
  | [] => by
    rw [List.mapM_nil]
    simp [pure, Except.pure]
  | item :: rest => by
    rw [List.mapM_cons, List.exists_mem_cons_iff, ← mapM_raises_iff f rest]
    cases f item <;> cases rest.mapM f <;> simp [bind, Except.bind, pure, Except.pure]

/-- A row fails exactly for an unregistered wallet, or for an entry shown with no positive
confirmation count whose hash has no zero-confirmation time. -/
theorem convertRow_raises_iff (bdm : Bdm) (net : NetworkingFactory) (s : MainWindow)
    (pair : WalletID × LedgerEntry) :
    (∃ error, convertRow bdm net s pair = .error error) ↔
      s.walletMap.lookup pair.1 = none ∨
        (displayedNConf s.latestBlockNum pair.2 ≤ 0 ∧ net.zeroConfTxTime.lookup pair.2.txHash = none) := by
  dsimp only [convertRow]
  split
  · next found => simp [found]
  · next wlt found =>
    by_cases positive : 0 < displayedNConf s.latestBlockNum pair.2
    · simp [found, positive, not_le.mpr positive]
    · cases net.zeroConfTxTime.lookup pair.2.txHash <;> simp [found, positive, not_lt.mp positive]

theorem convertLedgerToTable_raises_iff (bdm : Bdm) (net : NetworkingFactory) (s : MainWindow)
    (ledger : List (WalletID × LedgerEntry)) :
    (∃ error, convertLedgerToTable bdm net s ledger = .error error) ↔ ∃ pair ∈ ledger,
      s.walletMap.lookup pair.1 = none ∨
        (displayedNConf s.latestBlockNum pair.2 ≤ 0 ∧ net.zeroConfTxTime.lookup pair.2.txHash = none) := by
  simp only [convertLedgerToTable, mapM_raises_iff, convertRow_raises_iff]

def tipAt10 : Bdm := { transferBdm with topBlockTimestamp := 1000 }

def tipAt11 : Bdm := { transferBdm with topBlockHeight := 11, topBlockTimestamp := 1600 }

/-- `A`'s entry of block 5 shows the top block's time, 1000 at block 10 and 1600 a block later,
though the block that holds it is the same. A sentinel entry with no arrival time gets no row:
the table raises `KeyError`. -/
theorem convertLedgerToTable_time_of_top :
    convertLedgerToTable tipAt10 ⟨[], []⟩ twoWallets [("A", ⟨"t", 5, 0, 5⟩)] =
        .ok [⟨6, 1000, 5, "a", "", false, "A"⟩] ∧
      convertLedgerToTable tipAt11 ⟨[], []⟩ { twoWallets with latestBlockNum := 11 }
          [("A", ⟨"t", 5, 0, 5⟩)] = .ok [⟨7, 1600, 5, "a", "", false, "A"⟩] ∧
      convertLedgerToTable tipAt10 ⟨[], []⟩ twoWallets [("A", ⟨"z", 0xffffffff, 0, 1⟩)] =
        .error .keyError :=
  ⟨rfl, rfl, rfl⟩

end Armory.Table
