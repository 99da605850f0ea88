import Armory.LoadWallets
import Armory.LedgerSort
import Mathlib.Algebra.BigOperators.Group.List
import Mathlib.Algebra.Ring.Int.Defs

/-!
`createCombinedLedger`, `createZeroConfLedger` and `convertLedgerToTable`: the ledger of a
subset of the wallets, merged, sorted, totalled and turned into the table the main window
shows. `createCombinedLedger` is three steps: resolve the wallet IDs, collect each wallet's
pairs (`combineWallet`, once per ID), then sort and publish (`publishLedger`).
-/

namespace Armory.CombinedLedger
open Armory.Types Armory.Window Armory.LoadWallets Armory.LedgerSort

/-- `createZeroConfLedger(wlt)`: the tracked zero-confirmation transactions, serialized in the
order of `zcMap.keys()`, handed to the wallet's engine side. Reading each one's time raises when
`zeroConfTxTime` lacks its hash. -/
def createZeroConfLedger (bdm : Bdm) (net : NetworkingFactory) (wltID : WalletID) :
    Except PyError (List LedgerEntry) :=
  if net.zeroConfTx.all fun zc => (net.zeroConfTxTime.lookup zc.1).isSome then
    .ok (bdm.getLedgerEntriesForZeroConfTxList wltID (net.zeroConfTx.map Prod.snd))
  else .error .keyError

/-- Python 2's `filter(keep, ids)`, raising at the first `keep` that raises. -/
def filterIDs (keep : WalletID → Except PyError Bool) : List WalletID → Except PyError (List WalletID)
  | [] => .ok []
  | wid :: rest =>
    match keep wid, filterIDs keep rest with
    | .ok kept, .ok others => .ok (if kept then wid :: others else others)
    | .error error, _ => .error error
    | .ok _, .error error => .error error

section Aggregation
variable (determineWalletType : Wallet → WalletType)

/-- `filt(wid, whichWay)`. `determineWalletType(wlt, self)[0]` is helper code not in src and is
taken as a function of the wallet: what else it reads does not change after loading. -/
def filt (s : MainWindow) (wid : WalletID) (whichWay : Bool) : Except PyError Bool :=
  match s.walletMap.lookup wid with
  | none => .error .keyError
  | some wlt =>
    let wtype := determineWalletType wlt
    .ok (if whichWay then wtype ≠ .watchOnly else wtype = .watchOnly)

/-- The IDs `createCombinedLedger()` takes without a list, by the checked radio button. -/
def selectedIDs (s : MainWindow) : Except PyError (List WalletID) :=
  match s.checked with
  | .allWallets => .ok s.walletIDList
  | .myWallets => filterIDs (fun x => filt determineWalletType s x true) s.walletIDList
  | .watchOnly => filterIDs (fun x => filt determineWalletType s x false) s.walletIDList

end Aggregation

/-- One pass of the wallet loop: `walletLedgers[index]` re-read from the engine, then its pairs
appended to `combinedLedger`. -/
def combineWallet (bdm : Bdm) (s : MainWindow) (wltID : WalletID) : Outcome MainWindow :=
  match s.walletMap.lookup wltID, s.walletIndices.lookup wltID with
  | some _, some index =>
    if index < s.walletLedgers.length then
      ⟨{ s with
        walletLedgers := s.walletLedgers.set index (bdm.getTxLedger wltID)
        combinedLedger := s.combinedLedger ++ (bdm.getTxLedger wltID).map (wltID, ·) }, none⟩
    else ⟨s, some .indexError⟩
  | _, _ => ⟨s, some .keyError⟩

/-- One step of the totals loop: an entry with fewer than 6 confirmations counts as unconfirmed. -/
def addToTotals (latestBlockNum : Nat) (totals : Int × Int) (pair : WalletID × LedgerEntry) :
    Int × Int :=
  if (latestBlockNum : Int) - pair.2.blockNum + 1 < 6 then (totals.1, totals.2 + pair.2.value)
  else (totals.1 + pair.2.value, totals.2)

/-- `(totFund, unconfFund)` of a ledger. -/
def ledgerTotals (latestBlockNum : Nat) (ledger : List (WalletID × LedgerEntry)) : Int × Int :=
  ledger.foldl (addToTotals latestBlockNum) (0, 0)

/-- Lines 490-492: the confirmation count the table shows for an entry, `0` for the
unconfirmed sentinel. -/
def displayedNConf (latestBlockNum : Nat) (le : LedgerEntry) : Int :=
  if le.blockNum ≥ 0xffffffff then 0 else latestBlockNum - le.blockNum + 1

/-- The row `convertLedgerToTable` builds for one pair. `walletMap[wltID]` and, for an entry
with no positive confirmation count, `zeroConfTxTime[le.getTxHash()]` raise when absent. -/
def convertRow (bdm : Bdm) (net : NetworkingFactory) (s : MainWindow)
    (pair : WalletID × LedgerEntry) : Except PyError Row :=
  let wltID := pair.1
  let le := pair.2
  let nConf := displayedNConf s.latestBlockNum le
  match s.walletMap.lookup wltID with
  | none => .error .keyError
  | some wlt =>
    match (if nConf > 0 then some bdm.topBlockTimestamp else net.zeroConfTxTime.lookup le.txHash) with
    | none => .error .keyError
    | some txtime =>
      .ok { nConf, txtime
            value := le.value
            labelName := wlt.labelName
            comment := (wlt.commentsMap.lookup le.txHash).getD ""
            isMine := wlt.watchingOnly && decide (wltID ∉ s.walletOfflines)
            wltID }

def convertLedgerToTable (bdm : Bdm) (net : NetworkingFactory) (s : MainWindow)
    (ledger : List (WalletID × LedgerEntry)) : Except PyError (List Row) :=
  ledger.mapM (convertRow bdm net s)

/-- Lines 452-472: the sort, `ledgerSize` and the two labels, everything `publishLedger` sets
but the table. -/
def withSortedLedger (s : MainWindow) : MainWindow :=
  let combinedLedger := sortByEntryReverse s.combinedLedger
  let totals := ledgerTotals s.latestBlockNum combinedLedger
  { s with
    combinedLedger
    ledgerSize := combinedLedger.length
    lblTotalFunds := totals.1
    lblUnconfirmed := totals.2 }

/-- Lines 452-477: `withSortedLedger`, then the table. The `try` block catches only
`AttributeError`, so a `KeyError` from the table escapes and leaves the old table. -/
def publishLedger (bdm : Bdm) (net : NetworkingFactory) (s : MainWindow) : Outcome MainWindow :=
  let s := withSortedLedger s
  match convertLedgerToTable bdm net s s.combinedLedger with
  | .ok ledgerTable => ⟨{ s with ledgerTable }, none⟩
  | .error error => ⟨s, some error⟩

set_option linter.unusedVariables false in
/-- `createCombinedLedger(wltIDList, withZeroConf)`. The zero-confirmation lines are commented
out in the source, so `withZeroConf` is not read. -/
def createCombinedLedger (determineWalletType : Wallet → WalletType) (bdm : Bdm)
    (net : NetworkingFactory) (wltIDList : Option (List WalletID)) (withZeroConf : Bool)
    (s : MainWindow) : Outcome MainWindow :=
  match wltIDList.elim (selectedIDs determineWalletType s) .ok with
  | .error error => ⟨s, some error⟩
  | .ok ids => (forEach (combineWallet bdm) ids { s with combinedLedger := [] }).andThen (publishLedger bdm net)

/-! ## Collecting and publishing -/

/-- Each wallet's confirmed ledger tagged with its ID, in the order of `ids`. -/
def taggedLedgers (bdm : Bdm) (ids : List WalletID) : List (WalletID × LedgerEntry) :=
  ids.flatMap fun wltID => (bdm.getTxLedger wltID).map (wltID, ·)

theorem publishLedger_state (bdm : Bdm) (net : NetworkingFactory) (s : MainWindow) :
    ∃ table, (publishLedger bdm net s).state = { withSortedLedger s with ledgerTable := table } := by
  dsimp only [publishLedger]
  split
  · exact ⟨_, rfl⟩
  · exact ⟨_, rfl⟩

theorem combineWallet_registered (bdm : Bdm) {s : MainWindow} (registry : Registry s)
    (sized : s.walletLedgers.length = s.walletIDList.length) {wltID : WalletID}
    (member : wltID ∈ s.walletIDList) :
    combineWallet bdm s wltID = ⟨{ s with
      walletLedgers := s.walletLedgers.set (s.walletIDList.indexOf wltID) (bdm.getTxLedger wltID)
      combinedLedger := s.combinedLedger ++ (bdm.getTxLedger wltID).map (wltID, ·) }, none⟩ := by
  obtain ⟨wlt, found⟩ := Option.isSome_iff_exists.mp
    ((lookup_isSome_iff s.walletMap wltID).mpr (registry.mapKeys ▸ member))
  have bound : s.walletIDList.indexOf wltID < s.walletLedgers.length :=
    sized ▸ List.indexOf_lt_length.mpr member
  simp only [combineWallet, found, registry.indices wltID member, if_pos bound]

/-- The wallet loop, run on registered IDs in a synced registry, appends their tagged ledgers and
only overwrites slots of `walletLedgers`. -/
theorem combineWallets_registered (bdm : Bdm) (ids : List WalletID) :
    ∀ s : MainWindow, Registry s → s.walletLedgers.length = s.walletIDList.length →
      (∀ id ∈ ids, id ∈ s.walletIDList) →
      ∃ ledgers : List (List LedgerEntry), ledgers.length = s.walletLedgers.length ∧
        forEach (combineWallet bdm) ids s = ⟨{ s with
          walletLedgers := ledgers
          combinedLedger := s.combinedLedger ++ taggedLedgers bdm ids }, none⟩ := by
  induction ids with
  | nil => exact fun s _ _ _ => ⟨s.walletLedgers, rfl, by simp [taggedLedgers]⟩
  | cons wltID rest ih =>
    intro s registry sized registeredIDs
    obtain ⟨ledgers, length, run⟩ := ih { s with
        walletLedgers := s.walletLedgers.set (s.walletIDList.indexOf wltID) (bdm.getTxLedger wltID)
        combinedLedger := s.combinedLedger ++ (bdm.getTxLedger wltID).map (wltID, ·) }
      (registry.congr ⟨rfl, rfl, rfl, rfl⟩) (by simpa using sized) fun id member => registeredIDs id (List.mem_cons_of_mem _ member)
    refine ⟨ledgers, by simpa using length, ?_⟩
    rw [forEach_cons, combineWallet_registered bdm registry sized (registeredIDs _ (List.mem_cons_self _ _)),
      Outcome.andThen_ok, run]
    simp [taggedLedgers]

/-- The wallet loop, run on registered IDs in a synced registry, writes each listed wallet's
ledger into that wallet's slot and leaves every other slot as it was. -/
theorem combineWallets_slots (bdm : Bdm) (ids : List WalletID) :
    ∀ s : MainWindow, Registry s → s.walletLedgers.length = s.walletIDList.length →
      (∀ id ∈ ids, id ∈ s.walletIDList) → ∀ id ∈ s.walletIDList,
        (forEach (combineWallet bdm) ids s).state.walletLedgers[s.walletIDList.indexOf id]? =
          if id ∈ ids then some (bdm.getTxLedger id) else s.walletLedgers[s.walletIDList.indexOf id]? := by
  induction ids with
  | nil => intro s _ _ _ id _; simp
  | cons wltID rest ih =>
    intro s registry sized registeredIDs id member
    have listed := registeredIDs wltID (List.mem_cons_self _ _)
    have written := ih { s with
        walletLedgers := s.walletLedgers.set (s.walletIDList.indexOf wltID) (bdm.getTxLedger wltID)
        combinedLedger := s.combinedLedger ++ (bdm.getTxLedger wltID).map (wltID, ·) }
      (registry.congr ⟨rfl, rfl, rfl, rfl⟩) (by simpa using sized)
      (fun other later => registeredIDs other (List.mem_cons_of_mem _ later)) id member
    rw [forEach_cons, combineWallet_registered bdm registry sized listed, Outcome.andThen_ok, written]
    by_cases later : id ∈ rest
    · simp [later]
    · by_cases same : id = wltID
      · subst same
        simp [later, List.getElem?_set_self (sized ▸ List.indexOf_lt_length.mpr member)]
      · have differ : s.walletIDList.indexOf wltID ≠ s.walletIDList.indexOf id :=
          fun slot => same ((List.indexOf_inj member listed).mp slot.symm)
        simp [later, same, List.getElem?_set_ne differ]

/-- Whether the totals loop counts a pair as unconfirmed. -/
def unconfirmedAt (latestBlockNum : Nat) (pair : WalletID × LedgerEntry) : Bool :=
  decide ((latestBlockNum : Int) - pair.2.blockNum + 1 < 6)

theorem foldl_addToTotals (latestBlockNum : Nat) (ledger : List (WalletID × LedgerEntry))
    (totals : Int × Int) :
    ledger.foldl (addToTotals latestBlockNum) totals =
      (totals.1 + ((ledger.filter fun pair => !unconfirmedAt latestBlockNum pair).map (·.2.value)).sum,
        totals.2 + ((ledger.filter (unconfirmedAt latestBlockNum)).map (·.2.value)).sum) := by
  induction ledger generalizing totals with
  | nil => simp
  | cons pair rest ih =>
    rw [List.foldl_cons, ih]
    by_cases unconfirmed : unconfirmedAt latestBlockNum pair
    · have counted : (latestBlockNum : Int) - pair.2.blockNum + 1 < 6 := of_decide_eq_true unconfirmed
      simp only [addToTotals, counted, if_true, List.filter_cons, unconfirmed, Bool.not_true,
        Bool.false_eq_true, if_false, List.map_cons, List.sum_cons, add_assoc]
    · have counted : ¬(latestBlockNum : Int) - pair.2.blockNum + 1 < 6 := fun h => unconfirmed (decide_eq_true h)
      simp only [addToTotals, counted, if_false, List.filter_cons, unconfirmed, Bool.not_false,
        if_true, List.map_cons, List.sum_cons, Bool.not_eq_true, Bool.false_eq_true, add_assoc]

theorem ledgerTotals_perm (latestBlockNum : Nat) {first second : List (WalletID × LedgerEntry)}
    (perm : first.Perm second) : ledgerTotals latestBlockNum first = ledgerTotals latestBlockNum second := by
  simp only [ledgerTotals, foldl_addToTotals, ((perm.filter _).map _).sum_eq]

theorem ledgerTotals_append (latestBlockNum : Nat) (first second : List (WalletID × LedgerEntry)) :
    ledgerTotals latestBlockNum (first ++ second) =
      ((ledgerTotals latestBlockNum first).1 + (ledgerTotals latestBlockNum second).1,
        (ledgerTotals latestBlockNum first).2 + (ledgerTotals latestBlockNum second).2) := by
  simp only [ledgerTotals, foldl_addToTotals, List.filter_append, List.map_append, List.sum_append,
    zero_add]

/-- Whether `filt` counts a registered wallet as watching-only. -/
def watchOnlyID (determineWalletType : Wallet → WalletType) (s : MainWindow) (wid : WalletID) : Bool :=
  match s.walletMap.lookup wid with
  | some wlt => determineWalletType wlt = .watchOnly
  | none => false

theorem filterIDs_ok (keep : WalletID → Except PyError Bool) (p : WalletID → Bool) :
    ∀ ids : List WalletID, (∀ id ∈ ids, keep id = .ok (p id)) → filterIDs keep ids = .ok (ids.filter p)
  | [], _ => rfl
  | wid :: rest, agree => by
    rw [filterIDs, agree wid (List.mem_cons_self _ _),
      filterIDs_ok keep p rest fun id member => agree id (List.mem_cons_of_mem _ member)]
    by_cases kept : p wid <;> simp [List.filter_cons, kept]

/-- On a registry, "My wallets" and "Watching-only" filter `walletIDList` by the watching-only
type, one keeping what the other drops. -/
theorem selectedIDs_registered (determineWalletType : Wallet → WalletType) {s : MainWindow}
    (registry : Registry s) :
    selectedIDs determineWalletType { s with checked := .myWallets } =
        .ok (s.walletIDList.filter fun id => !watchOnlyID determineWalletType s id) ∧
      selectedIDs determineWalletType { s with checked := .watchOnly } =
        .ok (s.walletIDList.filter (watchOnlyID determineWalletType s)) := by
  have typed : ∀ id ∈ s.walletIDList, ∃ wlt, s.walletMap.lookup id = some wlt := fun id member =>
    Option.isSome_iff_exists.mp ((lookup_isSome_iff s.walletMap id).mpr (registry.mapKeys ▸ member))
  constructor
  all_goals
    refine filterIDs_ok _ _ _ fun id member => ?_
    obtain ⟨wlt, found⟩ := typed id member
    simp [filt, watchOnlyID, found]

section Collected
variable (determineWalletType : Wallet → WalletType) (bdm : Bdm) (net : NetworkingFactory)
  {s : MainWindow} (registry : Registry s) (sized : s.walletLedgers.length = s.walletIDList.length)
include registry sized

/-- On registered IDs of a synced registry, `createCombinedLedger` publishes their tagged ledgers. -/
theorem createCombinedLedger_collects (wltIDList : Option (List WalletID)) {ids : List WalletID}
    (resolved : wltIDList.elim (selectedIDs determineWalletType s) .ok = .ok ids)
    (registeredIDs : ∀ id ∈ ids, id ∈ s.walletIDList) (withZeroConf : Bool) :
    ∃ ledgers : List (List LedgerEntry), ledgers.length = s.walletLedgers.length ∧
      createCombinedLedger determineWalletType bdm net wltIDList withZeroConf s =
        publishLedger bdm net { s with walletLedgers := ledgers, combinedLedger := taggedLedgers bdm ids } := by
  obtain ⟨ledgers, length, run⟩ := combineWallets_registered bdm ids { s with combinedLedger := [] }
    (registry.congr ⟨rfl, rfl, rfl, rfl⟩) sized registeredIDs
  exact ⟨ledgers, length, by simp only [createCombinedLedger, resolved, run, Outcome.andThen_ok,
    List.nil_append]⟩

/-- What every call on registered IDs leaves, whether or not the table raises: the sorted
tagged ledgers, their count, and their totals in the labels. -/
theorem createCombinedLedger_published (wltIDList : Option (List WalletID)) {ids : List WalletID}
    (resolved : wltIDList.elim (selectedIDs determineWalletType s) .ok = .ok ids)
    (registeredIDs : ∀ id ∈ ids, id ∈ s.walletIDList) (withZeroConf : Bool) :
    let after := (createCombinedLedger determineWalletType bdm net wltIDList withZeroConf s).state
    after.combinedLedger = sortByEntryReverse (taggedLedgers bdm ids) ∧
      after.ledgerSize = after.combinedLedger.length ∧
      (after.lblTotalFunds, after.lblUnconfirmed) = ledgerTotals s.latestBlockNum after.combinedLedger := by
  obtain ⟨ledgers, -, run⟩ :=
    createCombinedLedger_collects determineWalletType bdm net registry sized wltIDList resolved
      registeredIDs withZeroConf
  obtain ⟨table, published⟩ := publishLedger_state bdm net
    { s with walletLedgers := ledgers, combinedLedger := taggedLedgers bdm ids }
  simp only [run, published, withSortedLedger, and_self]

/-- A rebuild on registered IDs of a synced registry writes each listed wallet's ledger into its
slot and leaves the other slots, whether or not the table raises. -/
theorem createCombinedLedger_slots (wltIDList : Option (List WalletID)) {ids : List WalletID}
    (resolved : wltIDList.elim (selectedIDs determineWalletType s) .ok = .ok ids)
    (registeredIDs : ∀ id ∈ ids, id ∈ s.walletIDList) (withZeroConf : Bool) :
    ∀ id ∈ s.walletIDList,
      (createCombinedLedger determineWalletType bdm net wltIDList withZeroConf s).state.walletLedgers[
          s.walletIDList.indexOf id]? =
        if id ∈ ids then some (bdm.getTxLedger id) else s.walletLedgers[s.walletIDList.indexOf id]? := by
  intro id member
  have written := combineWallets_slots bdm ids { s with combinedLedger := [] }
    (registry.congr ⟨rfl, rfl, rfl, rfl⟩) sized registeredIDs id member
  obtain ⟨ledgers, -, run⟩ := combineWallets_registered bdm ids { s with combinedLedger := [] }
    (registry.congr ⟨rfl, rfl, rfl, rfl⟩) sized registeredIDs
  obtain ⟨table, published⟩ := publishLedger_state bdm net
    { s with walletLedgers := ledgers, combinedLedger := taggedLedgers bdm ids }
  rw [run] at written
  simp only [createCombinedLedger, resolved, run, Outcome.andThen_ok, List.nil_append, published,
    withSortedLedger]
  exact written

end Collected

/-! ## What a rebuild leaves -/

/-- The fields a step leaves as they were: the registry, the number of ledger slots and the
block height. A ledger rebuild keeps them whether or not it raises. -/
structure Frame (s t : MainWindow) : Prop where
  registry : SameRegistry s t
  slots : t.walletLedgers.length = s.walletLedgers.length
  latestBlockNum : t.latestBlockNum = s.latestBlockNum

theorem Frame.refl (s : MainWindow) : Frame s s := ⟨.refl s, rfl, rfl⟩

theorem Frame.trans {s t u : MainWindow} (first : Frame s t) (second : Frame t u) : Frame s u :=
  ⟨first.registry.trans second.registry, second.slots.trans first.slots,
    second.latestBlockNum.trans first.latestBlockNum⟩

/-- `t` is `s` with only what a ledger rebuild writes changed: the ledger slots, as many as
before, the combined ledger, its count, the totals and the table. -/
def Rewrites (s t : MainWindow) : Prop :=
  ∃ (ledgers : List (List LedgerEntry)) (combined : List (WalletID × LedgerEntry)) (size : Nat)
    (funds unconfirmed : Int) (table : List Row), ledgers.length = s.walletLedgers.length ∧
      t = { s with
        walletLedgers := ledgers, combinedLedger := combined, ledgerSize := size
        lblTotalFunds := funds, lblUnconfirmed := unconfirmed, ledgerTable := table }

theorem Rewrites.refl (s : MainWindow) : Rewrites s s := ⟨_, _, _, _, _, _, rfl, rfl⟩

theorem Rewrites.trans {s t u : MainWindow} (first : Rewrites s t) (second : Rewrites t u) :
    Rewrites s u := by
  obtain ⟨_, _, _, _, _, _, slots, rfl⟩ := first
  obtain ⟨ledgers, combined, size, funds, unconfirmed, table, slots', rfl⟩ := second
  exact ⟨ledgers, combined, size, funds, unconfirmed, table, slots'.trans slots, rfl⟩

theorem Rewrites.frame {s t : MainWindow} (rewrites : Rewrites s t) : Frame s t := by
  obtain ⟨_, _, _, _, _, _, slots, rfl⟩ := rewrites
  exact ⟨⟨rfl, rfl, rfl, rfl⟩, slots, rfl⟩

theorem Rewrites.balances {s t : MainWindow} (rewrites : Rewrites s t) : t.walletBalances = s.walletBalances := by
  obtain ⟨_, _, _, _, _, _, -, rfl⟩ := rewrites
  rfl

theorem Rewrites.subLedgers {s t : MainWindow} (rewrites : Rewrites s t) :
    t.walletSubLedgers = s.walletSubLedgers := by
  obtain ⟨_, _, _, _, _, _, -, rfl⟩ := rewrites
  rfl

theorem combineWallet_rewrites (bdm : Bdm) (s : MainWindow) (wltID : WalletID) :
    Rewrites s (combineWallet bdm s wltID).state := by
  unfold combineWallet
  split
  · split
    · exact ⟨_, _, _, _, _, _, List.length_set .., rfl⟩
    · exact .refl s
  · exact .refl s

/-- What a rebuild writes, whether or not it raises. -/
theorem createCombinedLedger_rewrites (determineWalletType : Wallet → WalletType) (bdm : Bdm)
    (net : NetworkingFactory) (wltIDList : Option (List WalletID)) (withZeroConf : Bool)
    (s : MainWindow) :
    Rewrites s (createCombinedLedger determineWalletType bdm net wltIDList withZeroConf s).state := by
  unfold createCombinedLedger
  split
  · exact .refl s
  · refine Outcome.rel_andThen Rewrites .trans ?_ fun t => ?_
    · exact Rewrites.trans (t := { s with combinedLedger := [] }) ⟨_, _, _, _, _, _, rfl, rfl⟩
        (forEach_rel Rewrites .refl .trans (fun wltID _ s => combineWallet_rewrites bdm s wltID) _)
    · obtain ⟨table, published⟩ := publishLedger_state bdm net t
      exact published ▸ ⟨_, _, _, _, _, _, rfl, rfl⟩

theorem createCombinedLedger_frame (determineWalletType : Wallet → WalletType) (bdm : Bdm)
    (net : NetworkingFactory) (wltIDList : Option (List WalletID)) (withZeroConf : Bool)
    (s : MainWindow) :
    Frame s (createCombinedLedger determineWalletType bdm net wltIDList withZeroConf s).state :=
  (createCombinedLedger_rewrites determineWalletType bdm net wltIDList withZeroConf s).frame

/-! ## The table -/

/-- A row fails only by `KeyError`: an unregistered wallet, or a missing zero-confirmation time. -/
theorem convertRow_error (bdm : Bdm) (net : NetworkingFactory) (s : MainWindow)
    (pair : WalletID × LedgerEntry) {error : PyError} (failed : convertRow bdm net s pair = .error error) :
    error = .keyError := by
  unfold convertRow at failed
  dsimp only at failed
  split at failed
  · cases failed
    rfl
  · split at failed
    · cases failed
      rfl
    · cases failed

theorem convertLedgerToTable_error (bdm : Bdm) (net : NetworkingFactory) (s : MainWindow) :
    ∀ (ledger : List (WalletID × LedgerEntry)) {error : PyError},
      convertLedgerToTable bdm net s ledger = .error error → error = .keyError
  | [], _, failed => nomatch failed
  | pair :: rest, _, failed => by
    rw [convertLedgerToTable, List.mapM_cons] at failed
    cases row : convertRow bdm net s pair with
    | error e =>
      rw [row] at failed
      cases failed
      exact convertRow_error bdm net s pair row
    | ok r =>
      have others : ∀ {e : PyError}, rest.mapM (convertRow bdm net s) = .error e → e = .keyError :=
        convertLedgerToTable_error bdm net s rest
      rw [row] at failed
      cases built : rest.mapM (convertRow bdm net s) with
      | error e =>
        rw [built] at failed
        cases failed
        exact others built
      | ok rows =>
        rw [built] at failed
        cases failed

/-- The table reads, of the window, only the block height, the map and the offline set. -/
theorem convertLedgerToTable_congr (bdm : Bdm) (net : NetworkingFactory) {s t : MainWindow}
    (height : t.latestBlockNum = s.latestBlockNum) (map : t.walletMap = s.walletMap)
    (offlines : t.walletOfflines = s.walletOfflines) (ledger : List (WalletID × LedgerEntry)) :
    convertLedgerToTable bdm net t ledger = convertLedgerToTable bdm net s ledger := by
  have rows : convertRow bdm net t = convertRow bdm net s := by
    funext pair
    simp only [convertRow, height, map, offlines]
  rw [convertLedgerToTable, convertLedgerToTable, rows]

/-- A table of registered pairs with no entry above `latestBlockNum` is built, and every row has a
confirmation. -/
theorem convertLedgerToTable_confirmed (bdm : Bdm) (net : NetworkingFactory) {s : MainWindow}
    (height : s.latestBlockNum < 0xffffffff) :
    ∀ ledger : List (WalletID × LedgerEntry),
      (∀ pair ∈ ledger, pair.1 ∈ s.walletMap.map Prod.fst ∧ pair.2.blockNum ≤ s.latestBlockNum) →
        ∃ table, convertLedgerToTable bdm net s ledger = .ok table ∧ table.length = ledger.length ∧
          ∀ row ∈ table, 1 ≤ row.nConf
  | [], _ => ⟨[], rfl, rfl, by simp⟩
  | pair :: rest, below => by
    obtain ⟨registered, atMost⟩ := below pair (List.mem_cons_self _ _)
    obtain ⟨wlt, found⟩ := Option.isSome_iff_exists.mp ((lookup_isSome_iff _ _).mpr registered)
    obtain ⟨table, built, length, confirmed⟩ := convertLedgerToTable_confirmed bdm net height rest
      fun other member => below other (List.mem_cons_of_mem _ member)
    have shown : displayedNConf s.latestBlockNum pair.2 = (s.latestBlockNum : Int) - pair.2.blockNum + 1 :=
      if_neg (by omega)
    have positive : (s.latestBlockNum : Int) - pair.2.blockNum + 1 > 0 := by omega
    have row : ∃ r, convertRow bdm net s pair = .ok r ∧ 1 ≤ r.nConf := by
      simp only [convertRow, found, shown, positive, if_true]
      exact ⟨_, rfl, by dsimp only; omega⟩
    obtain ⟨r, converted, first⟩ := row
    unfold convertLedgerToTable at built ⊢
    refine ⟨r :: table, by rw [List.mapM_cons, converted, built]; rfl, by simp [length], ?_⟩
    rintro row (_ | ⟨_, later⟩)
    · exact first
    · exact confirmed row later

/-! ## Order, selections and contents -/

theorem flatMap_eq_of_perm {β : Type} {g : WalletID → List β} {first second : List WalletID}
    (perm : first.Perm second)
    (apart : ∀ w₁ ∈ first, ∀ w₂ ∈ first, w₁ ≠ w₂ → g w₁ = [] ∨ g w₂ = []) :
    first.flatMap g = second.flatMap g := by
  induction perm with
  | nil => rfl
  | cons x _ ih =>
    rw [List.flatMap_cons, List.flatMap_cons, ih fun a ha b hb =>
      apart a (List.mem_cons_of_mem _ ha) b (List.mem_cons_of_mem _ hb)]
  | swap x y l =>
    simp only [List.flatMap_cons, ← List.append_assoc]
    by_cases same : x = y
    · rw [same]
    · rcases apart y (by simp) x (by simp) (Ne.symm same) with empty | empty <;> simp [empty]
  | trans first _ ih₁ ih₂ =>
    rw [ih₁ apart, ih₂ fun a ha b hb => apart a (first.mem_iff.mpr ha) b (first.mem_iff.mpr hb)]

/-- With no ordering key shared by entries of two different wallets, a permutation of the
wallets leaves every key's pairs as they were. -/
theorem ofKey_taggedLedgers_perm (bdm : Bdm) {first second : List WalletID}
    (perm : first.Perm second)
    (noTies : ∀ w₁ ∈ first, ∀ w₂ ∈ first, w₁ ≠ w₂ →
      ∀ e₁ ∈ bdm.getTxLedger w₁, ∀ e₂ ∈ bdm.getTxLedger w₂, e₁.key ≠ e₂.key)
    (key : Nat × Nat) : ofKey key (taggedLedgers bdm first) = ofKey key (taggedLedgers bdm second) := by
  simp only [ofKey, taggedLedgers, List.filter_flatMap]
  refine flatMap_eq_of_perm perm fun w₁ m₁ w₂ m₂ differ => ?_
  by_contra both
  obtain ⟨x₁, h₁⟩ := List.exists_mem_of_ne_nil _ (not_or.mp both).1
  obtain ⟨x₂, h₂⟩ := List.exists_mem_of_ne_nil _ (not_or.mp both).2
  simp only [List.mem_filter, List.mem_map, decide_eq_true_eq] at h₁ h₂
  obtain ⟨⟨e₁, in₁, rfl⟩, key₁⟩ := h₁
  obtain ⟨⟨e₂, in₂, rfl⟩, key₂⟩ := h₂
  exact noTies w₁ m₁ w₂ m₂ differ e₁ in₁ e₂ in₂ (key₁.trans key₂.symm)

def twoWallets : MainWindow :=
  { blank with
    walletMap := [("A", ⟨"A", "a", false, [], []⟩), ("B", ⟨"B", "b", false, [], []⟩)]
    walletIndices := [("A", 0), ("B", 1)]
    walletIDSet := {"A", "B"}
    walletIDList := ["A", "B"]
    walletLedgers := [[], []]
    latestBlockNum := 10 }

def transferBdm : Bdm where
  isInitialized := true
  topBlockHeight := 10
  topBlockTimestamp := 0
  readBlkFileUpdate := .ok 0
  getBalance := fun _ => .ok 0
  getTxLedger := fun id => if id = "A" then [⟨"t", 10, 0, -5⟩] else [⟨"t", 10, 0, 5⟩]
  getAddrTxLedger := fun _ _ => []
  getLedgerEntriesForZeroConfTxList := fun _ txs => txs.map fun _ => ⟨"z", 0xffffffff, 0, 1⟩

theorem twoWallets_registry : Registry twoWallets := ⟨by decide, by decide, by decide, by decide⟩

/-- The combined ledger is Python's stable reverse sort of the wallets' tagged ledgers: sorted
by ordering key, largest first, the pairs of one key in wallet-list order. Two orders of the
same wallets agree exactly when they agree key by key, in particular when no key is shared by
entries of two wallets. -/
theorem createCombinedLedger_stable_order (determineWalletType : Wallet → WalletType) (bdm : Bdm)
    (net : NetworkingFactory) {s : MainWindow} (registry : Registry s)
    (sized : s.walletLedgers.length = s.walletIDList.length) (wltIDList : List WalletID)
    (registeredIDs : ∀ id ∈ wltIDList, id ∈ s.walletIDList) (withZeroConf : Bool) :
    let combined := fun ids =>
      (createCombinedLedger determineWalletType bdm net (some ids) withZeroConf s).state.combinedLedger
    (combined wltIDList).Sorted notBelow ∧
      (∀ key, ofKey key (combined wltIDList) = ofKey key (taggedLedgers bdm wltIDList)) ∧
      ∀ other : List WalletID, other.Perm wltIDList →
        (combined other = combined wltIDList ↔
          ∀ key, ofKey key (taggedLedgers bdm other) = ofKey key (taggedLedgers bdm wltIDList)) ∧
        ((∀ w₁ ∈ wltIDList, ∀ w₂ ∈ wltIDList, w₁ ≠ w₂ →
          ∀ e₁ ∈ bdm.getTxLedger w₁, ∀ e₂ ∈ bdm.getTxLedger w₂, e₁.key ≠ e₂.key) →
          combined other = combined wltIDList) := by
  have sorts : ∀ ids : List WalletID, (∀ id ∈ ids, id ∈ s.walletIDList) →
      (createCombinedLedger determineWalletType bdm net (some ids) withZeroConf s).state.combinedLedger =
        sortByEntryReverse (taggedLedgers bdm ids) := fun ids registeredIDs =>
    (createCombinedLedger_published determineWalletType bdm net registry sized
      (some ids) rfl registeredIDs withZeroConf).1
  intro combined
  refine ⟨?_, fun key => ?_, fun other perm => ?_⟩
  · simp only [combined, sorts wltIDList registeredIDs, sortByEntryReverse_sorted]
  · simp only [combined, sorts wltIDList registeredIDs, ofKey_sortByEntryReverse]
  · have otherRegistered : ∀ id ∈ other, id ∈ s.walletIDList := fun id member =>
      registeredIDs id (perm.mem_iff.mp member)
    have agree : combined other = combined wltIDList ↔
        ∀ key, ofKey key (taggedLedgers bdm other) = ofKey key (taggedLedgers bdm wltIDList) := by
      simp only [combined, sorts other otherRegistered, sorts wltIDList registeredIDs,
        sortByEntryReverse_eq_iff]
    refine ⟨agree, fun noTies => agree.mpr (ofKey_taggedLedgers_perm bdm perm fun w₁ m₁ w₂ m₂ =>
      noTies w₁ (perm.mem_iff.mp m₁) w₂ (perm.mem_iff.mp m₂))⟩

theorem createCombinedLedger_stable_order_transfer :
    Registry twoWallets ∧ twoWallets.walletLedgers.length = twoWallets.walletIDList.length ∧
      (∀ id ∈ ["B", "A"], id ∈ twoWallets.walletIDList) ∧
      (createCombinedLedger (fun _ => .plain) transferBdm ⟨[], []⟩ (some ["B", "A"]) true
        twoWallets).state.combinedLedger.Sorted notBelow :=
  ⟨twoWallets_registry, rfl, by decide,
    (createCombinedLedger_stable_order (fun _ => .plain) transferBdm ⟨[], []⟩ twoWallets_registry rfl
      ["B", "A"] (by decide) true).1⟩

/-- The two sides of the transfer tie on the ordering key, and they come out in wallet-list
order: listing `B` first puts `B` first, so no wallet-ID tie-break fixes the order. -/
theorem createCombinedLedger_tie_follows_list_order :
    (createCombinedLedger (fun _ => .plain) transferBdm ⟨[], []⟩ (some ["B", "A"]) true
        twoWallets).state.combinedLedger = [("B", ⟨"t", 10, 0, 5⟩), ("A", ⟨"t", 10, 0, -5⟩)] ∧
      (createCombinedLedger (fun _ => .plain) transferBdm ⟨[], []⟩ (some ["A", "B"]) true
        twoWallets).state.combinedLedger = [("A", ⟨"t", 10, 0, -5⟩), ("B", ⟨"t", 10, 0, 5⟩)] := by
  decide

/-- "My wallets" and "Watching-only" split `walletIDList` in two, in its order; the "All wallets"
ledger is their two ledgers together, and its totals are their sums. -/
theorem createCombinedLedger_selections_split (determineWalletType : Wallet → WalletType)
    (bdm : Bdm) (net : NetworkingFactory) {s : MainWindow} (registry : Registry s)
    (sized : s.walletLedgers.length = s.walletIDList.length) :
    let run := fun checked =>
      (createCombinedLedger determineWalletType bdm net none true { s with checked }).state
    ∃ mine watch : List WalletID,
      selectedIDs determineWalletType { s with checked := .myWallets } = .ok mine ∧
      selectedIDs determineWalletType { s with checked := .watchOnly } = .ok watch ∧
      mine.Sublist s.walletIDList ∧ watch.Sublist s.walletIDList ∧
      (∀ id ∈ mine, id ∉ watch) ∧ (∀ id ∈ s.walletIDList, id ∈ mine ∨ id ∈ watch) ∧
      (run .allWallets).combinedLedger.Perm
        ((run .myWallets).combinedLedger ++ (run .watchOnly).combinedLedger) ∧
      (run .allWallets).lblTotalFunds = (run .myWallets).lblTotalFunds + (run .watchOnly).lblTotalFunds ∧
      (run .allWallets).lblUnconfirmed =
        (run .myWallets).lblUnconfirmed + (run .watchOnly).lblUnconfirmed := by
  intro run
  obtain ⟨mineSelected, watchSelected⟩ := selectedIDs_registered determineWalletType registry
  set watchOnly := watchOnlyID determineWalletType s
  have published := fun (checked : Selection) {ids : List WalletID}
      (resolved : selectedIDs determineWalletType { s with checked } = .ok ids)
      (registeredIDs : ∀ id ∈ ids, id ∈ s.walletIDList) =>
    createCombinedLedger_published determineWalletType bdm net (s := { s with checked })
      (registry.congr ⟨rfl, rfl, rfl, rfl⟩) sized none resolved registeredIDs true
  obtain ⟨allLedger, -, allTotals⟩ := published .allWallets rfl fun _ member => member
  obtain ⟨mineLedger, -, mineTotals⟩ :=
    published .myWallets mineSelected fun _ member => (List.mem_filter.mp member).1
  obtain ⟨watchLedger, -, watchTotals⟩ :=
    published .watchOnly watchSelected fun _ member => (List.mem_filter.mp member).1
  have split : (taggedLedgers bdm s.walletIDList).Perm
      (taggedLedgers bdm (s.walletIDList.filter fun id => !watchOnly id) ++
        taggedLedgers bdm (s.walletIDList.filter watchOnly)) := by
    rw [taggedLedgers, taggedLedgers, taggedLedgers, ← List.flatMap_append]
    exact (List.perm_append_comm.trans (List.filter_append_perm watchOnly _)).symm.flatMap_right _
  have together : (run .allWallets).combinedLedger.Perm
      ((run .myWallets).combinedLedger ++ (run .watchOnly).combinedLedger) := by
    simp only [run, allLedger, mineLedger, watchLedger]
    exact (sortByEntryReverse_perm _).trans (split.trans
      ((sortByEntryReverse_perm _).append (sortByEntryReverse_perm _)).symm)
  have totals := ledgerTotals_perm s.latestBlockNum together
  rw [ledgerTotals_append, ← allTotals, ← mineTotals, ← watchTotals] at totals
  exact ⟨_, _, mineSelected, watchSelected, List.filter_sublist _, List.filter_sublist _,
    fun id member kept => by simpa [(List.mem_filter.mp kept).2] using (List.mem_filter.mp member).2,
    fun id member => by by_cases w : watchOnly id <;> simp [member, w],
    together, (Prod.mk.inj totals).1, (Prod.mk.inj totals).2⟩

theorem createCombinedLedger_selections_split_transfer :
    Registry twoWallets ∧ twoWallets.walletLedgers.length = twoWallets.walletIDList.length ∧
      ∃ mine watch : List WalletID,
        selectedIDs (fun wlt => if wlt.wltUniqueIDB58 = "B" then .watchOnly else .plain)
          { twoWallets with checked := .myWallets } = .ok mine ∧
        selectedIDs (fun wlt => if wlt.wltUniqueIDB58 = "B" then .watchOnly else .plain)
          { twoWallets with checked := .watchOnly } = .ok watch :=
  have split := createCombinedLedger_selections_split
    (fun wlt => if wlt.wltUniqueIDB58 = "B" then .watchOnly else .plain) transferBdm ⟨[], []⟩
    twoWallets_registry rfl
  let ⟨mine, watch, mineSelected, watchSelected, _⟩ := split
  ⟨twoWallets_registry, rfl, mine, watch, mineSelected, watchSelected⟩

/-- `createCombinedLedger(wltIDList)` collects exactly the confirmed entries of the listed
wallets, each once, and counts them in `ledgerSize`. -/
theorem createCombinedLedger_confirmed_entries (determineWalletType : Wallet → WalletType)
    (bdm : Bdm) (net : NetworkingFactory) {s : MainWindow} (registry : Registry s)
    (sized : s.walletLedgers.length = s.walletIDList.length) (wltIDList : List WalletID)
    (registeredIDs : ∀ id ∈ wltIDList, id ∈ s.walletIDList) :
    let after := (createCombinedLedger determineWalletType bdm net (some wltIDList) true s).state
    after.combinedLedger.Perm (taggedLedgers bdm wltIDList) ∧
      after.ledgerSize = after.combinedLedger.length := by
  obtain ⟨sorted, size, -⟩ :=
    createCombinedLedger_published determineWalletType bdm net registry sized
      (some wltIDList) rfl registeredIDs true
  exact ⟨sorted ▸ sortByEntryReverse_perm _, size⟩

theorem createCombinedLedger_confirmed_entries_transfer :
    Registry twoWallets ∧ twoWallets.walletLedgers.length = twoWallets.walletIDList.length ∧
      (∀ id ∈ ["A"], id ∈ twoWallets.walletIDList) ∧
      (createCombinedLedger (fun _ => .plain) transferBdm ⟨[("z", "raw")], [("z", 100)]⟩ (some ["A"])
        true twoWallets).state.combinedLedger.Perm (taggedLedgers transferBdm ["A"]) :=
  ⟨twoWallets_registry, rfl, by decide,
    (createCombinedLedger_confirmed_entries (fun _ => .plain) transferBdm ⟨[("z", "raw")], [("z", 100)]⟩
      twoWallets_registry rfl ["A"] (by decide)).1⟩

/-- With one tracked zero-confirmation transaction, `A`'s zero-confirmation ledger has an entry
that the combined ledger leaves out. -/
theorem createCombinedLedger_omits_zero_conf :
    createZeroConfLedger transferBdm ⟨[("z", "raw")], [("z", 100)]⟩ "A" = .ok [⟨"z", 0xffffffff, 0, 1⟩] ∧
      ¬(createCombinedLedger (fun _ => .plain) transferBdm ⟨[("z", "raw")], [("z", 100)]⟩ (some ["A"])
        true twoWallets).state.combinedLedger.Perm
          ((transferBdm.getTxLedger "A" ++ [(⟨"z", 0xffffffff, 0, 1⟩ : LedgerEntry)]).map ("A", ·)) :=
  ⟨rfl, by decide⟩

def aheadBdm : Bdm := { transferBdm with topBlockHeight := 11, getTxLedger := fun _ => [⟨"n", 11, 0, 3⟩] }

/-- Two windows that differ only in the table they showed before: the entry of block 11 has
no positive confirmation count and no zero-confirmation time, the table raises `KeyError`, and
each window keeps its old table. -/
theorem createCombinedLedger_keeps_stale_table :
    let run := fun (table : List Row) => createCombinedLedger (fun _ => .plain) aheadBdm ⟨[], []⟩ none true
      { twoWallets with ledgerTable := table }
    (run []).raised = some .keyError ∧ (run [⟨1, 0, 5, "a", "", false, "A"⟩]).raised = some .keyError ∧
      (run []).state.ledgerTable = [] ∧
      (run [⟨1, 0, 5, "a", "", false, "A"⟩]).state.ledgerTable = [⟨1, 0, 5, "a", "", false, "A"⟩] := by
  decide

/-! ## What a rebuild reads -/

/-- `publishLedger` overwrites the count, the totals and the table, and never reads the ledger
contents: a window that differs in them raises the same and ends the same, but for the table
it keeps when the table raises. -/
theorem publishLedger_congr (bdm : Bdm) (net : NetworkingFactory) (s : MainWindow)
    (ledgers : List (List LedgerEntry)) (table : List Row) (size : Nat) (funds unconfirmed : Int) :
    let own := publishLedger bdm net s
    let other := publishLedger bdm net { s with
      walletLedgers := ledgers, ledgerTable := table, ledgerSize := size
      lblTotalFunds := funds, lblUnconfirmed := unconfirmed }
    other.raised = own.raised ∧
      other.state = { own.state with
        walletLedgers := ledgers
        ledgerTable := if own.raised = none then own.state.ledgerTable else table } := by
  have sorted : withSortedLedger { s with
      walletLedgers := ledgers, ledgerTable := table, ledgerSize := size
      lblTotalFunds := funds, lblUnconfirmed := unconfirmed } =
      { withSortedLedger s with walletLedgers := ledgers, ledgerTable := table } := rfl
  have same := convertLedgerToTable_congr bdm net (s := withSortedLedger s)
    (t := { withSortedLedger s with walletLedgers := ledgers, ledgerTable := table }) rfl rfl rfl
  simp only [publishLedger, sorted, same]
  cases convertLedgerToTable bdm net (withSortedLedger s) (withSortedLedger s).combinedLedger <;>
    exact ⟨rfl, rfl⟩

theorem publishLedger_ok (bdm : Bdm) (net : NetworkingFactory) {s : MainWindow} {table : List Row}
    (built : convertLedgerToTable bdm net (withSortedLedger s) (withSortedLedger s).combinedLedger = .ok table) :
    publishLedger bdm net s = ⟨{ withSortedLedger s with ledgerTable := table }, none⟩ := by
  simp only [publishLedger, built]

/-- On a registry, every radio selection resolves to registered IDs. -/
theorem selectedIDs_resolves (determineWalletType : Wallet → WalletType) {s : MainWindow}
    (registry : Registry s) :
    ∃ ids, selectedIDs determineWalletType s = .ok ids ∧ ∀ id ∈ ids, id ∈ s.walletIDList := by
  obtain ⟨mine, watch⟩ := selectedIDs_registered determineWalletType registry
  have kept : ∀ (p : WalletID → Bool), ∀ id ∈ s.walletIDList.filter p, id ∈ s.walletIDList :=
    fun _ _ member => (List.mem_filter.mp member).1
  cases checked : s.checked with
  | allWallets => exact ⟨s.walletIDList, by simp only [selectedIDs, checked], fun _ member => member⟩
  | myWallets => exact ⟨_, by simp only [selectedIDs, checked] at mine ⊢; exact mine, kept _⟩
  | watchOnly => exact ⟨_, by simp only [selectedIDs, checked] at watch ⊢; exact watch, kept _⟩

/-- `createCombinedLedger()` reads nothing it rebuilds. On a synced registry, a window that differs
only in its previous combined ledger, count, totals, table and ledger contents raises the same
and ends the same, but for the ledger contents and, when the table raises, the table it keeps. -/
theorem createCombinedLedger_ignores_previous (determineWalletType : Wallet → WalletType) (bdm : Bdm)
    (net : NetworkingFactory) {s : MainWindow} (registry : Registry s)
    (sized : s.walletLedgers.length = s.walletIDList.length) (previous : List (WalletID × LedgerEntry))
    (size : Nat) (funds unconfirmed : Int) (table : List Row) (ledgers : List (List LedgerEntry))
    (slots : ledgers.length = s.walletLedgers.length) :
    let own := createCombinedLedger determineWalletType bdm net none true s
    let other := createCombinedLedger determineWalletType bdm net none true { s with
      combinedLedger := previous, ledgerSize := size, lblTotalFunds := funds
      lblUnconfirmed := unconfirmed, ledgerTable := table, walletLedgers := ledgers }
    other.raised = own.raised ∧
      other.state = { own.state with
        walletLedgers := other.state.walletLedgers
        ledgerTable := if own.raised = none then own.state.ledgerTable else table } := by
  intro own other
  obtain ⟨ids, resolved, registeredIDs⟩ := selectedIDs_resolves determineWalletType registry
  obtain ⟨ownLedgers, -, ownRun⟩ := createCombinedLedger_collects determineWalletType bdm net registry
    sized none resolved registeredIDs true
  obtain ⟨otherLedgers, -, otherRun⟩ := createCombinedLedger_collects determineWalletType bdm net
    (s := { s with
      combinedLedger := previous, ledgerSize := size, lblTotalFunds := funds
      lblUnconfirmed := unconfirmed, ledgerTable := table, walletLedgers := ledgers })
    (registry.congr ⟨rfl, rfl, rfl, rfl⟩) (slots.trans sized) none resolved registeredIDs true
  obtain ⟨raised, state⟩ := publishLedger_congr bdm net
    { s with walletLedgers := ownLedgers, combinedLedger := taggedLedgers bdm ids } otherLedgers table
    size funds unconfirmed
  simp only [own, other, ownRun, otherRun]
  exact ⟨raised, by rw [state]⟩

theorem createCombinedLedger_ignores_previous_transfer :
    Registry twoWallets ∧ twoWallets.walletLedgers.length = twoWallets.walletIDList.length ∧
      ([[⟨"old", 1, 0, 1⟩], []] : List (List LedgerEntry)).length = twoWallets.walletLedgers.length ∧
      (createCombinedLedger (fun _ => .plain) transferBdm ⟨[], []⟩ none true { twoWallets with
          combinedLedger := [], ledgerSize := 7, lblTotalFunds := 1, lblUnconfirmed := 2
          ledgerTable := [], walletLedgers := [[⟨"old", 1, 0, 1⟩], []] }).raised =
        (createCombinedLedger (fun _ => .plain) transferBdm ⟨[], []⟩ none true twoWallets).raised :=
  ⟨twoWallets_registry, rfl, rfl,
    (createCombinedLedger_ignores_previous (fun _ => .plain) transferBdm ⟨[], []⟩ twoWallets_registry rfl
      [] 7 1 2 [] [[⟨"old", 1, 0, 1⟩], []] rfl).1⟩

/-- On a synced registry a rebuild raises nothing but the table's `KeyError`. -/
theorem createCombinedLedger_synced_raises (determineWalletType : Wallet → WalletType) (bdm : Bdm)
    (net : NetworkingFactory) {s : MainWindow} (registry : Registry s)
    (sized : s.walletLedgers.length = s.walletIDList.length) :
    (createCombinedLedger determineWalletType bdm net none true s).raised = none ∨
      (createCombinedLedger determineWalletType bdm net none true s).raised = some .keyError := by
  obtain ⟨ids, resolved, registeredIDs⟩ := selectedIDs_resolves determineWalletType registry
  obtain ⟨ledgers, -, run⟩ := createCombinedLedger_collects determineWalletType bdm net registry sized
    none resolved registeredIDs true
  rw [run]
  dsimp only [publishLedger]
  split
  · exact .inl rfl
  · exact .inr (congrArg some (convertLedgerToTable_error bdm net _ _ ‹_›))

/-- A rebuild on a synced registry whose wallets' entries are none above `latestBlockNum` returns
normally, with a row per pair and at least one confirmation in every row. -/
theorem createCombinedLedger_caught_up (determineWalletType : Wallet → WalletType) (bdm : Bdm)
    (net : NetworkingFactory) {s : MainWindow} (registry : Registry s)
    (sized : s.walletLedgers.length = s.walletIDList.length) (height : s.latestBlockNum < 0xffffffff)
    (caughtUp : ∀ id ∈ s.walletIDList, ∀ e ∈ bdm.getTxLedger id, e.blockNum ≤ s.latestBlockNum) :
    let after := createCombinedLedger determineWalletType bdm net none true s
    after.raised = none ∧ after.state.ledgerTable.length = after.state.combinedLedger.length ∧
      ∀ row ∈ after.state.ledgerTable, 1 ≤ row.nConf := by
  obtain ⟨ids, resolved, registeredIDs⟩ := selectedIDs_resolves determineWalletType registry
  obtain ⟨ledgers, -, run⟩ := createCombinedLedger_collects determineWalletType bdm net registry sized
    none resolved registeredIDs true
  have pairs : ∀ pair ∈ sortByEntryReverse (taggedLedgers bdm ids),
      pair.1 ∈ s.walletMap.map Prod.fst ∧ pair.2.blockNum ≤ s.latestBlockNum := by
    intro pair member
    obtain ⟨id, listed, entry, found, rfl⟩ : ∃ id ∈ ids, ∃ e ∈ bdm.getTxLedger id, (id, e) = pair := by
      simpa [taggedLedgers] using (sortByEntryReverse_perm _).mem_iff.mp member
    exact ⟨registry.mapKeys ▸ registeredIDs id listed, caughtUp id (registeredIDs id listed) entry found⟩
  obtain ⟨rows, built, length, confirmed⟩ := convertLedgerToTable_confirmed bdm net
    (s := withSortedLedger { s with walletLedgers := ledgers, combinedLedger := taggedLedgers bdm ids })
    height (sortByEntryReverse (taggedLedgers bdm ids)) pairs
  intro after
  simp only [after, run, publishLedger_ok bdm net built]
  exact ⟨trivial, length, confirmed⟩

theorem createCombinedLedger_caught_up_transfer :
    Registry twoWallets ∧ twoWallets.walletLedgers.length = twoWallets.walletIDList.length ∧
      twoWallets.latestBlockNum < 0xffffffff ∧
      (∀ id ∈ twoWallets.walletIDList, ∀ e ∈ transferBdm.getTxLedger id,
        e.blockNum ≤ twoWallets.latestBlockNum) ∧
      (createCombinedLedger (fun _ => .plain) transferBdm ⟨[], []⟩ none true twoWallets).raised = none :=
  ⟨twoWallets_registry, rfl, by decide, by decide,
    (createCombinedLedger_caught_up (fun _ => .plain) transferBdm ⟨[], []⟩ twoWallets_registry rfl
      (by decide) (by decide)).1⟩

end Armory.CombinedLedger
