import Armory.Runs
import Armory.Table

/-!
The ledger view over whole runs of events. A click raises only for a window without ledger slots
or for an entry the table cannot time, never for a wallet. Every row the table shows is one of a
loaded wallet, with that wallet's label and marks, however stale the row. After any event that
returns normally the table shows exactly the combined ledger; a stale table is only ever left by an
event that raised.
-/

namespace Armory.LedgerView
open Armory.Types Armory.Window Armory.LoadWallets Armory.LedgerSort Armory.CombinedLedger
  Armory.Blockchain Armory.Heartbeat Armory.System Armory.Table Armory.Runs

/-! ## What a click raises -/

/-- Every entry of a rebuilt ledger on a synced registry is an entry of a registered wallet's ledger
as the engine reports it. -/
theorem createCombinedLedger_pairs (determineWalletType : Wallet → WalletType) (bdm : Bdm)
    (net : NetworkingFactory) {s : MainWindow} (registry : Registry s)
    (sized : s.walletLedgers.length = s.walletIDList.length) :
    ∀ pair ∈ (createCombinedLedger determineWalletType bdm net none true s).state.combinedLedger,
      pair.1 ∈ s.walletIDList ∧ pair.2 ∈ bdm.getTxLedger pair.1 := by
  obtain ⟨ids, resolved, registeredIDs⟩ := selectedIDs_resolves determineWalletType registry
  obtain ⟨ledgers, -, run⟩ := createCombinedLedger_collects determineWalletType bdm net registry sized
    none resolved registeredIDs true
  obtain ⟨table, published⟩ := publishLedger_state bdm net
    { s with walletLedgers := ledgers, combinedLedger := taggedLedgers bdm ids }
  rw [run, published]
  intro pair member
  obtain ⟨id, listed, entry, found, rfl⟩ : ∃ id ∈ ids, ∃ e ∈ bdm.getTxLedger id, (id, e) = pair := by
    simpa [taggedLedgers] using (sortByEntryReverse_perm _).mem_iff.mp member
  exact ⟨registeredIDs id listed, found⟩

/-- A publish raises exactly the table's `KeyError`, for an entry of the sorted ledger whose wallet is
not loaded, or which the table shows with no positive confirmation count and no zero-confirmation
time. -/
theorem publishLedger_raises_iff (bdm : Bdm) (net : NetworkingFactory) (s : MainWindow) (error : PyError) :
    (publishLedger bdm net s).raised = some error ↔ error = .keyError ∧
      ∃ pair ∈ (publishLedger bdm net s).state.combinedLedger, s.walletMap.lookup pair.1 = none ∨
        (displayedNConf s.latestBlockNum pair.2 ≤ 0 ∧ net.zeroConfTxTime.lookup pair.2.txHash = none) := by
  have failing := convertLedgerToTable_raises_iff bdm net (withSortedLedger s) (withSortedLedger s).combinedLedger
  dsimp only [publishLedger]
  cases table : convertLedgerToTable bdm net (withSortedLedger s) (withSortedLedger s).combinedLedger with
  | ok rows =>
    simp only [reduceCtorEq, false_iff, not_and]
    intro _ found
    obtain ⟨_, raised⟩ := failing.mpr found
    rw [table] at raised
    cases raised
  | error raised =>
    obtain rfl := convertLedgerToTable_error bdm net _ _ table
    simp only [Option.some.injEq]
    exact ⟨fun same => ⟨same.symm, failing.mp ⟨_, table⟩⟩, fun ⟨same, _⟩ => same.symm⟩

/-- On a consistent window a rebuild of the selection raises in exactly two cases: `IndexError`,
with no ledger slots and a selection that is not empty; and the table's `KeyError`, for an entry
it shows with no positive confirmation count and no zero-confirmation time. -/
theorem createCombinedLedger_raises_iff (determineWalletType : Wallet → WalletType) (bdm : Bdm)
    (net : NetworkingFactory) {s : MainWindow} (consistent : Consistent s) (error : PyError) :
    (createCombinedLedger determineWalletType bdm net none true s).raised = some error ↔
      (error = .indexError ∧ s.walletLedgers = [] ∧
          ∃ id rest, selectedIDs determineWalletType s = .ok (id :: rest)) ∨
        (error = .keyError ∧ ∃ pair ∈ (createCombinedLedger determineWalletType bdm net none true s).state.combinedLedger,
          displayedNConf s.latestBlockNum pair.2 ≤ 0 ∧ net.zeroConfTxTime.lookup pair.2.txHash = none) := by
  obtain ⟨ids, resolved, registeredIDs⟩ := selectedIDs_resolves determineWalletType consistent.registry
  rw [resolved]
  rcases consistent.slots with sized | empty
  · have slotted : ¬(s.walletLedgers = [] ∧ ∃ id rest, Except.ok ids = (.ok (id :: rest) : Except PyError _)) := by
      rintro ⟨empty, id, rest, listed⟩
      have noIDs : s.walletIDList = [] := by rw [← List.length_eq_zero, ← sized, empty, List.length_nil]
      simpa [noIDs] using registeredIDs id (by rw [Except.ok.inj listed]; exact List.mem_cons_self _ _)
    have registered : ∀ pair ∈ (createCombinedLedger determineWalletType bdm net none true s).state.combinedLedger,
        ¬s.walletMap.lookup pair.1 = none := fun pair member =>
      Option.isSome_iff_ne_none.mp ((lookup_isSome_iff _ _).mpr (consistent.registry.mapKeys ▸
        (createCombinedLedger_pairs determineWalletType bdm net consistent.registry sized pair member).1))
    obtain ⟨ledgers, -, run⟩ := createCombinedLedger_collects determineWalletType bdm net consistent.registry
      sized none resolved registeredIDs true
    rw [run] at registered
    rw [run, publishLedger_raises_iff, or_iff_right fun ⟨_, rest⟩ => slotted rest]
    exact and_congr_right fun _ => exists_congr fun pair =>
      and_congr_right fun member => or_iff_right (registered pair member)
  · have empty : s.walletLedgers = [] := List.length_eq_zero.mp empty
    cases ids with
    | nil =>
      rw [createCombinedLedger_empty determineWalletType bdm net resolved]
      simp
    | cons wltID rest =>
      rw [createCombinedLedger_unslotted determineWalletType bdm net consistent.registry empty resolved
        (registeredIDs wltID (List.mem_cons_self _ _))]
      simp only [Option.some.injEq, List.not_mem_nil, false_and, exists_false, and_false, or_false, empty,
        true_and]
      exact ⟨fun indexError => ⟨indexError.symm, wltID, rest, rfl⟩, fun listed => listed.1.symm⟩

/-- In a reachable window a click raises in exactly two cases. `IndexError`, when the window has
no ledger slots and the new selection is not empty. `KeyError` from the table, when the rebuilt
combined ledger has an entry the table shows with no positive confirmation count and whose hash
has no zero-confirmation time. A click never raises `KeyError` for a wallet. -/
theorem reachable_click_raises {determineWalletType : Wallet → WalletType} {s : MainWindow}
    (reachable : Reachable determineWalletType s) (selection : Selection) (bdm : Bdm) (net : NetworkingFactory)
    (error : PyError) :
    (react determineWalletType s (.clicked selection bdm net)).raised = some error ↔
      (error = .indexError ∧ s.walletLedgers = [] ∧
          ∃ id rest, selectedIDs determineWalletType { s with checked := selection } = .ok (id :: rest)) ∨
        (error = .keyError ∧ ∃ pair ∈ (step determineWalletType s (.clicked selection bdm net)).combinedLedger,
          displayedNConf s.latestBlockNum pair.2 ≤ 0 ∧ net.zeroConfTxTime.lookup pair.2.txHash = none) :=
  createCombinedLedger_raises_iff determineWalletType bdm net
    (reachable.consistent.of_same (t := { s with checked := selection }) ⟨rfl, rfl, rfl, rfl⟩ rfl) error

theorem reachable_click_raises_loadedA :
    Reachable plainType loadedA ∧
      ((react plainType loadedA (.clicked .myWallets loadBdm ⟨[], []⟩)).raised = some .keyError ↔
        (PyError.keyError = .indexError ∧ loadedA.walletLedgers = [] ∧
            ∃ id rest, selectedIDs plainType { loadedA with checked := .myWallets } = .ok (id :: rest)) ∨
          (PyError.keyError = .keyError ∧
            ∃ pair ∈ (step plainType loadedA (.clicked .myWallets loadBdm ⟨[], []⟩)).combinedLedger,
              displayedNConf loadedA.latestBlockNum pair.2 ≤ 0 ∧
                (NetworkingFactory.zeroConfTxTime ⟨[], []⟩).lookup pair.2.txHash = none)) :=
  ⟨loadedA_reachable, reachable_click_raises loadedA_reachable .myWallets loadBdm ⟨[], []⟩ .keyError⟩

/-! ## What the table shows -/

/-- What a row of the table says about its wallet, read against the window's registry and offline
marks: the wallet is loaded, and the row shows its label, its comment on a transaction (or none)
and whether the money is the user's. -/
def RowOfWallet (s : MainWindow) (row : Row) : Prop :=
  ∃ wlt, s.walletMap.lookup row.wltID = some wlt ∧ row.labelName = wlt.labelName ∧
    (∃ hash, row.comment = (wlt.commentsMap.lookup hash).getD "") ∧
    row.isMine = (wlt.watchingOnly && decide (row.wltID ∉ s.walletOfflines))

/-- Every row of the table is a row of a loaded wallet. -/
def TableOfWallets (s : MainWindow) : Prop := ∀ row ∈ s.ledgerTable, RowOfWallet s row

theorem rowOfWallet_of_rowShows {bdm : Bdm} {net : NetworkingFactory} {s : MainWindow}
    {pair : WalletID × LedgerEntry} {row : Row} (shows : RowShows bdm net s pair row) : RowOfWallet s row := by
  obtain ⟨wlt, found, label, comment, mine⟩ := shows.wallet
  rw [← shows.wltID] at found mine
  exact ⟨wlt, found, label, ⟨_, comment⟩, mine⟩

theorem convertLedgerToTable_rows (bdm : Bdm) (net : NetworkingFactory) (s : MainWindow)
    {ledger : List (WalletID × LedgerEntry)} {table : List Row}
    (built : convertLedgerToTable bdm net s ledger = .ok table) : ∀ row ∈ table, RowOfWallet s row := by
  have shows := (convertLedgerToTable_eq_ok_iff bdm net s ledger table).mp built
  clear built
  induction shows with
  | nil => exact fun _ member => absurd member (List.not_mem_nil _)
  | cons first _ rest => exact List.forall_mem_cons.mpr ⟨rowOfWallet_of_rowShows first, rest⟩

/-- A table that `publishLedger` builds is one of loaded wallets; one it fails to build leaves the
old table. -/
theorem publishLedger_tableOfWallets (bdm : Bdm) (net : NetworkingFactory) {s : MainWindow}
    (rows : TableOfWallets s) : TableOfWallets (publishLedger bdm net s).state := by
  dsimp only [publishLedger]
  split
  · next table built => exact convertLedgerToTable_rows bdm net _ built
  · exact rows

theorem createCombinedLedger_tableOfWallets (determineWalletType : Wallet → WalletType) (bdm : Bdm)
    (net : NetworkingFactory) (wltIDList : Option (List WalletID)) (withZeroConf : Bool) {s : MainWindow}
    (rows : TableOfWallets s) :
    TableOfWallets (createCombinedLedger determineWalletType bdm net wltIDList withZeroConf s).state := by
  let Kept := fun a b : MainWindow => TableOfWallets a → TableOfWallets b
  have combined : ∀ wltID a, Kept a (combineWallet bdm a wltID).state := fun wltID a rows => by
    unfold combineWallet
    split
    · split <;> exact rows
    · exact rows
  unfold createCombinedLedger
  split
  · exact rows
  · exact Outcome.rel_andThen Kept (fun first second => second ∘ first)
      (forEach_rel Kept (fun _ => id) (fun first second => second ∘ first) (fun wltID _ => combined wltID) _)
      (fun _ => publishLedger_tableOfWallets bdm net) rows

theorem react_tableOfWallets (determineWalletType : Wallet → WalletType) {s : MainWindow}
    (rows : TableOfWallets s) (event : Event) : TableOfWallets (step determineWalletType s event) := by
  cases event with
  | heartbeat bdm net iter =>
    exact heartbeat_keeps (fun a b => TableOfWallets a → TableOfWallets b) (fun _ => id)
      (fun first second => second ∘ first) determineWalletType bdm net iter s (fun _ => id) (fun _ _ => id)
      (fun _ => createCombinedLedger_tableOfWallets determineWalletType bdm net none true) rows
  | clicked selection bdm net =>
    exact createCombinedLedger_tableOfWallets determineWalletType bdm net none true rows

theorem init_tableOfWallets (determineWalletType : Wallet → WalletType) (readWalletFile : Path → Option Wallet)
    (armoryHomeDir : String) (listing : List String) (settings : Settings) (bdm : Bdm)
    (net : NetworkingFactory) (iter : IterOrder)
    (normal : (init determineWalletType readWalletFile armoryHomeDir listing settings bdm net iter).raised = none) :
    TableOfWallets (init determineWalletType readWalletFile armoryHomeDir listing settings bdm net iter).state := by
  unfold init at normal ⊢
  have loaded := Outcome.raised_of_andThen normal
  rw [Outcome.andThen_of_ok _ loaded] at normal ⊢
  have synced := Outcome.raised_of_andThen normal
  rw [Outcome.andThen_of_ok _ synced] at normal ⊢
  unfold withResult at normal ⊢
  split
  · next table built => exact convertLedgerToTable_rows bdm net _ built
  · next error failed => simp [failed] at normal

/-- In every reachable window, each row of the ledger table names a registered wallet and shows
that wallet's label, its comment on a transaction (or none) and the "Is this money mine?" flag
of the wallet's watching-only mark and the window's offline marks, however stale the row's
confirmation count and time may be. -/
theorem reachable_ledgerTable {determineWalletType : Wallet → WalletType} {s : MainWindow}
    (reachable : Reachable determineWalletType s) :
    ∀ row ∈ s.ledgerTable, row.wltID ∈ s.walletIDList ∧ RowOfWallet s row := by
  have rows : TableOfWallets s := by
    induction reachable with
    | built normal => exact init_tableOfWallets _ _ _ _ _ _ _ _ normal
    | event event _ rows => exact react_tableOfWallets _ rows event
  intro row member
  obtain ⟨wlt, found, shown⟩ := rows row member
  have registered := (lookup_isSome_iff s.walletMap row.wltID).mp (Option.isSome_iff_exists.mpr ⟨wlt, found⟩)
  exact ⟨reachable.consistent.registry.mapKeys ▸ registered, wlt, found, shown⟩

theorem reachable_ledgerTable_loadedA :
    Reachable plainType loadedA ∧
      ∀ row ∈ loadedA.ledgerTable, row.wltID ∈ loadedA.walletIDList ∧ RowOfWallet loadedA row :=
  ⟨loadedA_reachable, reachable_ledgerTable loadedA_reachable⟩

/-! ## A table up to date -/

theorem publishLedger_fresh (bdm : Bdm) (net : NetworkingFactory) {s : MainWindow}
    (normal : (publishLedger bdm net s).raised = none) :
    let after := (publishLedger bdm net s).state
    List.Forall₂ (RowShows bdm net after) after.combinedLedger after.ledgerTable := by
  dsimp only [publishLedger] at normal ⊢
  split at normal
  · next rows built => exact (convertLedgerToTable_eq_ok_iff bdm net _ _ rows).mp built
  · cases normal

theorem createCombinedLedger_fresh (determineWalletType : Wallet → WalletType) (bdm : Bdm)
    (net : NetworkingFactory) {s : MainWindow}
    (normal : (createCombinedLedger determineWalletType bdm net none true s).raised = none) :
    let after := (createCombinedLedger determineWalletType bdm net none true s).state
    List.Forall₂ (RowShows bdm net after) after.combinedLedger after.ledgerTable := by
  unfold createCombinedLedger at normal ⊢
  split at normal
  · cases normal
  · have collected := Outcome.raised_of_andThen normal
    rw [Outcome.andThen_of_ok _ collected] at normal ⊢
    exact publishLedger_fresh bdm net normal

/-- After any event that returns normally, a tick or a click, the table shows exactly the combined
ledger: one row per entry, in its order, each row what `RowShows` says of its entry against the
window's block height, registry and offline marks, with the time from the event's engine or
networking factory. A stale table is only ever left by an event that raised. -/
theorem react_fresh (determineWalletType : Wallet → WalletType) (s : MainWindow) (event : Event)
    (normal : (react determineWalletType s event).raised = none) :
    let after := step determineWalletType s event
    List.Forall₂ (RowShows event.bdm event.net after) after.combinedLedger after.ledgerTable := by
  cases event with
  | heartbeat bdm net iter =>
    dsimp only [step, react, heartbeatSteps] at normal ⊢
    have checked := Outcome.raised_of_andThen normal
    rw [Outcome.andThen_of_ok _ checked] at normal ⊢
    have balanced := Outcome.raised_of_andThen normal
    rw [Outcome.andThen_of_ok _ balanced] at normal ⊢
    simp only [extraHeartbeatFunctions, forEach_cons, Outcome.andThen_forEach_nil] at normal ⊢
    exact createCombinedLedger_fresh determineWalletType bdm net normal
  | clicked selection bdm net => exact createCombinedLedger_fresh determineWalletType bdm net normal

theorem react_fresh_loadedA :
    (react plainType loadedA (.clicked .allWallets loadBdm ⟨[], []⟩)).raised = none ∧
      List.Forall₂ (RowShows loadBdm ⟨[], []⟩ (step plainType loadedA (.clicked .allWallets loadBdm ⟨[], []⟩)))
        (step plainType loadedA (.clicked .allWallets loadBdm ⟨[], []⟩)).combinedLedger
        (step plainType loadedA (.clicked .allWallets loadBdm ⟨[], []⟩)).ledgerTable :=
  have normal : (react plainType loadedA (.clicked .allWallets loadBdm ⟨[], []⟩)).raised = none := by decide
  ⟨normal, react_fresh plainType loadedA _ normal⟩

end Armory.LedgerView
