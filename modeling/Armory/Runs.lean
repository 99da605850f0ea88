import Armory.System
import Armory.Replay

/-!
The main window over whole runs of events. Every reachable window shows, as its combined ledger,
the sorted ledger of the checked selection as some engine reported it, with its count, and its
totals at some block height in the labels (`Displayed`). An event handled twice in a row does what
it did once. The order the wallet dict yields its items in reaches nothing but the balances and
the address ledgers. A double click on the wallet view opens the wallet listed at that row. Events
write nine fields and no others, and the balance list, once a tick replaced it, never comes back.
-/

namespace Armory.Runs
open Armory.Types Armory.Window Armory.LoadWallets Armory.LedgerSort Armory.CombinedLedger
  Armory.Blockchain Armory.Heartbeat Armory.Replay Armory.System

/-! ## One tick -/

/-- A relation between windows that the block check's write of the top height, each balance
read's write of one balance, and a rebuild keep, reflexive and transitive, is kept by a tick,
wherever the tick stops. -/
theorem heartbeat_keeps (R : MainWindow → MainWindow → Prop) (refl : ∀ s, R s s)
    (trans : ∀ {a b c}, R a b → R b c → R a c) (determineWalletType : Wallet → WalletType) (bdm : Bdm)
    (net : NetworkingFactory) (iter : IterOrder) (s : MainWindow)
    (checked : ∀ a : MainWindow, R a { a with latestBlockNum := bdm.topBlockHeight })
    (balanced : ∀ (a : MainWindow) (balance : Int), R a { a with walletBalances := .scalar balance })
    (rebuilt : ∀ a, R a (createCombinedLedger determineWalletType bdm net none true a).state) :
    R s (step determineWalletType s (.heartbeat bdm net iter)) := by
  have checks : R s (checkNewBlocks bdm s).state := by
    rcases checkNewBlocks_cases bdm s with same | moved
    · rw [same]
      exact refl s
    · rw [moved]
      exact checked s
  have reads : ∀ item (a : MainWindow), R a (updateBalance bdm a item).state := fun item a => by
    unfold updateBalance
    cases bdm.getBalance item.1 with
    | error => exact refl a
    | ok balance => exact balanced a balance
  exact Outcome.rel_andThen R trans checks fun a => Outcome.rel_andThen R trans
    (forEach_rel R refl trans (fun item _ => reads item) a)
    (forEach_rel R refl trans fun func member => (List.mem_singleton.mp member) ▸ rebuilt)

/-! ## What the window shows -/

/-- What a window shows: the count of its combined ledger, the totals of that ledger at some block
height in the labels, and as the ledger itself the sorted ledger of the checked selection as some
engine reported it, or nothing when the window has no ledger slots. -/
structure Displayed (determineWalletType : Wallet → WalletType) (s : MainWindow) : Prop where
  size : s.ledgerSize = s.combinedLedger.length
  totals : ∃ height, (s.lblTotalFunds, s.lblUnconfirmed) = ledgerTotals height s.combinedLedger
  collected : s.walletLedgers ≠ [] → ∃ bdm ids, selectedIDs determineWalletType s = .ok ids ∧
    s.combinedLedger = sortByEntryReverse (taggedLedgers bdm ids)
  unslotted : s.walletLedgers = [] → s.combinedLedger = []

theorem Displayed.sorted {determineWalletType : Wallet → WalletType} {s : MainWindow}
    (displayed : Displayed determineWalletType s) : s.combinedLedger.Sorted notBelow := by
  by_cases unslotted : s.walletLedgers = []
  · rw [displayed.unslotted unslotted]
    exact List.sorted_nil
  · obtain ⟨bdm, ids, -, shown⟩ := displayed.collected unslotted
    rw [shown]
    exact sortByEntryReverse_sorted _

/-- The block check and the balance loop write nothing the window shows. -/
theorem Displayed.unshown {determineWalletType : Wallet → WalletType} {s : MainWindow}
    (displayed : Displayed determineWalletType s) (height : Nat) (balances : Balances) :
    Displayed determineWalletType { s with latestBlockNum := height, walletBalances := balances } :=
  ⟨displayed.size, displayed.totals, displayed.collected, displayed.unslotted⟩

/-- With no ledger slots, collecting a registered wallet raises `IndexError`, leaving the window. -/
theorem combineWallet_unslotted (bdm : Bdm) {s : MainWindow} (registry : Registry s)
    (unslotted : s.walletLedgers = []) {wltID : WalletID} (member : wltID ∈ s.walletIDList) :
    combineWallet bdm s wltID = ⟨s, some .indexError⟩ := by
  obtain ⟨wlt, found⟩ := Option.isSome_iff_exists.mp
    ((lookup_isSome_iff s.walletMap wltID).mpr (registry.mapKeys ▸ member))
  simp [combineWallet, found, registry.indices wltID member, unslotted]

/-- Without ledger slots, a rebuild of a selection that is not empty raises `IndexError` at its
first wallet, with the combined ledger cleared. -/
theorem createCombinedLedger_unslotted (determineWalletType : Wallet → WalletType) (bdm : Bdm)
    (net : NetworkingFactory) {s : MainWindow} (registry : Registry s) (empty : s.walletLedgers = [])
    {wltID : WalletID} {rest : List WalletID} (resolved : selectedIDs determineWalletType s = .ok (wltID :: rest))
    (member : wltID ∈ s.walletIDList) :
    createCombinedLedger determineWalletType bdm net none true s = ⟨{ s with combinedLedger := [] }, some .indexError⟩ := by
  simp only [createCombinedLedger, resolved, Option.elim, forEach_cons]
  rw [combineWallet_unslotted bdm (s := { s with combinedLedger := [] }) (registry.congr ⟨rfl, rfl, rfl, rfl⟩)
    empty member]
  rfl

/-- A rebuild of an empty selection publishes the empty ledger, zero totals and an empty table. -/
theorem createCombinedLedger_empty (determineWalletType : Wallet → WalletType) (bdm : Bdm)
    (net : NetworkingFactory) {s : MainWindow} (resolved : selectedIDs determineWalletType s = .ok []) :
    createCombinedLedger determineWalletType bdm net none true s = ⟨{ s with
      combinedLedger := [], ledgerSize := 0, lblTotalFunds := 0, lblUnconfirmed := 0, ledgerTable := [] }, none⟩ := by
  simp only [createCombinedLedger, resolved, Option.elim, forEach_nil, Outcome.andThen_ok]
  rfl

/-- A rebuild on a consistent window shows the sorted ledger of the selection, or, with no ledger
slots, keeps showing nothing. -/
theorem createCombinedLedger_displayed (determineWalletType : Wallet → WalletType) (bdm : Bdm)
    (net : NetworkingFactory) {s : MainWindow} (consistent : Consistent s)
    (unslotted : s.walletLedgers = [] → Displayed determineWalletType s) :
    Displayed determineWalletType (createCombinedLedger determineWalletType bdm net none true s).state := by
  obtain ⟨ids, resolved, registeredIDs⟩ := selectedIDs_resolves determineWalletType consistent.registry
  have rewrites := createCombinedLedger_rewrites determineWalletType bdm net none true s
  rcases consistent.slots with sized | empty
  · obtain ⟨shown, size, totals⟩ := createCombinedLedger_published determineWalletType bdm net
      consistent.registry sized none resolved registeredIDs true
    have selected := selectedIDs_congr determineWalletType ((SameReads.refl s).of_rewrites (.refl s) rewrites)
    refine ⟨size, ⟨_, totals⟩, fun _ => ⟨bdm, ids, selected.trans resolved, shown⟩, fun none => ?_⟩
    have noIDs : s.walletIDList = [] := by
      rw [← List.length_eq_zero, ← sized, ← rewrites.frame.slots, none, List.length_nil]
    obtain rfl : ids = [] := List.eq_nil_iff_forall_not_mem.mpr fun id member => by
      simpa [noIDs] using registeredIDs id member
    rw [shown]
    rfl
  · have empty : s.walletLedgers = [] := List.length_eq_zero.mp empty
    have displayed := unslotted empty
    cases ids with
    | nil =>
      rw [createCombinedLedger_empty determineWalletType bdm net resolved]
      exact ⟨rfl, ⟨s.latestBlockNum, rfl⟩, fun slotted => absurd empty slotted, fun _ => rfl⟩
    | cons wltID rest =>
      rw [createCombinedLedger_unslotted determineWalletType bdm net consistent.registry empty resolved
        (registeredIDs wltID (List.mem_cons_self _ _))]
      have cleared : { s with combinedLedger := [] } = s := by rw [← displayed.unslotted empty]
      rw [cleared]
      exact displayed

/-- Each event keeps what a consistent window shows. -/
theorem react_displayed (determineWalletType : Wallet → WalletType) {s : MainWindow}
    (consistent : Consistent s) (displayed : Displayed determineWalletType s) (event : Event) :
    Displayed determineWalletType (step determineWalletType s event) := by
  cases event with
  | heartbeat bdm net iter =>
    let Shown := fun a b : MainWindow =>
      Consistent a ∧ Displayed determineWalletType a → Consistent b ∧ Displayed determineWalletType b
    exact (heartbeat_keeps Shown (fun _ => id) (fun first second => second ∘ first) determineWalletType bdm net iter s
      (fun a ⟨consistent, displayed⟩ =>
        ⟨consistent.of_same ⟨rfl, rfl, rfl, rfl⟩ rfl, displayed.unshown _ a.walletBalances⟩)
      (fun a _ ⟨consistent, displayed⟩ =>
        ⟨consistent.of_same ⟨rfl, rfl, rfl, rfl⟩ rfl, displayed.unshown a.latestBlockNum _⟩)
      (fun _ ⟨consistent, displayed⟩ => ⟨consistent.of_frame (createCombinedLedger_frame _ _ _ _ _ _),
        createCombinedLedger_displayed determineWalletType bdm net consistent fun _ => displayed⟩)
      ⟨consistent, displayed⟩).2
  | clicked selection bdm net =>
    exact createCombinedLedger_displayed determineWalletType bdm net
      (consistent.of_same ⟨rfl, rfl, rfl, rfl⟩ rfl) fun empty =>
        ⟨displayed.size, displayed.totals, fun slotted => absurd empty slotted, displayed.unslotted⟩

/-- The sync loop writes the balances, the address ledgers and the ledger slots, and nothing else. -/
theorem syncWallets_frame (bdm : Bdm) (items : List (WalletID × Wallet)) (s : MainWindow) :
    ∃ balances subLedgers ledgers, (forEach (syncWallet bdm) items s).state =
      { s with walletBalances := balances, walletSubLedgers := subLedgers, walletLedgers := ledgers } := by
  let Synced := fun a b : MainWindow => ∃ balances subLedgers ledgers,
    b = { a with walletBalances := balances, walletSubLedgers := subLedgers, walletLedgers := ledgers }
  refine forEach_rel Synced (fun a => ⟨_, _, _, rfl⟩) ?_ (fun item _ a => ?_) s
  · rintro a b c ⟨_, _, _, rfl⟩ ⟨_, _, _, rfl⟩
    exact ⟨_, _, _, rfl⟩
  · rcases syncWallet_cases bdm a item with ⟨same, -⟩ | ⟨_, _, _, _, _, _, _, synced⟩
    · exact ⟨_, _, _, by rw [same]⟩
    · exact ⟨_, _, _, by rw [synced]⟩

/-- A build that returns normally shows the sorted ledger of every wallet, with "All wallets"
checked, or nothing when the engine was not initialized. -/
theorem init_displayed (determineWalletType : Wallet → WalletType) (readWalletFile : Path → Option Wallet)
    (armoryHomeDir : String) (listing : List String) (settings : Settings) (bdm : Bdm)
    (net : NetworkingFactory) (iter : IterOrder)
    (normal : (init determineWalletType readWalletFile armoryHomeDir listing settings bdm net iter).raised = none) :
    Displayed determineWalletType
      (init determineWalletType readWalletFile armoryHomeDir listing settings bdm net iter).state := by
  obtain ⟨loaded, synced, ledgerTable, built⟩ := init_of_normal determineWalletType readWalletFile
    armoryHomeDir listing settings bdm net iter normal
  obtain ⟨registry, empty, -, -⟩ := loadWalletsAndSettings_loaded _ _ _ _ _ loaded
  have fresh : Displayed determineWalletType
      { (loadWalletsAndSettings readWalletFile armoryHomeDir listing settings blank).state with
        ledgerTable := [], checked := .allWallets } := by
    rw [loadWalletsAndSettings_parsed _ _ _ _ _ (loadWalletPaths_parses _ _ _ _ _ loaded)]
    exact ⟨rfl, ⟨0, rfl⟩, fun slotted => absurd rfl slotted, fun _ => rfl⟩
  rw [built]
  suffices shown : Displayed determineWalletType (loadBlockchain determineWalletType bdm net iter
      { (loadWalletsAndSettings readWalletFile armoryHomeDir listing settings blank).state with
        ledgerTable := [], checked := .allWallets }).state from
    ⟨shown.size, shown.totals, shown.collected, shown.unslotted⟩
  by_cases initialized : bdm.isInitialized
  · obtain ⟨looped, rebuilt⟩ := loadBlockchain_of_initialized determineWalletType bdm net iter _ initialized synced
    have consistent := syncWallets_consistent bdm iter
      (s := { (loadWalletsAndSettings readWalletFile armoryHomeDir listing settings blank).state with
        ledgerTable := [], checked := .allWallets, latestBlockNum := bdm.topBlockHeight
        statusMessage := "Syncing wallets with blockchain..." })
      (registry.congr ⟨rfl, rfl, rfl, rfl⟩) empty looped
    obtain ⟨balances, subLedgers, ledgers, framed⟩ := syncWallets_frame bdm _ _
    rw [rebuilt]
    rw [framed] at consistent ⊢
    have shown := createCombinedLedger_displayed determineWalletType bdm net consistent fun unslotted =>
      ⟨fresh.size, fresh.totals, fun slotted => absurd unslotted slotted, fun _ => fresh.unslotted empty⟩
    exact ⟨rfl, shown.totals, shown.collected, shown.unslotted⟩
  · simp only [loadBlockchain, if_neg initialized]
    exact ⟨fresh.size, fresh.totals, fresh.collected, fresh.unslotted⟩

/-- Every window `__init__` returns, and every window any run of ticks and clicks makes of it,
shows as its combined ledger the ledger of the checked selection as some engine reported it,
sorted newest first, or nothing when the window has no ledger slots. `ledgerSize` is that
ledger's length and the labels are its totals at some block height. -/
theorem reachable_displayed {determineWalletType : Wallet → WalletType} {s : MainWindow}
    (reachable : Reachable determineWalletType s) :
    Displayed determineWalletType s ∧ s.combinedLedger.Sorted notBelow := by
  have displayed : Displayed determineWalletType s := by
    induction reachable with
    | built normal => exact init_displayed _ _ _ _ _ _ _ _ normal
    | event event reachable displayed => exact react_displayed _ reachable.consistent displayed event
  exact ⟨displayed, displayed.sorted⟩

theorem reachable_displayed_loadedA :
    Reachable plainType loadedA ∧
      (Displayed plainType loadedA ∧ loadedA.combinedLedger.Sorted notBelow) :=
  ⟨loadedA_reachable, reachable_displayed loadedA_reachable⟩

/-! ## An event handled again -/

/-- An event handled again at once raises the same and leaves the same window as the first time:
a tick of an engine that has not moved, whatever the tick raised, or a click on the button just
clicked. Any number of such repeats leave the window as one did. -/
theorem react_idempotent (determineWalletType : Wallet → WalletType) (s : MainWindow) (event : Event) :
    react determineWalletType (step determineWalletType s event) event = react determineWalletType s event ∧
      ∀ n, run determineWalletType s (List.replicate (n + 1) event) = step determineWalletType s event := by
  have replay : ∀ s, react determineWalletType (step determineWalletType s event) event =
      react determineWalletType s event := fun s => by
    cases event with
    | heartbeat bdm net iter => exact heartbeatSteps_replay determineWalletType bdm net iter s
    | clicked selection bdm net =>
      obtain ⟨_, _, _, _, _, _, -, clicked⟩ :=
        createCombinedLedger_rewrites determineWalletType bdm net none true { s with checked := selection }
      have checked : { (createCombinedLedger determineWalletType bdm net none true
          { s with checked := selection }).state with checked := selection } =
          (createCombinedLedger determineWalletType bdm net none true { s with checked := selection }).state := by
        rw [clicked]
      simp only [step, react, checked, createCombinedLedger_replay]
  refine ⟨replay s, fun n => ?_⟩
  induction n generalizing s with
  | zero => rfl
  | succ n ih =>
    show run determineWalletType (step determineWalletType s event) (List.replicate (n + 1) event) = _
    rw [ih, step, replay]
    rfl

/-! ## What the dict's order reaches -/

/-- Two events alike but for the order the wallet dict yields its items in during a tick. -/
inductive SameButOrder : Event → Event → Prop where
  | heartbeat (bdm : Bdm) (net : NetworkingFactory) (iter iter' : IterOrder) :
      SameButOrder (.heartbeat bdm net iter) (.heartbeat bdm net iter')
  | clicked (selection : Selection) (bdm : Bdm) (net : NetworkingFactory) :
      SameButOrder (.clicked selection bdm net) (.clicked selection bdm net)

theorem step_orderOnly (determineWalletType : Wallet → WalletType) {s t : MainWindow} (related : OrderOnly s t)
    {event event' : Event} (same : SameButOrder event event') :
    OrderOnly (step determineWalletType s event) (step determineWalletType t event') := by
  cases same with
  | heartbeat bdm net iter iter' => exact heartbeatSteps_orderOnly determineWalletType bdm net iter iter' related
  | clicked selection bdm net =>
    obtain ⟨balances, subLedgers, rfl⟩ := related
    exact (createCombinedLedger_orderOnly determineWalletType bdm net none true
      (s := { s with checked := selection }) ⟨balances, subLedgers, rfl⟩).2

theorem run_orderOnly (determineWalletType : Wallet → WalletType) {events events' : List Event}
    (same : List.Forall₂ SameButOrder events events') :
    ∀ {s t : MainWindow}, OrderOnly s t → OrderOnly (run determineWalletType s events) (run determineWalletType t events') := by
  induction same with
  | nil => exact id
  | cons first _ ih => exact fun related => ih (step_orderOnly determineWalletType related first)

/-- On a synced registry, a rebuild of every registered wallet fills slot `i` with the ledger of
the wallet listed `i`-th, whatever the slots held. -/
theorem createCombinedLedger_all (determineWalletType : Wallet → WalletType) (bdm : Bdm)
    (net : NetworkingFactory) {s : MainWindow} (registry : Registry s)
    (sized : s.walletLedgers.length = s.walletIDList.length) :
    createCombinedLedger determineWalletType bdm net (some s.walletIDList) true s =
      publishLedger bdm net { s with
        walletLedgers := s.walletIDList.map bdm.getTxLedger, combinedLedger := taggedLedgers bdm s.walletIDList } := by
  obtain ⟨ledgers, length, run⟩ := createCombinedLedger_collects determineWalletType bdm net registry sized
    (some _) rfl (fun _ member => member) true
  have slots := createCombinedLedger_slots determineWalletType bdm net registry sized (some _) rfl
    (fun _ member => member) true
  have kept : (createCombinedLedger determineWalletType bdm net (some s.walletIDList) true s).state.walletLedgers =
      ledgers := by
    obtain ⟨table, published⟩ := publishLedger_state bdm net
      { s with walletLedgers := ledgers, combinedLedger := taggedLedgers bdm s.walletIDList }
    rw [run, published]
    rfl
  have filled : ledgers = s.walletIDList.map bdm.getTxLedger := by
    refine List.ext_getElem? fun j => ?_
    by_cases bound : j < s.walletIDList.length
    · have written := slots _ (List.getElem_mem bound)
      rw [List.indexOf_getElem registry.nodup, if_pos (List.getElem_mem bound), kept] at written
      rw [written, List.getElem?_map, List.getElem?_eq_getElem bound, Option.map_some']
    · rw [List.getElem?_eq_none (by omega), List.getElem?_eq_none (by simp only [List.length_map]; omega)]
  rw [run, filled]

/-- Two loads of one registry in two dict orders, both returning normally, differ at most in the
balances and the address ledgers. -/
theorem loadBlockchain_orderOnly (determineWalletType : Wallet → WalletType) (bdm : Bdm)
    (net : NetworkingFactory) (iter iter' : IterOrder) {s : MainWindow} (registry : Registry s)
    (empty : s.walletLedgers = [])
    (normal : (loadBlockchain determineWalletType bdm net iter s).raised = none)
    (normal' : (loadBlockchain determineWalletType bdm net iter' s).raised = none) :
    OrderOnly (loadBlockchain determineWalletType bdm net iter s).state
      (loadBlockchain determineWalletType bdm net iter' s).state := by
  by_cases initialized : bdm.isInitialized
  · obtain ⟨looped, rebuilt⟩ := loadBlockchain_of_initialized determineWalletType bdm net iter s initialized normal
    obtain ⟨looped', rebuilt'⟩ :=
      loadBlockchain_of_initialized determineWalletType bdm net iter' s initialized normal'
    have start : Registry
        { s with latestBlockNum := bdm.topBlockHeight, statusMessage := "Syncing wallets with blockchain..." } :=
      registry.congr ⟨rfl, rfl, rfl, rfl⟩
    have sized := syncWallets_sized bdm iter start empty looped
    have sized' := syncWallets_sized bdm iter' start empty looped'
    obtain ⟨balances, subLedgers, ledgers, framed⟩ := syncWallets_frame bdm (iter.order s.walletMap)
      { s with latestBlockNum := bdm.topBlockHeight, statusMessage := "Syncing wallets with blockchain..." }
    obtain ⟨balances', subLedgers', ledgers', framed'⟩ := syncWallets_frame bdm (iter'.order s.walletMap)
      { s with latestBlockNum := bdm.topBlockHeight, statusMessage := "Syncing wallets with blockchain..." }
    rw [rebuilt, rebuilt']
    rw [framed] at sized ⊢
    rw [framed'] at sized' ⊢
    rw [createCombinedLedger_all determineWalletType bdm net (by exact start.congr ⟨rfl, rfl, rfl, rfl⟩) sized,
      createCombinedLedger_all determineWalletType bdm net (by exact start.congr ⟨rfl, rfl, rfl, rfl⟩) sized']
    obtain ⟨balances'', subLedgers'', published⟩ := publishLedger_orderOnly bdm net
      (s := { s with
        latestBlockNum := bdm.topBlockHeight, statusMessage := "Syncing wallets with blockchain..."
        walletBalances := balances, walletSubLedgers := subLedgers
        walletLedgers := s.walletIDList.map bdm.getTxLedger, combinedLedger := taggedLedgers bdm s.walletIDList })
      ⟨balances', subLedgers', rfl⟩
    exact ⟨balances'', subLedgers'', congrArg (fun w : MainWindow => { w with
      ledgerSize := w.combinedLedger.length, statusMessage := "Blockchain loaded, wallets sync\x27d!" }) published⟩
  · have same : loadBlockchain determineWalletType bdm net iter' s = loadBlockchain determineWalletType bdm net iter s := by
      simp only [loadBlockchain, if_neg initialized]
    rw [same]
    exact .refl _

/-- The last step of `__init__`, the table of the combined ledger, reads neither the balances nor
the address ledgers. -/
theorem ledgerTable_orderOnly (bdm : Bdm) (net : NetworkingFactory) {s t : MainWindow} (related : OrderOnly s t) :
    OrderOnly (withResult s (convertLedgerToTable bdm net s s.combinedLedger) fun ledgerTable =>
        (⟨{ s with ledgerTable }, none⟩ : Outcome MainWindow)).state
      (withResult t (convertLedgerToTable bdm net t t.combinedLedger) fun ledgerTable =>
        (⟨{ t with ledgerTable }, none⟩ : Outcome MainWindow)).state := by
  obtain ⟨balances, subLedgers, rfl⟩ := related
  have same : convertLedgerToTable bdm net { s with walletBalances := balances, walletSubLedgers := subLedgers }
      s.combinedLedger = convertLedgerToTable bdm net s s.combinedLedger :=
    convertLedgerToTable_congr bdm net rfl rfl rfl _
  rw [same]
  cases convertLedgerToTable bdm net s s.combinedLedger <;> exact ⟨balances, subLedgers, rfl⟩

/-- Two builds from the same files, settings and engine in two dict orders, both returning
normally, differ at most in the balances and the address ledgers. -/
theorem init_orderOnly (determineWalletType : Wallet → WalletType) (readWalletFile : Path → Option Wallet)
    (armoryHomeDir : String) (listing : List String) (settings : Settings) (bdm : Bdm)
    (net : NetworkingFactory) {iter iter' : IterOrder}
    (normal : (init determineWalletType readWalletFile armoryHomeDir listing settings bdm net iter).raised = none)
    (normal' : (init determineWalletType readWalletFile armoryHomeDir listing settings bdm net iter').raised = none) :
    OrderOnly (init determineWalletType readWalletFile armoryHomeDir listing settings bdm net iter).state
      (init determineWalletType readWalletFile armoryHomeDir listing settings bdm net iter').state := by
  obtain ⟨loaded, synced, -, -⟩ := init_of_normal determineWalletType readWalletFile armoryHomeDir listing
    settings bdm net iter normal
  obtain ⟨-, synced', -, -⟩ := init_of_normal determineWalletType readWalletFile armoryHomeDir listing
    settings bdm net iter' normal'
  obtain ⟨registry, empty, -, -⟩ := loadWalletsAndSettings_loaded _ _ _ _ _ loaded
  unfold init
  rw [Outcome.andThen_of_ok _ loaded, Outcome.andThen_of_ok _ loaded]
  exact OrderOnly.andThen (by rw [synced, synced'])
    (loadBlockchain_orderOnly determineWalletType bdm net iter iter' (registry.congr ⟨rfl, rfl, rfl, rfl⟩) empty
      synced synced') (ledgerTable_orderOnly bdm net)

/-- The order the wallet dict yields its items in reaches only the balances and the address
ledgers. Two builds from the same files, settings and engine in two dict orders, both returning
normally, then the same ticks and clicks, each tick perhaps in its own order, end in windows that
agree on every other field: the registry, the ledger slots, the combined ledger, its count, the
labels, the table, the block height and the selection. -/
theorem run_dict_order (determineWalletType : Wallet → WalletType) (readWalletFile : Path → Option Wallet)
    (armoryHomeDir : String) (listing : List String) (settings : Settings) (bdm : Bdm)
    (net : NetworkingFactory) (iter iter' : IterOrder)
    (normal : (init determineWalletType readWalletFile armoryHomeDir listing settings bdm net iter).raised = none)
    (normal' : (init determineWalletType readWalletFile armoryHomeDir listing settings bdm net iter').raised = none)
    {events events' : List Event} (same : List.Forall₂ SameButOrder events events') :
    ∃ balances subLedgers,
      run determineWalletType
          (init determineWalletType readWalletFile armoryHomeDir listing settings bdm net iter').state events' =
        { run determineWalletType
            (init determineWalletType readWalletFile armoryHomeDir listing settings bdm net iter).state events with
          walletBalances := balances, walletSubLedgers := subLedgers } :=
  run_orderOnly determineWalletType same
    (init_orderOnly determineWalletType readWalletFile armoryHomeDir listing settings bdm net normal normal')

theorem run_dict_order_reversedTwo :
    (init plainType readTwoWallets "/w" [] twoWalletSettings addressBdm ⟨[], []⟩ insertionOrder).raised = none ∧
      (init plainType readTwoWallets "/w" [] twoWalletSettings addressBdm ⟨[], []⟩ reversedOrder).raised = none ∧
      List.Forall₂ SameButOrder [.heartbeat addressBdm ⟨[], []⟩ insertionOrder]
        [.heartbeat addressBdm ⟨[], []⟩ reversedOrder] ∧
      ∃ balances subLedgers,
        run plainType reversedTwo [.heartbeat addressBdm ⟨[], []⟩ reversedOrder] =
          { run plainType
              (init plainType readTwoWallets "/w" [] twoWalletSettings addressBdm ⟨[], []⟩ insertionOrder).state
              [.heartbeat addressBdm ⟨[], []⟩ insertionOrder] with
            walletBalances := balances, walletSubLedgers := subLedgers } :=
  ⟨rfl, rfl, .cons (.heartbeat _ _ _ _) .nil,
    run_dict_order plainType readTwoWallets "/w" [] twoWalletSettings addressBdm ⟨[], []⟩ insertionOrder
      reversedOrder rfl rfl (.cons (.heartbeat _ _ _ _) .nil)⟩

/-! ## The wallet details dialog -/

/-- No event touches the registry. -/
theorem step_sameRegistry (determineWalletType : Wallet → WalletType) (s : MainWindow) (event : Event) :
    SameRegistry s (step determineWalletType s event) := by
  cases event with
  | heartbeat bdm net iter =>
    exact heartbeat_keeps SameRegistry .refl .trans determineWalletType bdm net iter s
      (fun _ => ⟨rfl, rfl, rfl, rfl⟩) (fun _ _ => ⟨rfl, rfl, rfl, rfl⟩)
      (fun a => (createCombinedLedger_frame determineWalletType bdm net none true a).registry)
  | clicked selection bdm net =>
    exact SameRegistry.trans (t := { s with checked := selection }) ⟨rfl, rfl, rfl, rfl⟩
      (createCombinedLedger_frame determineWalletType bdm net none true _).registry

theorem reachable_filedByID {determineWalletType : Wallet → WalletType} {s : MainWindow}
    (reachable : Reachable determineWalletType s) : FiledByID s := by
  induction reachable with
  | built normal =>
    obtain ⟨loaded, -, ledgerTable, built⟩ := init_of_normal _ _ _ _ _ _ _ _ normal
    rw [built]
    exact (loadWalletsAndSettings_filedByID _ _ _ _ _ loaded).of_map (loadBlockchain_sameRegistry _ _ _ _ _).map
  | event event _ filed => exact filed.of_map (step_sameRegistry _ _ event).map

/-- In every reachable window, a double click on row `row` of the wallet view opens the wallet
listed at that row: the wallet whose own ID the row lists, and whose balance and ledger slots are
at index `row`. A row past the list raises `IndexError`; no row raises `KeyError`. -/
theorem reachable_execDlgWalletDetails {determineWalletType : Wallet → WalletType} {s : MainWindow}
    (reachable : Reachable determineWalletType s) (row : Nat) :
    (∀ id, s.walletIDList[row]? = some id → ∃ wlt, execDlgWalletDetails s row = .ok wlt ∧
        wlt.wltUniqueIDB58 = id ∧ s.walletIndices.lookup id = some row) ∧
      (s.walletIDList[row]? = none → execDlgWalletDetails s row = .error .indexError) :=
  execDlgWalletDetails_registered reachable.consistent.registry (reachable_filedByID reachable) row

theorem reachable_execDlgWalletDetails_reversedTwo :
    Reachable plainType reversedTwo ∧
      ((∀ id, reversedTwo.walletIDList[1]? = some id → ∃ wlt, execDlgWalletDetails reversedTwo 1 = .ok wlt ∧
          wlt.wltUniqueIDB58 = id ∧ reversedTwo.walletIndices.lookup id = some 1) ∧
        (reversedTwo.walletIDList[1]? = none → execDlgWalletDetails reversedTwo 1 = .error .indexError)) :=
  have reachable : Reachable plainType reversedTwo := .built rfl
  ⟨reachable, reachable_execDlgWalletDetails reachable 1⟩

/-! ## What events write -/

/-- `t` is `s` with only what ticks and clicks write changed: the balances, the block height, the
ledger slots (as many as before), the combined ledger, its count, the labels, the table and the
selection. -/
def EventWrites (s t : MainWindow) : Prop :=
  ∃ (balances : Balances) (height : Nat) (ledgers : List (List LedgerEntry))
    (combined : List (WalletID × LedgerEntry)) (size : Nat) (funds unconfirmed : Int) (table : List Row)
    (checked : Selection), ledgers.length = s.walletLedgers.length ∧
      t = { s with
        walletBalances := balances, latestBlockNum := height, walletLedgers := ledgers
        combinedLedger := combined, ledgerSize := size, lblTotalFunds := funds, lblUnconfirmed := unconfirmed
        ledgerTable := table, checked := checked }

theorem EventWrites.refl (s : MainWindow) : EventWrites s s := ⟨_, _, _, _, _, _, _, _, _, rfl, rfl⟩

theorem EventWrites.trans {s t u : MainWindow} (first : EventWrites s t) (second : EventWrites t u) :
    EventWrites s u := by
  obtain ⟨_, _, _, _, _, _, _, _, _, slots, rfl⟩ := first
  obtain ⟨_, _, _, _, _, _, _, _, _, slots', rfl⟩ := second
  exact ⟨_, _, _, _, _, _, _, _, _, slots'.trans slots, rfl⟩

theorem eventWrites_of_rewrites {s t : MainWindow} (rewrites : Rewrites s t) : EventWrites s t := by
  obtain ⟨_, _, _, _, _, _, slots, rfl⟩ := rewrites
  exact ⟨_, _, _, _, _, _, _, _, _, slots, rfl⟩

theorem step_eventWrites (determineWalletType : Wallet → WalletType) (s : MainWindow) (event : Event) :
    EventWrites s (step determineWalletType s event) := by
  cases event with
  | heartbeat bdm net iter =>
    exact heartbeat_keeps EventWrites .refl .trans determineWalletType bdm net iter s
      (fun _ => ⟨_, _, _, _, _, _, _, _, _, rfl, rfl⟩) (fun _ _ => ⟨_, _, _, _, _, _, _, _, _, rfl, rfl⟩)
      (fun a => eventWrites_of_rewrites (createCombinedLedger_rewrites _ _ _ _ _ a))
  | clicked selection bdm net =>
    exact EventWrites.trans (t := { s with checked := selection }) ⟨_, _, _, _, _, _, _, _, _, rfl, rfl⟩
      (eventWrites_of_rewrites (createCombinedLedger_rewrites determineWalletType bdm net none true _))

/-- After a window is built, ticks and clicks write only the balances, the block height, the
ledger slots, the combined ledger, its count, the labels, the table and the selection. Over any
run of events the registry, the offline marks, the address ledgers, the settings, the user mode and
the status message stay as `__init__` left them, and the number of ledger slots does not change. -/
theorem run_eventWrites (determineWalletType : Wallet → WalletType) (s : MainWindow) (events : List Event) :
    EventWrites s (run determineWalletType s events) := by
  induction events generalizing s with
  | nil => exact .refl s
  | cons event rest ih => exact (step_eventWrites determineWalletType s event).trans (ih _)

/-! ## The balances -/

/-- What an event can do to `walletBalances`: leave it, or put one wallet's balance in its place. -/
def BalancesKept (s t : MainWindow) : Prop :=
  t.walletBalances = s.walletBalances ∨ ∃ balance, t.walletBalances = .scalar balance

theorem BalancesKept.refl (s : MainWindow) : BalancesKept s s := .inl rfl

theorem BalancesKept.trans {s t u : MainWindow} (first : BalancesKept s t) (second : BalancesKept t u) :
    BalancesKept s u := by
  rcases second with same | scalar
  · rw [BalancesKept, same]
    exact first
  · exact .inr scalar

theorem step_balances (determineWalletType : Wallet → WalletType) (s : MainWindow) (event : Event) :
    BalancesKept s (step determineWalletType s event) := by
  cases event with
  | heartbeat bdm net iter =>
    exact heartbeat_keeps BalancesKept .refl .trans determineWalletType bdm net iter s (fun _ => .inl rfl)
      (fun _ balance => .inr ⟨balance, rfl⟩) (fun a => .inl (createCombinedLedger_rewrites _ _ _ _ _ a).balances)
  | clicked selection bdm net =>
    exact .inl (createCombinedLedger_rewrites determineWalletType bdm net none true _).balances

/-- No tick or click puts a list back into `walletBalances` or changes an entry of one: over any
run of events from any window, `walletBalances` ends as it started or as a single number. -/
theorem run_balances (determineWalletType : Wallet → WalletType) (s : MainWindow) (events : List Event) :
    (run determineWalletType s events).walletBalances = s.walletBalances ∨
      ∃ balance, (run determineWalletType s events).walletBalances = .scalar balance := by
  induction events generalizing s with
  | nil => exact .inl rfl
  | cons event rest ih => exact (step_balances determineWalletType s event).trans (ih _)

/-- A build that returns normally leaves a balance list with one entry per registered wallet,
whether or not the engine was initialized. -/
theorem init_balances_sized (determineWalletType : Wallet → WalletType) (readWalletFile : Path → Option Wallet)
    (armoryHomeDir : String) (listing : List String) (settings : Settings) (bdm : Bdm)
    (net : NetworkingFactory) (iter : IterOrder)
    (normal : (init determineWalletType readWalletFile armoryHomeDir listing settings bdm net iter).raised = none) :
    let built := (init determineWalletType readWalletFile armoryHomeDir listing settings bdm net iter).state
    ∃ entries, built.walletBalances = .list entries ∧ entries.length = built.walletIDList.length := by
  cases initialized : bdm.isInitialized with
  | true =>
    obtain ⟨entries, balances, length, -⟩ :=
      init_balances determineWalletType readWalletFile armoryHomeDir listing settings bdm net iter initialized normal
    exact ⟨entries, balances, length⟩
  | false =>
    obtain ⟨loaded, -, ledgerTable, built⟩ := init_of_normal determineWalletType readWalletFile
      armoryHomeDir listing settings bdm net iter normal
    obtain ⟨-, -, -, unsynced⟩ := loadWalletsAndSettings_loaded _ _ _ _ _ loaded
    dsimp only
    rw [built]
    simp only [loadBlockchain, initialized, if_false]
    exact ⟨_, unsynced, List.length_replicate _ _⟩

/-- In every reachable window `walletBalances` is a list with exactly one entry per registered
wallet, or the single number a tick assigned in its place. -/
theorem reachable_balances {determineWalletType : Wallet → WalletType} {s : MainWindow}
    (reachable : Reachable determineWalletType s) :
    (∃ entries, s.walletBalances = .list entries ∧ entries.length = s.walletIDList.length) ∨
      ∃ balance, s.walletBalances = .scalar balance := by
  induction reachable with
  | built normal => exact .inl (init_balances_sized _ _ _ _ _ _ _ _ normal)
  | event event _ sized =>
    rcases step_balances _ _ event with same | scalar
    · rw [same, (step_sameRegistry _ _ event).idList]
      exact sized
    · exact .inr scalar

theorem reachable_balances_loadedA :
    Reachable plainType loadedA ∧
      ((∃ entries, loadedA.walletBalances = .list entries ∧ entries.length = loadedA.walletIDList.length) ∨
        ∃ balance, loadedA.walletBalances = .scalar balance) :=
  ⟨loadedA_reachable, reachable_balances loadedA_reachable⟩

theorem step_slots (determineWalletType : Wallet → WalletType) (s : MainWindow) (event : Event) :
    (step determineWalletType s event).walletLedgers.length = s.walletLedgers.length := by
  obtain ⟨_, _, _, _, _, _, _, _, _, slots, written⟩ := step_eventWrites determineWalletType s event
  rw [written]
  exact slots

end Armory.Runs
