import Armory.Blockchain
import Armory.Heartbeat

/-!
The main window over its whole life. `__init__` builds it; after that it only reacts to events:
a call of `Heartbeat`, and a click on one of the three radio buttons, each connected to
`createCombinedLedger`. The reactor and Qt print an exception raised in an event and go on, so
the window keeps the fields assigned before it. The reachable windows are those `__init__`
returns and what any sequence of events makes of them.
-/

namespace Armory.System
open Armory.Types Armory.Window Armory.LoadWallets Armory.CombinedLedger Armory.Blockchain
  Armory.Heartbeat

/-- `ArmoryMainWindow.__init__`, the lines that touch the modelled fields: the wallets and
settings, the empty table and the checked "All wallets" button of the views, `loadBlockchain`,
and the table of the combined ledger. `net` is the factory `setupNetworking` builds. -/
def init (determineWalletType : Wallet → WalletType) (readWalletFile : Path → Option Wallet)
    (armoryHomeDir : String) (listing : List String) (settings : Settings) (bdm : Bdm)
    (net : NetworkingFactory) (iter : IterOrder) : Outcome MainWindow :=
  (loadWalletsAndSettings readWalletFile armoryHomeDir listing settings blank).andThen fun s =>
    (loadBlockchain determineWalletType bdm net iter { s with ledgerTable := [], checked := .allWallets }).andThen
      fun s => withResult s (convertLedgerToTable bdm net s s.combinedLedger) fun ledgerTable =>
        ⟨{ s with ledgerTable }, none⟩

/-- What can happen to a built window. -/
inductive Event where
  /-- A call of `Heartbeat`. The call that starts the heartbeat is not in src (the `callLater`
  of `__init__` is commented out), so a tick may come at any time. -/
  | heartbeat (bdm : Bdm) (net : NetworkingFactory) (iter : IterOrder)
  /-- A click on a radio button: Qt checks it, then its `clicked()` signal calls
  `createCombinedLedger()`. -/
  | clicked (selection : Selection) (bdm : Bdm) (net : NetworkingFactory)

/-- The engine an event meets. -/
def Event.bdm : Event → Bdm
  | .heartbeat bdm _ _ => bdm
  | .clicked _ bdm _ => bdm

/-- The networking factory an event meets. -/
def Event.net : Event → NetworkingFactory
  | .heartbeat _ net _ => net
  | .clicked _ _ net => net

/-- The window's reaction to an event, with what it raised. -/
def react (determineWalletType : Wallet → WalletType) (s : MainWindow) : Event → Outcome MainWindow
  | .heartbeat bdm net iter =>
    heartbeatSteps (extraHeartbeatFunctions determineWalletType bdm net) bdm iter s
  | .clicked selection bdm net =>
    createCombinedLedger determineWalletType bdm net none true { s with checked := selection }

def step (determineWalletType : Wallet → WalletType) (s : MainWindow) (event : Event) : MainWindow :=
  (react determineWalletType s event).state

def run (determineWalletType : Wallet → WalletType) (s : MainWindow) (events : List Event) :
    MainWindow :=
  events.foldl (step determineWalletType) s

/-- The windows `__init__` returns, and what events make of them. -/
inductive Reachable (determineWalletType : Wallet → WalletType) : MainWindow → Prop where
  | built {readWalletFile : Path → Option Wallet} {armoryHomeDir : String} {listing : List String}
      {settings : Settings} {bdm : Bdm} {net : NetworkingFactory} {iter : IterOrder} :
      (init determineWalletType readWalletFile armoryHomeDir listing settings bdm net iter).raised = none →
      Reachable determineWalletType
        (init determineWalletType readWalletFile armoryHomeDir listing settings bdm net iter).state
  | event {s : MainWindow} (event : Event) :
      Reachable determineWalletType s → Reachable determineWalletType (step determineWalletType s event)

theorem Reachable.run {determineWalletType : Wallet → WalletType} {s : MainWindow}
    (reachable : Reachable determineWalletType s) (events : List Event) :
    Reachable determineWalletType (run determineWalletType s events) := by
  induction events generalizing s with
  | nil => exact reachable
  | cons event rest ih => exact ih (reachable.event event)

/-! ## The registry and the ledger slots -/

/-- A build that returns normally loaded the wallets and the blockchain normally, and the window
is the loaded one with its table set. -/
theorem init_of_normal (determineWalletType : Wallet → WalletType) (readWalletFile : Path → Option Wallet)
    (armoryHomeDir : String) (listing : List String) (settings : Settings) (bdm : Bdm)
    (net : NetworkingFactory) (iter : IterOrder)
    (normal : (init determineWalletType readWalletFile armoryHomeDir listing settings bdm net iter).raised = none) :
    let loaded := loadWalletsAndSettings readWalletFile armoryHomeDir listing settings blank
    let synced := loadBlockchain determineWalletType bdm net iter
      { loaded.state with ledgerTable := [], checked := .allWallets }
    loaded.raised = none ∧ synced.raised = none ∧ ∃ ledgerTable,
      (init determineWalletType readWalletFile armoryHomeDir listing settings bdm net iter).state =
        { synced.state with ledgerTable } := by
  unfold init at normal ⊢
  have loaded := Outcome.raised_of_andThen normal
  rw [Outcome.andThen_of_ok _ loaded] at normal ⊢
  have synced := Outcome.raised_of_andThen normal
  rw [Outcome.andThen_of_ok _ synced] at normal ⊢
  obtain ⟨ledgerTable, tabled⟩ := withResult_of_normal normal
  exact ⟨loaded, synced, ledgerTable, by rw [tabled]⟩

theorem init_consistent (determineWalletType : Wallet → WalletType) (readWalletFile : Path → Option Wallet)
    (armoryHomeDir : String) (listing : List String) (settings : Settings) (bdm : Bdm)
    (net : NetworkingFactory) (iter : IterOrder)
    (normal : (init determineWalletType readWalletFile armoryHomeDir listing settings bdm net iter).raised = none) :
    Consistent (init determineWalletType readWalletFile armoryHomeDir listing settings bdm net iter).state := by
  obtain ⟨loaded, synced, ledgerTable, built⟩ := init_of_normal determineWalletType readWalletFile
    armoryHomeDir listing settings bdm net iter normal
  obtain ⟨registry, empty, -, -⟩ := loadWalletsAndSettings_loaded _ _ _ _ _ loaded
  rw [built]
  exact (loadBlockchain_consistent determineWalletType bdm net iter
    (by exact registry.congr ⟨rfl, rfl, rfl, rfl⟩) (by exact empty) synced).of_same ⟨rfl, rfl, rfl, rfl⟩ rfl

/-- A window that `__init__` builds on an initialized engine holds a balance list with, at each
registered wallet's index, the balance the engine reports for that wallet, whatever order the
wallet dict yields its items in. -/
theorem init_balances (determineWalletType : Wallet → WalletType) (readWalletFile : Path → Option Wallet)
    (armoryHomeDir : String) (listing : List String) (settings : Settings) (bdm : Bdm)
    (net : NetworkingFactory) (iter : IterOrder) (initialized : bdm.isInitialized = true)
    (normal : (init determineWalletType readWalletFile armoryHomeDir listing settings bdm net iter).raised = none) :
    let built := (init determineWalletType readWalletFile armoryHomeDir listing settings bdm net iter).state
    ∃ entries, built.walletBalances = .list entries ∧ entries.length = built.walletIDList.length ∧
      ∀ id ∈ built.walletIDList, ∃ index balance, built.walletIndices.lookup id = some index ∧
        bdm.getBalance id = .ok balance ∧ entries[index]? = some balance := by
  obtain ⟨loaded, synced, ledgerTable, built⟩ := init_of_normal determineWalletType readWalletFile
    armoryHomeDir listing settings bdm net iter normal
  obtain ⟨registry, -, -, unsynced⟩ := loadWalletsAndSettings_loaded _ _ _ _ _ loaded
  obtain ⟨entries, balances, length, held⟩ := loadBlockchain_balances determineWalletType bdm net iter
    (by exact registry.congr ⟨rfl, rfl, rfl, rfl⟩) (by exact unsynced) initialized synced
  rw [built]
  dsimp only
  rw [(loadBlockchain_sameRegistry _ _ _ _ _).idList, (loadBlockchain_sameRegistry _ _ _ _ _).indices]
  refine ⟨entries, balances, length, fun id member => ?_⟩
  obtain ⟨balance, read, slot⟩ := held id member
  exact ⟨_, balance, registry.indices id member, read, slot⟩

/-- A window that `__init__` builds on an initialized engine holds each registered wallet's
ledger at the wallet's index. Its address ledgers stand in the order the wallet dict yields its
items, which need not be the order of the indices. -/
theorem init_ledgers (determineWalletType : Wallet → WalletType) (readWalletFile : Path → Option Wallet)
    (armoryHomeDir : String) (listing : List String) (settings : Settings) (bdm : Bdm)
    (net : NetworkingFactory) (iter : IterOrder) (initialized : bdm.isInitialized = true)
    (normal : (init determineWalletType readWalletFile armoryHomeDir listing settings bdm net iter).raised = none) :
    let built := (init determineWalletType readWalletFile armoryHomeDir listing settings bdm net iter).state
    (∀ id ∈ built.walletIDList, ∃ index, built.walletIndices.lookup id = some index ∧
        built.walletLedgers[index]? = some (bdm.getTxLedger id)) ∧
      built.walletSubLedgers = (iter.order built.walletMap).map fun item =>
        item.2.addrList.map (bdm.getAddrTxLedger item.1) := by
  obtain ⟨loaded, synced, ledgerTable, built⟩ := init_of_normal determineWalletType readWalletFile
    armoryHomeDir listing settings bdm net iter normal
  obtain ⟨registry, empty, noSubLedgers, -⟩ := loadWalletsAndSettings_loaded _ _ _ _ _ loaded
  obtain ⟨ledgers, subLedgers⟩ := loadBlockchain_ledgers determineWalletType bdm net iter
    (by exact registry.congr ⟨rfl, rfl, rfl, rfl⟩) (by exact empty) (by exact noSubLedgers) initialized synced
  rw [built]
  dsimp only
  rw [(loadBlockchain_sameRegistry _ _ _ _ _).idList, (loadBlockchain_sameRegistry _ _ _ _ _).indices,
    (loadBlockchain_sameRegistry _ _ _ _ _).map]
  exact ⟨fun id member => ⟨_, registry.indices id member, ledgers id member⟩, subLedgers⟩

theorem react_consistent (determineWalletType : Wallet → WalletType) {s : MainWindow}
    (consistent : Consistent s) (event : Event) : Consistent (step determineWalletType s event) := by
  cases event with
  | heartbeat bdm net iter =>
    have checked : Consistent (checkNewBlocks bdm s).state := by
      rw [checkNewBlocks_state]
      exact consistent.of_same ⟨rfl, rfl, rfl, rfl⟩ rfl
    exact checked.of_frame (heartbeatSteps_frame _ bdm iter s
      (extraHeartbeatFunctions_frame determineWalletType bdm net))
  | clicked selection bdm net =>
    exact (consistent.of_same (t := { s with checked := selection }) ⟨rfl, rfl, rfl, rfl⟩ rfl).of_frame
      (createCombinedLedger_frame determineWalletType bdm net none true _)

theorem Reachable.consistent {determineWalletType : Wallet → WalletType} {s : MainWindow}
    (reachable : Reachable determineWalletType s) : Consistent s := by
  induction reachable with
  | built normal => exact init_consistent _ _ _ _ _ _ _ _ normal
  | event event _ consistent => exact react_consistent determineWalletType consistent event

/-- From any window `__init__` returns, every run of heartbeat calls and clicks keeps the
registry, and leaves either a ledger slot per registered wallet or no slot at all. -/
theorem run_consistent (determineWalletType : Wallet → WalletType) (readWalletFile : Path → Option Wallet)
    (armoryHomeDir : String) (listing : List String) (settings : Settings) (bdm : Bdm)
    (net : NetworkingFactory) (iter : IterOrder)
    (normal : (init determineWalletType readWalletFile armoryHomeDir listing settings bdm net iter).raised = none)
    (events : List Event) :
    Consistent (run determineWalletType
      (init determineWalletType readWalletFile armoryHomeDir listing settings bdm net iter).state events) :=
  ((Reachable.built normal).run events).consistent

/-- In a reachable window with a ledger slot per registered wallet, a click's rebuild raises
nothing but the table's `KeyError`: never `IndexError`. -/
theorem reachable_synced_click {determineWalletType : Wallet → WalletType} {s : MainWindow}
    (reachable : Reachable determineWalletType s)
    (synced : s.walletLedgers.length = s.walletIDList.length) (selection : Selection) (bdm : Bdm)
    (net : NetworkingFactory) :
    (react determineWalletType s (.clicked selection bdm net)).raised = none ∨
      (react determineWalletType s (.clicked selection bdm net)).raised = some .keyError :=
  createCombinedLedger_synced_raises determineWalletType bdm net
    (reachable.consistent.registry.congr ⟨rfl, rfl, rfl, rfl⟩) synced

/-! ## The block height over a run -/

/-- The top height an event makes the window adopt: a tick's, as its block check reports it. -/
def adoptedBy : Event → Option Nat
  | .heartbeat bdm _ _ => adoptedTop bdm
  | .clicked .. => none

theorem step_latestBlockNum (determineWalletType : Wallet → WalletType) (s : MainWindow) (event : Event) :
    (step determineWalletType s event).latestBlockNum = (adoptedBy event).getD s.latestBlockNum := by
  cases event with
  | heartbeat bdm net iter =>
    exact heartbeatSteps_latestBlockNum _ bdm iter s (extraHeartbeatFunctions_frame determineWalletType bdm net)
  | clicked selection bdm net =>
    exact (createCombinedLedger_frame determineWalletType bdm net none true _).latestBlockNum

/-- Over any run of events, `latestBlockNum` ends at the top height of the last tick that saw an
initialized engine report no new block, or where it started if no tick did. Nothing else moves
it: not a tick that reports new blocks, not a higher top height, not a click. -/
theorem run_latestBlockNum (determineWalletType : Wallet → WalletType) (s : MainWindow) (events : List Event) :
    (run determineWalletType s events).latestBlockNum =
      ((events.filterMap adoptedBy).getLast?).getD s.latestBlockNum := by
  induction events generalizing s with
  | nil => rfl
  | cons event rest ih =>
    show (run determineWalletType (step determineWalletType s event) rest).latestBlockNum = _
    rw [ih, step_latestBlockNum, List.filterMap_cons]
    cases adoptedBy event with
    | none => rfl
    | some top => simp only [Option.getD_some, List.getLast?_cons]

/-! ## Runs of the window -/

def plainType : Wallet → WalletType := fun _ => .plain

def oneWalletSettings : Settings := ⟨false, 0, "Standard", ["/w/a.wallet"], [], []⟩

def readWalletA : Path → Option Wallet := fun _ => some ⟨"A", "main", false, [], []⟩

def loadBdm : Bdm where
  isInitialized := true
  topBlockHeight := 10
  topBlockTimestamp := 1000
  readBlkFileUpdate := .ok 0
  getBalance := fun _ => .ok 5
  getTxLedger := fun _ => [⟨"t1", 10, 0, 5⟩]
  getAddrTxLedger := fun _ _ => []
  getLedgerEntriesForZeroConfTxList := fun _ _ => []

def loadedA : MainWindow :=
  (init plainType readWalletA "/w" [] oneWalletSettings loadBdm ⟨[], []⟩ insertionOrder).state

theorem loadedA_reachable : Reachable plainType loadedA := .built rfl

theorem reachable_synced_click_loadedA :
    Reachable plainType loadedA ∧ loadedA.walletLedgers.length = loadedA.walletIDList.length ∧
      ((react plainType loadedA (.clicked .myWallets loadBdm ⟨[], []⟩)).raised = none ∨
        (react plainType loadedA (.clicked .myWallets loadBdm ⟨[], []⟩)).raised = some .keyError) :=
  ⟨loadedA_reachable, by decide,
    reachable_synced_click loadedA_reachable (by decide) .myWallets loadBdm ⟨[], []⟩⟩

def arrivalBdm : Bdm :=
  { loadBdm with
    topBlockHeight := 11
    readBlkFileUpdate := .ok 1
    getBalance := fun _ => .ok 8
    getTxLedger := fun _ => [⟨"t2", 11, 0, 3⟩, ⟨"t1", 10, 0, 5⟩] }

theorem run_consistent_loadedA :
    (init plainType readWalletA "/w" [] oneWalletSettings loadBdm ⟨[], []⟩ insertionOrder).raised = none ∧
      Consistent (run plainType loadedA
        [.heartbeat arrivalBdm ⟨[], []⟩ insertionOrder, .clicked .watchOnly loadBdm ⟨[], []⟩]) :=
  ⟨rfl, run_consistent plainType readWalletA "/w" [] oneWalletSettings loadBdm ⟨[], []⟩ insertionOrder rfl _⟩

theorem init_balances_loadedA :
    loadBdm.isInitialized = true ∧
      (init plainType readWalletA "/w" [] oneWalletSettings loadBdm ⟨[], []⟩ insertionOrder).raised = none ∧
      ∃ entries, loadedA.walletBalances = .list entries ∧ entries.length = loadedA.walletIDList.length ∧
        ∀ id ∈ loadedA.walletIDList, ∃ index balance, loadedA.walletIndices.lookup id = some index ∧
          loadBdm.getBalance id = .ok balance ∧ entries[index]? = some balance :=
  ⟨rfl, rfl, init_balances plainType readWalletA "/w" [] oneWalletSettings loadBdm ⟨[], []⟩ insertionOrder
    rfl rfl⟩

def twoWalletSettings : Settings := ⟨false, 0, "Standard", ["/w/a.wallet", "/w/b.wallet"], [], []⟩

def readTwoWallets (fpath : Path) : Option Wallet :=
  if fpath = "/w/a.wallet" then some ⟨"A", "a", false, [], ["a1"]⟩
  else if fpath = "/w/b.wallet" then some ⟨"B", "b", false, [], ["b1", "b2"]⟩
  else none

def addressBdm : Bdm :=
  { loadBdm with
    getBalance := fun id => .ok (if id = "A" then 5 else 3)
    getTxLedger := fun id => [⟨id, 10, 0, 1⟩]
    getAddrTxLedger := fun _ addr => [⟨addr, 10, 0, 1⟩] }

def reversedOrder : IterOrder := ⟨List.reverse, List.reverse_perm⟩

def reversedTwo : MainWindow :=
  (init plainType readTwoWallets "/w" [] twoWalletSettings addressBdm ⟨[], []⟩ reversedOrder).state

theorem init_ledgers_reversedTwo :
    addressBdm.isInitialized = true ∧
      (init plainType readTwoWallets "/w" [] twoWalletSettings addressBdm ⟨[], []⟩ reversedOrder).raised = none ∧
      (∀ id ∈ reversedTwo.walletIDList, ∃ index, reversedTwo.walletIndices.lookup id = some index ∧
          reversedTwo.walletLedgers[index]? = some (addressBdm.getTxLedger id)) ∧
        reversedTwo.walletSubLedgers = (reversedOrder.order reversedTwo.walletMap).map fun item =>
          item.2.addrList.map (addressBdm.getAddrTxLedger item.1) :=
  ⟨rfl, rfl, init_ledgers plainType readTwoWallets "/w" [] twoWalletSettings addressBdm ⟨[], []⟩ reversedOrder
    rfl rfl⟩

/-- `A` is registered first, at index 0, and slot 0 holds its ledger and its balance. The dict
yields `B` first, so `walletSubLedgers[0]` holds `B`'s two address ledgers, not `A`'s one. -/
theorem init_subLedgers_misaligned :
    (init plainType readTwoWallets "/w" [] twoWalletSettings addressBdm ⟨[], []⟩ reversedOrder).raised = none ∧
      reversedTwo.walletIndices.lookup "A" = some 0 ∧
      reversedTwo.walletLedgers[0]? = some (addressBdm.getTxLedger "A") ∧
      reversedTwo.walletBalances = .list [5, 3] ∧
      reversedTwo.walletSubLedgers[0]? = some [[⟨"b1", 10, 0, 1⟩], [⟨"b2", 10, 0, 1⟩]] ∧
      reversedTwo.walletSubLedgers[0]? ≠ some ((["a1"] : List Addr160).map (addressBdm.getAddrTxLedger "A")) := by
  decide

/-- Loaded at block 10, the window gets a tick from an engine that has moved to block 11, whose
ledgers hold nothing above its top, and that reports the new block. `latestBlockNum` stays 10,
so the entry of block 11 gets no confirmation and its time is looked up in `zeroConfTxTime`:
without its hash there the tick raises `KeyError`, and with it the table shows the entry with
`nConf` 0. -/
theorem heartbeat_new_block_unconfirmed :
    (∀ e ∈ arrivalBdm.getTxLedger "A", e.blockNum ≤ arrivalBdm.topBlockHeight) ∧
      (react plainType loadedA (.heartbeat arrivalBdm ⟨[], []⟩ insertionOrder)).raised = some .keyError ∧
      Reachable plainType (step plainType loadedA (.heartbeat arrivalBdm ⟨[], [("t2", 50)]⟩ insertionOrder)) ∧
      (step plainType loadedA (.heartbeat arrivalBdm ⟨[], [("t2", 50)]⟩ insertionOrder)).ledgerTable =
        [⟨0, 50, 3, "main", "", false, "A"⟩, ⟨1, 1000, 5, "main", "", false, "A"⟩] :=
  ⟨by decide, by decide, loadedA_reachable.event _, by decide⟩

def unloadedBdm : Bdm := { loadBdm with isInitialized := false, topBlockHeight := 0 }

def unloadedA : MainWindow :=
  (init plainType readWalletA "/w" [] oneWalletSettings unloadedBdm ⟨[], []⟩ insertionOrder).state

/-- Built while the engine was not initialized, the window registers `A` with no ledger slot, and
a click on "My wallets" raises `IndexError` from `createCombinedLedger`. -/
theorem clicked_after_failed_load :
    Reachable plainType unloadedA ∧ unloadedA.walletIDList = ["A"] ∧ unloadedA.walletLedgers = [] ∧
      (react plainType unloadedA (.clicked .myWallets loadBdm ⟨[], []⟩)).raised = some .indexError :=
  ⟨.built rfl, by decide, by decide, by decide⟩

/-- Loaded with one wallet, the window's balances are a list with its one balance; one tick
replaces the list by that balance as a number. -/
theorem heartbeat_replaces_balance_list :
    loadedA.walletBalances = .list [5] ∧
      Reachable plainType (step plainType loadedA (.heartbeat loadBdm ⟨[], []⟩ insertionOrder)) ∧
      (step plainType loadedA (.heartbeat loadBdm ⟨[], []⟩ insertionOrder)).walletBalances = .scalar 5 :=
  ⟨by decide, loadedA_reachable.event _, by decide⟩

end Armory.System
