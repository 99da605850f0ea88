import Armory.Window
import Mathlib.Data.List.Infix
import Mathlib.Data.List.Nodup

/-!
`loadWalletsAndSettings`: the wallet registry built from `Other_Wallets` and the wallet files
of the home directory. The loop refines a list of first loads: after each path, the registry
fields are those of the (path, wallet) pairs whose wallet ID no earlier pair carried. A file
that does not parse ends the loop with an exception, whether or not it is excluded.
`getWalletForAddr160` searches the registry so built.
-/

namespace Armory.LoadWallets
open Armory.Types Armory.Window

/-- The home-directory entries the loader takes: `armory_*.wallet`, no backup, none marked
unsuccessful. -/
def isWalletFileName (f : String) : Bool :=
  f.startsWith "armory_" && f.endsWith ".wallet" && !f.endsWith "backup.wallet" &&
    !decide ("unsuccessful".data <:+: f.data)

/-- `os.path.join(ARMORY_HOME_DIR, f)` for a name `f` that `os.listdir` returned. -/
def joinPath (dir f : String) : Path :=
  if dir.isEmpty || dir.endsWith "/" then dir ++ f else dir ++ "/" ++ f

/-- `wltPaths`: `Other_Wallets`, then the wallet files of the home directory in the order
`os.listdir` gives them. -/
def wltPaths (armoryHomeDir : String) (listing : List String) (settings : Settings) : List Path :=
  settings.otherWallets ++ (listing.filter isWalletFileName).map (joinPath armoryHomeDir)

section Loop
variable (readWalletFile : Path → Option Wallet) (wltExclude wltOffline : List String)

/-- One pass of the loop over `wltPaths`. `readWalletFile` is `none` where
`PyBtcWallet().readWalletFile` raises; the bare `except` re-raises after its warning. A
duplicate only prints, and its warning reads `walletMap[wltID]`. -/
def loadWalletPath (s : MainWindow) (fpath : Path) : Outcome MainWindow :=
  match readWalletFile fpath with
  | none => ⟨s, some .external⟩
  | some wltLoad =>
    let wltID := wltLoad.wltUniqueIDB58
    if fpath ∈ wltExclude then ⟨s, none⟩
    else if wltID ∈ s.walletIDSet then
      match s.walletMap.lookup wltID with
      | some _ => ⟨s, none⟩
      | none => ⟨s, some .keyError⟩
    else
      let walletMap := dictSet s.walletMap wltID wltLoad
      let s := { s with
        walletMap
        walletIndices := dictSet s.walletIndices wltID (walletMap.length - 1)
        walletIDSet := insert wltID s.walletIDSet
        walletIDList := s.walletIDList ++ [wltID] }
      withResult s (s.walletBalances.append (-1)) fun walletBalances =>
        ⟨{ s with
          walletBalances
          walletOfflines := if wltID ∈ wltOffline ∨ fpath ∈ wltOffline
            then insert wltID s.walletOfflines else s.walletOfflines }, none⟩

end Loop

/-- The object as `loadWalletsAndSettings` leaves it before its loop: the settings file read,
its load count bumped, the user mode set and every registry and ledger field emptied. -/
def resetRegistry (settings : Settings) (s : MainWindow) : MainWindow :=
  { s with
    settings := if settings.firstLoad then { settings with firstLoad := false, loadCount := 1 }
      else { settings with loadCount := (settings.loadCount + 1) % 10 }
    firstLoad := settings.firstLoad
    usermode := if settings.userMode = "Advanced" then .advanced else .standard
    walletMap := []
    walletIndices := []
    walletIDSet := ∅
    walletIDList := []
    walletBalances := .list []
    walletSubLedgers := []
    walletLedgers := []
    combinedLedger := []
    ledgerSize := 0
    latestBlockNum := 0
    walletOfflines := ∅ }

/-- `loadWalletsAndSettings` from the settings file's entries and the listing of the home
directory; its last loop only prints. -/
def loadWalletsAndSettings (readWalletFile : Path → Option Wallet) (armoryHomeDir : String)
    (listing : List String) (settings : Settings) (s : MainWindow) : Outcome MainWindow :=
  forEach (loadWalletPath readWalletFile settings.excludedWallets settings.offlineWalletIDs)
    (wltPaths armoryHomeDir listing settings) (resetRegistry settings s)

/-! ## First loads -/

/-- The (path, wallet) pairs the loop reads and does not skip as excluded, in path order. -/
def candidates (readWalletFile : Path → Option Wallet) (wltExclude : List String)
    (paths : List Path) : List (Path × Wallet) :=
  paths.filterMap fun fpath =>
    if fpath ∈ wltExclude then none else (readWalletFile fpath).map (fpath, ·)

/-- The elements of a list without repeats, each where it first occurs. -/
def firstOccurrences {α : Type} [DecidableEq α] : List α → List α
  | [] => []
  | a :: rest => a :: (firstOccurrences rest).filter (· ≠ a)

/-- The pairs that register their wallet: each the first to carry its wallet's ID. -/
def firstLoads : List (Path × Wallet) → List (Path × Wallet)
  | [] => []
  | load :: rest =>
    load :: (firstLoads rest).filter (·.2.wltUniqueIDB58 ≠ load.2.wltUniqueIDB58)

def isOffline (wltOffline : List String) (load : Path × Wallet) : Bool :=
  decide (load.2.wltUniqueIDB58 ∈ wltOffline ∨ load.1 ∈ wltOffline)

/-- The registry fields of `s` as registering `loads` in order sets them. -/
def registered (wltOffline : List String) (s : MainWindow) (loads : List (Path × Wallet)) :
    MainWindow :=
  let ids := loads.map (·.2.wltUniqueIDB58)
  { s with
    walletMap := loads.map fun load => (load.2.wltUniqueIDB58, load.2)
    walletIndices := ids.map fun id => (id, ids.indexOf id)
    walletIDSet := ids.toFinset
    walletIDList := ids
    walletBalances := .list (List.replicate loads.length (-1))
    walletOfflines := ((loads.filter (isOffline wltOffline)).map (·.2.wltUniqueIDB58)).toFinset }

theorem firstLoads_append_single (pre : List (Path × Wallet)) (load : Path × Wallet) :
    firstLoads (pre ++ [load]) = if load.2.wltUniqueIDB58 ∈ pre.map (·.2.wltUniqueIDB58)
      then firstLoads pre else firstLoads pre ++ [load] := by
  induction pre with
  | nil => simp [firstLoads]
  | cons first rest ih =>
    rw [List.cons_append, firstLoads, ih]
    by_cases seen : load.2.wltUniqueIDB58 ∈ rest.map (·.2.wltUniqueIDB58)
    · simp [seen, firstLoads]
    · rw [if_neg seen]
      by_cases same : load.2.wltUniqueIDB58 = first.2.wltUniqueIDB58 <;> simp [seen, same, firstLoads]

private theorem ids_filter_ne (loads : List (Path × Wallet)) (id : WalletID) :
    (loads.filter (·.2.wltUniqueIDB58 ≠ id)).map (·.2.wltUniqueIDB58) =
      (loads.map (·.2.wltUniqueIDB58)).filter (· ≠ id) := by
  rw [List.filter_map]
  rfl

theorem mem_firstLoads_ids (loads : List (Path × Wallet)) (id : WalletID) :
    id ∈ (firstLoads loads).map (·.2.wltUniqueIDB58) ↔ id ∈ loads.map (·.2.wltUniqueIDB58) := by
  induction loads with
  | nil => simp [firstLoads]
  | cons load rest ih =>
    rw [firstLoads, List.map_cons, List.map_cons, List.mem_cons, List.mem_cons, ← ih,
      ids_filter_ne, List.mem_filter]
    by_cases same : id = load.2.wltUniqueIDB58 <;> simp [same]

theorem firstLoads_ids_nodup (loads : List (Path × Wallet)) :
    ((firstLoads loads).map (·.2.wltUniqueIDB58)).Nodup := by
  induction loads with
  | nil => simp [firstLoads]
  | cons load rest ih =>
    rw [firstLoads, List.map_cons, ids_filter_ne, List.nodup_cons]
    exact ⟨by simp [List.mem_filter], ih.filter _⟩

section Refinement
variable (readWalletFile : Path → Option Wallet) (wltExclude wltOffline : List String)

/-- One pass of the loop refines "append the pair when its wallet ID is new". -/
theorem loadWalletPath_registered (s : MainWindow) (pre : List (Path × Wallet)) {fpath : Path}
    {wallet : Wallet} (read : readWalletFile fpath = some wallet) :
    loadWalletPath readWalletFile wltExclude wltOffline
        (registered wltOffline s (firstLoads pre)) fpath =
      ⟨registered wltOffline s (firstLoads (pre ++ candidates readWalletFile wltExclude [fpath])),
        none⟩ := by
  by_cases excluded : fpath ∈ wltExclude
  · simp [loadWalletPath, candidates, read, excluded]
  have single : candidates readWalletFile wltExclude [fpath] = [(fpath, wallet)] := by
    simp [candidates, read, excluded]
  rw [single, firstLoads_append_single]
  have mapKeys : ((firstLoads pre).map fun load => (load.2.wltUniqueIDB58, load.2)).map Prod.fst =
      (firstLoads pre).map (·.2.wltUniqueIDB58) := List.map_map _ _ _
  by_cases seen : wallet.wltUniqueIDB58 ∈ pre.map (·.2.wltUniqueIDB58)
  · have known := (mem_firstLoads_ids pre _).mpr seen
    obtain ⟨found, lookup⟩ := Option.isSome_iff_exists.mp
      ((lookup_isSome_iff ((firstLoads pre).map fun load => (load.2.wltUniqueIDB58, load.2))
        wallet.wltUniqueIDB58).mpr (mapKeys ▸ known))
    simp only [loadWalletPath, read, if_neg excluded, registered, List.mem_toFinset, known,
      if_true, lookup, if_pos seen]
  · have fresh : wallet.wltUniqueIDB58 ∉ (firstLoads pre).map (·.2.wltUniqueIDB58) :=
      fun known => seen ((mem_firstLoads_ids pre _).mp known)
    have mapFresh : wallet.wltUniqueIDB58 ∉
        ((firstLoads pre).map fun load => (load.2.wltUniqueIDB58, load.2)).map Prod.fst :=
      mapKeys ▸ fresh
    have indexFresh : ∀ ids : List WalletID, wallet.wltUniqueIDB58 ∉ ids →
        wallet.wltUniqueIDB58 ∉ (ids.map fun id => (id, ids.indexOf id)).map Prod.fst := fun ids absent => by
      rwa [List.map_map, show Prod.fst ∘ (fun id => (id, ids.indexOf id)) = id from rfl, List.map_id]
    simp only [loadWalletPath, read, if_neg excluded, registered, List.mem_toFinset, fresh,
      if_false, if_neg seen, withResult, Balances.append, dictSet_of_not_mem _ mapFresh,
      List.length_append, List.length_map, List.length_singleton, Nat.add_sub_cancel]
    rw [dictSet_of_not_mem _ (indexFresh _ fresh)]
    congr 2
    · simp
    · rw [List.map_append, List.map_singleton, List.map_append, List.map_singleton,
        List.indexOf_append_of_not_mem fresh, List.indexOf_cons_self, List.length_map, Nat.add_zero]
      exact congrArg (· ++ _) (List.map_congr_left fun id member => by
        rw [List.indexOf_append_of_mem member])
    · simp [Finset.insert_eq, Finset.union_comm]
    · simp
    · rw [List.replicate_succ']
    · rw [List.filter_append, List.map_append, List.toFinset_append]
      by_cases offline : wallet.wltUniqueIDB58 ∈ wltOffline ∨ fpath ∈ wltOffline <;>
        simp [isOffline, offline, Finset.insert_eq, Finset.union_comm]

theorem loadWalletPaths_registered (s : MainWindow) (pre : List (Path × Wallet)) (paths : List Path)
    (parses : ∀ fpath ∈ paths, (readWalletFile fpath).isSome) :
    forEach (loadWalletPath readWalletFile wltExclude wltOffline) paths
        (registered wltOffline s (firstLoads pre)) =
      ⟨registered wltOffline s (firstLoads (pre ++ candidates readWalletFile wltExclude paths)),
        none⟩ := by
  induction paths generalizing pre with
  | nil => simp [candidates]
  | cons fpath rest ih =>
    obtain ⟨wallet, read⟩ := Option.isSome_iff_exists.mp (parses fpath (List.mem_cons_self _ _))
    have split : candidates readWalletFile wltExclude (fpath :: rest) =
        candidates readWalletFile wltExclude [fpath] ++ candidates readWalletFile wltExclude rest := by
      rw [candidates, candidates, candidates, ← List.filterMap_append, List.singleton_append]
    rw [forEach_cons, loadWalletPath_registered readWalletFile wltExclude wltOffline s pre read,
      Outcome.andThen_ok, ih _ fun other member => parses other (List.mem_cons_of_mem _ member),
      split, List.append_assoc]

/-- A loop that returns normally read every path: an unreadable wallet file re-raises. -/
theorem loadWalletPaths_parses : ∀ (paths : List Path) (s : MainWindow),
    (forEach (loadWalletPath readWalletFile wltExclude wltOffline) paths s).raised = none →
      ∀ fpath ∈ paths, (readWalletFile fpath).isSome
  | [], _, _ => by simp
  | fpath :: rest, s, normal => by
    rw [forEach_cons] at normal
    have first := Outcome.raised_of_andThen normal
    rw [Outcome.andThen_of_ok _ first] at normal
    have read : (readWalletFile fpath).isSome := by
      cases found : readWalletFile fpath with
      | none => simp [loadWalletPath, found] at first
      | some _ => rfl
    intro other member
    rcases List.mem_cons.mp member with rfl | later
    · exact read
    · exact loadWalletPaths_parses rest _ normal other later

end Refinement

/-! ## The registry of the first loads -/

theorem firstLoads_ids (loads : List (Path × Wallet)) :
    (firstLoads loads).map (·.2.wltUniqueIDB58) = firstOccurrences (loads.map (·.2.wltUniqueIDB58)) := by
  induction loads with
  | nil => rfl
  | cons load rest ih => rw [firstLoads, List.map_cons, ids_filter_ne, ih]; rfl

theorem find?_firstLoads (loads : List (Path × Wallet)) (id : WalletID) :
    (firstLoads loads).find? (·.2.wltUniqueIDB58 = id) = loads.find? (·.2.wltUniqueIDB58 = id) := by
  induction loads with
  | nil => rfl
  | cons load rest ih =>
    by_cases hit : load.2.wltUniqueIDB58 = id
    · simp [firstLoads, hit]
    · rw [firstLoads, List.find?_cons_of_neg _ (by simpa using hit),
        List.find?_cons_of_neg _ (by simpa using hit), List.find?_filter, ← ih]
      congr 1
      funext other
      by_cases same : other.2.wltUniqueIDB58 = id
      · simp [same, Ne.symm hit]
      · simp [same]

theorem lookup_map_first (loads : List (Path × Wallet)) (id : WalletID) :
    (loads.map fun load => (load.2.wltUniqueIDB58, load.2)).lookup id =
      (loads.find? (·.2.wltUniqueIDB58 = id)).map (·.2) := by
  induction loads with
  | nil => rfl
  | cons load rest ih =>
    by_cases hit : load.2.wltUniqueIDB58 = id
    · simp [lookup_cons_eq, hit]
    · simp [lookup_cons_eq, Ne.symm hit, hit, ih]

theorem lookup_map_self {β : Type} (ids : List WalletID) (position : WalletID → β) (id : WalletID) :
    (ids.map fun other => (other, position other)).lookup id =
      if id ∈ ids then some (position id) else none := by
  induction ids with
  | nil => simp
  | cons first rest ih =>
    by_cases hit : id = first
    · simp [lookup_cons_eq, hit]
    · simp [lookup_cons_eq, hit, ih]

theorem offline_firstLoads (wltOffline : List String) (loads : List (Path × Wallet)) (id : WalletID) :
    id ∈ ((firstLoads loads).filter (isOffline wltOffline)).map (·.2.wltUniqueIDB58) ↔
      ∃ load, loads.find? (·.2.wltUniqueIDB58 = id) = some load ∧ isOffline wltOffline load := by
  rw [← find?_firstLoads]
  constructor
  · intro listed
    obtain ⟨load, kept, rfl⟩ := List.mem_map.mp listed
    obtain ⟨member, offline⟩ := List.mem_filter.mp kept
    have present : ((firstLoads loads).find? (·.2.wltUniqueIDB58 = load.2.wltUniqueIDB58)).isSome :=
      List.find?_isSome.mpr ⟨load, member, by simp⟩
    obtain ⟨found, search⟩ := Option.isSome_iff_exists.mp present
    have sameID : found.2.wltUniqueIDB58 = load.2.wltUniqueIDB58 := by
      simpa using List.find?_some search
    have same : found = load := List.inj_on_of_nodup_map (firstLoads_ids_nodup loads)
      (List.mem_of_find?_eq_some search) member sameID
    exact ⟨found, search, same ▸ offline⟩
  · rintro ⟨load, found, offline⟩
    exact List.mem_map.mpr ⟨load, List.mem_filter.mpr ⟨List.mem_of_find?_eq_some found, offline⟩,
      by simpa using List.find?_some found⟩

/-- The registry that loading the non-excluded (path, wallet) pairs `loads` should leave:
first occurrences listed in path order, one set, map and index per ID, the first load
winning, a balance slot per wallet, and the offline marks of the first loads. -/
structure LoadedFrom (s : MainWindow) (loads : List (Path × Wallet)) (wltOffline : List String) :
    Prop where
  idList : s.walletIDList = firstOccurrences (loads.map (·.2.wltUniqueIDB58))
  idSet : s.walletIDSet = s.walletIDList.toFinset
  mapKeys : s.walletMap.map Prod.fst = s.walletIDList
  mapFirst : ∀ id, s.walletMap.lookup id = (loads.find? (·.2.wltUniqueIDB58 = id)).map (·.2)
  indexKeys : s.walletIndices.map Prod.fst = s.walletIDList
  indices : ∀ (i : Nat) (h : i < s.walletIDList.length), s.walletIndices.lookup s.walletIDList[i] = some i
  balances : s.walletBalances = .list (List.replicate s.walletIDList.length (-1))
  offlinesRegistered : s.walletOfflines ⊆ s.walletIDSet
  offlines : ∀ id, id ∈ s.walletOfflines ↔ ∃ load, loads.find? (·.2.wltUniqueIDB58 = id) = some load ∧
    (id ∈ wltOffline ∨ load.1 ∈ wltOffline)

theorem registered_loadedFrom (wltOffline : List String) (s : MainWindow)
    (loads : List (Path × Wallet)) :
    LoadedFrom (registered wltOffline s (firstLoads loads)) loads wltOffline where
  idList := firstLoads_ids loads
  idSet := rfl
  mapKeys := List.map_map _ _ _
  mapFirst id := by rw [registered, lookup_map_first, find?_firstLoads]
  indexKeys := by
    rw [registered, List.map_map]
    exact List.map_id _
  indices i bound := by
    simp only [registered, lookup_map_self, List.getElem_mem, if_true,
      List.indexOf_getElem (firstLoads_ids_nodup loads)]
  balances := by simp [registered]
  offlinesRegistered := by
    intro id member
    simp only [registered, List.mem_toFinset, List.mem_map, List.mem_filter] at member ⊢
    obtain ⟨load, ⟨kept, _⟩, same⟩ := member
    exact ⟨load, kept, same⟩
  offlines id := by
    simp only [registered, List.mem_toFinset, offline_firstLoads]
    refine exists_congr fun load => and_congr_right fun found => ?_
    have same : load.2.wltUniqueIDB58 = id := by simpa using List.find?_some found
    simp [isOffline, same]

theorem registered_resetRegistry (wltOffline : List String) (settings : Settings) (s : MainWindow) :
    registered wltOffline (resetRegistry settings s) (firstLoads []) = resetRegistry settings s := by
  simp [registered, resetRegistry, firstLoads]

/-- A load in which every path parses returns normally, with the registry of the first loads on
the reset window. -/
theorem loadWalletsAndSettings_parsed (readWalletFile : Path → Option Wallet) (armoryHomeDir : String)
    (listing : List String) (settings : Settings) (s : MainWindow)
    (parses : ∀ fpath ∈ wltPaths armoryHomeDir listing settings, (readWalletFile fpath).isSome) :
    loadWalletsAndSettings readWalletFile armoryHomeDir listing settings s =
      ⟨registered settings.offlineWalletIDs (resetRegistry settings s) (firstLoads
        (candidates readWalletFile settings.excludedWallets (wltPaths armoryHomeDir listing settings))), none⟩ := by
  have run := loadWalletPaths_registered readWalletFile settings.excludedWallets
    settings.offlineWalletIDs (resetRegistry settings s) [] _ parses
  rwa [registered_resetRegistry, List.nil_append] at run

/-- Loading paths that all parse builds the registry of their first loads. -/
theorem loadWalletsAndSettings_registry (readWalletFile : Path → Option Wallet)
    (armoryHomeDir : String) (listing : List String) (settings : Settings) (s : MainWindow)
    (parses : ∀ fpath ∈ wltPaths armoryHomeDir listing settings, (readWalletFile fpath).isSome) :
    let loaded := loadWalletsAndSettings readWalletFile armoryHomeDir listing settings s
    loaded.raised = none ∧
      LoadedFrom loaded.state
        (candidates readWalletFile settings.excludedWallets (wltPaths armoryHomeDir listing settings))
        settings.offlineWalletIDs := by
  simp only [loadWalletsAndSettings_parsed readWalletFile armoryHomeDir listing settings s parses]
  exact ⟨trivial, registered_loadedFrom _ _ _⟩

theorem loadWalletsAndSettings_registry_duplicate :
    (∀ fpath ∈ wltPaths "/w" [] ⟨true, 0, "Standard", ["/w/a.wallet", "/w/b.wallet"], [], ["A"]⟩,
        (some ⟨"A", "main", false, [], []⟩ : Option Wallet).isSome) ∧
      let loaded := loadWalletsAndSettings (fun _ => some ⟨"A", "main", false, [], []⟩) "/w" []
        ⟨true, 0, "Standard", ["/w/a.wallet", "/w/b.wallet"], [], ["A"]⟩ blank
      loaded.raised = none ∧
        LoadedFrom loaded.state
          (candidates (fun _ => some ⟨"A", "main", false, [], []⟩) []
            (wltPaths "/w" [] ⟨true, 0, "Standard", ["/w/a.wallet", "/w/b.wallet"], [], ["A"]⟩))
          ["A"] :=
  ⟨fun _ _ => rfl, loadWalletsAndSettings_registry _ _ _ _ _ fun _ _ => rfl⟩

/-! ## An unreadable wallet file -/

/-- A wallet file that does not parse ends the load. The paths before it are registered as
readable paths always are, the bare `except` re-raises after its warning, and no later path is
read: a wallet listed after it is never registered. -/
theorem loadWalletsAndSettings_unreadable (readWalletFile : Path → Option Wallet) (armoryHomeDir : String)
    (listing : List String) (settings : Settings) (s : MainWindow) {read : List Path} {fpath : Path}
    {rest : List Path} (paths : wltPaths armoryHomeDir listing settings = read ++ fpath :: rest)
    (parses : ∀ earlier ∈ read, (readWalletFile earlier).isSome) (unreadable : readWalletFile fpath = none) :
    loadWalletsAndSettings readWalletFile armoryHomeDir listing settings s =
      ⟨registered settings.offlineWalletIDs (resetRegistry settings s)
        (firstLoads (candidates readWalletFile settings.excludedWallets read)), some .external⟩ := by
  have run := loadWalletPaths_registered readWalletFile settings.excludedWallets
    settings.offlineWalletIDs (resetRegistry settings s) [] read parses
  rw [registered_resetRegistry, List.nil_append] at run
  rw [loadWalletsAndSettings, paths, forEach_append, run, Outcome.andThen_ok, forEach_cons]
  simp [loadWalletPath, unreadable]

def brokenMiddleSettings : Settings :=
  ⟨false, 0, "Standard", ["/w/a.wallet", "/w/bad.wallet", "/w/b.wallet"], ["/w/bad.wallet"], []⟩

def readAOrB (fpath : Path) : Option Wallet :=
  if fpath = "/w/a.wallet" then some ⟨"A", "a", false, [], []⟩
  else if fpath = "/w/b.wallet" then some ⟨"B", "b", false, [], []⟩
  else none

theorem loadWalletsAndSettings_unreadable_brokenMiddle :
    wltPaths "/w" [] brokenMiddleSettings = ["/w/a.wallet"] ++ "/w/bad.wallet" :: ["/w/b.wallet"] ∧
      (∀ earlier ∈ ["/w/a.wallet"], (readAOrB earlier).isSome) ∧ readAOrB "/w/bad.wallet" = none ∧
      loadWalletsAndSettings readAOrB "/w" [] brokenMiddleSettings blank =
        ⟨registered [] (resetRegistry brokenMiddleSettings blank)
          (firstLoads (candidates readAOrB ["/w/bad.wallet"] ["/w/a.wallet"])), some .external⟩ :=
  ⟨rfl, by decide, rfl,
    loadWalletsAndSettings_unreadable readAOrB "/w" [] brokenMiddleSettings blank rfl (by decide) rfl⟩

/-- The excluded file in the middle does not parse: the load raises after registering `A` and
never registers `B`, while a load of the two readable files alone registers both. -/
theorem loadWalletsAndSettings_unreadable_aborts :
    (loadWalletsAndSettings readAOrB "/w" [] brokenMiddleSettings blank).raised = some .external ∧
      (loadWalletsAndSettings readAOrB "/w" [] brokenMiddleSettings blank).state.walletIDList = ["A"] ∧
      (loadWalletsAndSettings readAOrB "/w" []
        { brokenMiddleSettings with otherWallets := ["/w/a.wallet", "/w/b.wallet"] } blank).raised = none ∧
      (loadWalletsAndSettings readAOrB "/w" []
        { brokenMiddleSettings with otherWallets := ["/w/a.wallet", "/w/b.wallet"] }
          blank).state.walletIDList = ["A", "B"] := by
  decide

/-- The registry invariant the rest of the window relies on: a duplicate-free ID list, with the
set, the map's keys and the indices all following it. -/
structure Registry (s : MainWindow) : Prop where
  nodup : s.walletIDList.Nodup
  idSet : s.walletIDSet = s.walletIDList.toFinset
  mapKeys : s.walletMap.map Prod.fst = s.walletIDList
  indices : ∀ id ∈ s.walletIDList, s.walletIndices.lookup id = some (s.walletIDList.indexOf id)

theorem firstOccurrences_nodup {α : Type} [DecidableEq α] (l : List α) : (firstOccurrences l).Nodup := by
  induction l with
  | nil => exact List.nodup_nil
  | cons a rest ih => exact List.nodup_cons.mpr ⟨by simp, ih.filter _⟩

theorem LoadedFrom.registry {s : MainWindow} {loads : List (Path × Wallet)} {wltOffline : List String}
    (loaded : LoadedFrom s loads wltOffline) : Registry s where
  nodup := loaded.idList ▸ firstOccurrences_nodup _
  idSet := loaded.idSet
  mapKeys := loaded.mapKeys
  indices id member := by
    have position := loaded.indices _ (List.indexOf_lt_length.mpr member)
    rwa [List.getElem_indexOf] at position

/-- `t` has the registry fields of `s`. -/
structure SameRegistry (s t : MainWindow) : Prop where
  idList : t.walletIDList = s.walletIDList
  idSet : t.walletIDSet = s.walletIDSet
  map : t.walletMap = s.walletMap
  indices : t.walletIndices = s.walletIndices

theorem SameRegistry.refl (s : MainWindow) : SameRegistry s s := ⟨rfl, rfl, rfl, rfl⟩

theorem SameRegistry.trans {s t u : MainWindow} (first : SameRegistry s t) (second : SameRegistry t u) :
    SameRegistry s u :=
  ⟨second.idList.trans first.idList, second.idSet.trans first.idSet, second.map.trans first.map,
    second.indices.trans first.indices⟩

/-- The registry invariant reads only the four registry fields. -/
theorem Registry.congr {s t : MainWindow} (registry : Registry s) (same : SameRegistry s t) :
    Registry t where
  nodup := same.idList ▸ registry.nodup
  idSet := same.idList ▸ same.idSet ▸ registry.idSet
  mapKeys := same.idList ▸ same.map ▸ registry.mapKeys
  indices := same.idList ▸ same.indices ▸ registry.indices

/-- A load that returns normally leaves the registry, no ledger slot and no address ledger yet,
and a `-1` balance per wallet. -/
theorem loadWalletsAndSettings_loaded (readWalletFile : Path → Option Wallet) (armoryHomeDir : String)
    (listing : List String) (settings : Settings) (s : MainWindow)
    (normal : (loadWalletsAndSettings readWalletFile armoryHomeDir listing settings s).raised = none) :
    let loaded := (loadWalletsAndSettings readWalletFile armoryHomeDir listing settings s).state
    Registry loaded ∧ loaded.walletLedgers = [] ∧ loaded.walletSubLedgers = [] ∧
      loaded.walletBalances = .list (List.replicate loaded.walletIDList.length (-1)) := by
  simp only [loadWalletsAndSettings_parsed readWalletFile armoryHomeDir listing settings s
    (loadWalletPaths_parses readWalletFile _ _ _ _ normal)]
  exact ⟨(registered_loadedFrom _ _ _).registry, rfl, rfl, (registered_loadedFrom _ _ _).balances⟩

/-! ## Finding a wallet by address -/

/-- `getWalletForAddr160(addr160)`: the first wallet, in the order the dict yields its items,
that holds the address. `hasAddr` is a `PyBtcWallet` method, outside src. -/
def getWalletForAddr160 (hasAddr : Wallet → Addr160 → Bool) (iter : IterOrder) (s : MainWindow)
    (addr160 : Addr160) : Option WalletID :=
  ((iter.order s.walletMap).find? fun item => hasAddr item.2 addr160).map (·.1)

theorem Registry.mapKeys_nodup {s : MainWindow} (registry : Registry s) :
    (s.walletMap.map Prod.fst).Nodup :=
  registry.mapKeys ▸ registry.nodup

/-- Whatever the dict's order, the wallet found is registered and holds the address. -/
theorem getWalletForAddr160_holds (hasAddr : Wallet → Addr160 → Bool) (iter : IterOrder)
    {s : MainWindow} (registry : Registry s) {addr160 : Addr160} {id : WalletID}
    (found : getWalletForAddr160 hasAddr iter s addr160 = some id) :
    ∃ wlt, s.walletMap.lookup id = some wlt ∧ hasAddr wlt addr160 = true := by
  obtain ⟨item, search, rfl⟩ := Option.map_eq_some'.mp found
  exact ⟨item.2, (lookup_eq_some_iff registry.mapKeys_nodup _ _).mpr
    ((iter.perm _).subset (List.mem_of_find?_eq_some search)), by simpa using List.find?_some search⟩

/-- When at most one wallet holds an address, `getWalletForAddr160` finds exactly that wallet,
whatever order the dict yields its items in. -/
theorem getWalletForAddr160_eq_some_iff (hasAddr : Wallet → Addr160 → Bool) (iter : IterOrder)
    {s : MainWindow} (registry : Registry s) (addr160 : Addr160)
    (unique : ∀ a ∈ s.walletMap, ∀ b ∈ s.walletMap,
      hasAddr a.2 addr160 = true → hasAddr b.2 addr160 = true → a.1 = b.1) (id : WalletID) :
    getWalletForAddr160 hasAddr iter s addr160 = some id ↔
      ∃ wlt, s.walletMap.lookup id = some wlt ∧ hasAddr wlt addr160 = true := by
  refine ⟨getWalletForAddr160_holds hasAddr iter registry, fun ⟨wlt, stored, holds⟩ => ?_⟩
  have member := (lookup_eq_some_iff registry.mapKeys_nodup _ _).mp stored
  obtain ⟨item, search⟩ := Option.isSome_iff_exists.mp
    (List.find?_isSome.mpr ⟨(id, wlt), (iter.perm _).symm.subset member, holds⟩ :
      ((iter.order s.walletMap).find? fun item => hasAddr item.2 addr160).isSome)
  have first := (iter.perm _).subset (List.mem_of_find?_eq_some search)
  rw [getWalletForAddr160, search, Option.map_some',
    unique item first _ member (by simpa using List.find?_some search) holds]

def addressBook : MainWindow :=
  { blank with
    walletMap := [("A", ⟨"A", "a", false, [], ["a1"]⟩), ("B", ⟨"B", "b", false, [], ["b1"]⟩)]
    walletIndices := [("A", 0), ("B", 1)]
    walletIDSet := {"A", "B"}
    walletIDList := ["A", "B"] }

theorem getWalletForAddr160_eq_some_iff_addressBook :
    Registry addressBook ∧
      (∀ a ∈ addressBook.walletMap, ∀ b ∈ addressBook.walletMap,
        decide ("b1" ∈ a.2.addrList) = true → decide ("b1" ∈ b.2.addrList) = true → a.1 = b.1) ∧
      (getWalletForAddr160 (fun wlt addr => decide (addr ∈ wlt.addrList)) ⟨List.reverse, List.reverse_perm⟩
          addressBook "b1" = some "B" ↔
        ∃ wlt, addressBook.walletMap.lookup "B" = some wlt ∧ decide ("b1" ∈ wlt.addrList) = true) :=
  have registry : Registry addressBook := ⟨by decide, by decide, by decide, by decide⟩
  ⟨registry, by decide, getWalletForAddr160_eq_some_iff _ _ registry "b1" (by decide) "B"⟩

/-! ## The wallet details dialog -/

/-- `execDlgWalletDetails(index)`, connected to a double click on the wallet view: the wallet
`walletMap[walletIDList[index.row()]]` whose details dialog opens. The dialog is GUI code outside
src and updates the wallet itself. -/
def execDlgWalletDetails (s : MainWindow) (row : Nat) : Except PyError Wallet :=
  match s.walletIDList[row]? with
  | none => .error .indexError
  | some wltID =>
    match s.walletMap.lookup wltID with
    | none => .error .keyError
    | some wlt => .ok wlt

/-- Every wallet of the map is filed under its own ID, as the loading loop files it. -/
def FiledByID (s : MainWindow) : Prop :=
  ∀ id wlt, s.walletMap.lookup id = some wlt → wlt.wltUniqueIDB58 = id

theorem FiledByID.of_map {s t : MainWindow} (filed : FiledByID s) (map : t.walletMap = s.walletMap) :
    FiledByID t :=
  fun id wlt found => filed id wlt (map ▸ found)

theorem LoadedFrom.filedByID {s : MainWindow} {loads : List (Path × Wallet)} {wltOffline : List String}
    (loaded : LoadedFrom s loads wltOffline) : FiledByID s := fun id wlt found => by
  rw [loaded.mapFirst] at found
  obtain ⟨load, search, rfl⟩ := Option.map_eq_some'.mp found
  simpa using List.find?_some search

/-- A load that returns normally files every wallet under its own ID. -/
theorem loadWalletsAndSettings_filedByID (readWalletFile : Path → Option Wallet) (armoryHomeDir : String)
    (listing : List String) (settings : Settings) (s : MainWindow)
    (normal : (loadWalletsAndSettings readWalletFile armoryHomeDir listing settings s).raised = none) :
    FiledByID (loadWalletsAndSettings readWalletFile armoryHomeDir listing settings s).state := by
  rw [loadWalletsAndSettings_parsed readWalletFile armoryHomeDir listing settings s
    (loadWalletPaths_parses readWalletFile _ _ _ _ normal)]
  exact (registered_loadedFrom _ _ _).filedByID

/-- On a registry whose wallets are filed under their own IDs, row `row` of the wallet list opens
the wallet listed there, whose ID is the row's and whose slots are at index `row`; a row past the
list raises `IndexError`, and no row raises `KeyError`. -/
theorem execDlgWalletDetails_registered {s : MainWindow} (registry : Registry s) (filed : FiledByID s)
    (row : Nat) :
    (∀ id, s.walletIDList[row]? = some id → ∃ wlt, execDlgWalletDetails s row = .ok wlt ∧
        wlt.wltUniqueIDB58 = id ∧ s.walletIndices.lookup id = some row) ∧
      (s.walletIDList[row]? = none → execDlgWalletDetails s row = .error .indexError) := by
  refine ⟨fun id listed => ?_, fun past => by simp [execDlgWalletDetails, past]⟩
  obtain ⟨bound, rfl⟩ := List.getElem?_eq_some_iff.mp listed
  have member := List.getElem_mem bound
  obtain ⟨wlt, found⟩ := Option.isSome_iff_exists.mp
    ((lookup_isSome_iff s.walletMap _).mpr (by rw [registry.mapKeys]; exact member))
  refine ⟨wlt, by simp [execDlgWalletDetails, listed, found], filed _ wlt found, ?_⟩
  rw [registry.indices _ member, List.indexOf_getElem registry.nodup]

end Armory.LoadWallets
