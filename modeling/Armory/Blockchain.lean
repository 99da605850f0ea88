import Armory.CombinedLedger

/-!
`loadBlockchain`: the engine's top height becomes `latestBlockNum`. An initialized engine then
fills each wallet's balance slot and appends its ledgers, in the order the wallet dict yields
its items, and the combined ledger of all wallets is built. An uninitialized engine only leaves
a status message, and the ledger lists stay as loading left them: empty.
-/

namespace Armory.Blockchain
open Armory.Types Armory.Window Armory.LoadWallets Armory.CombinedLedger

/-- Lines 344-360, one pass of the loop over `walletMap.iteritems()`. The two sync calls on the
wallet are engine work. The balance goes to the wallet's slot, then its address ledgers and its
ledger are appended. -/
def syncWallet (bdm : Bdm) (s : MainWindow) : WalletID × Wallet → Outcome MainWindow
  | (wltID, wlt) =>
    match s.walletIndices.lookup wltID with
    | none => ⟨s, some .keyError⟩
    | some wltIndex =>
      withResult s (bdm.getBalance wltID) fun balance =>
        withResult s (s.walletBalances.set wltIndex balance) fun walletBalances =>
          ⟨{ s with
            walletBalances
            walletSubLedgers := s.walletSubLedgers ++ [wlt.addrList.map (bdm.getAddrTxLedger wltID)]
            walletLedgers := s.walletLedgers ++ [bdm.getTxLedger wltID] }, none⟩

/-- `loadBlockchain()`, with the engine as `bdm` and the dict's order as `iter`.
`BDM_LoadBlockchainFile()` is engine work and `walletModel.reset()` only refreshes a view. -/
def loadBlockchain (determineWalletType : Wallet → WalletType) (bdm : Bdm) (net : NetworkingFactory)
    (iter : IterOrder) (s : MainWindow) : Outcome MainWindow :=
  let s := { s with latestBlockNum := bdm.topBlockHeight }
  if bdm.isInitialized then
    (forEach (syncWallet bdm) (iter.order s.walletMap)
      { s with statusMessage := "Syncing wallets with blockchain..." }).andThen fun s =>
      (createCombinedLedger determineWalletType bdm net (some s.walletIDList) true s).andThen fun s =>
        ⟨{ s with
          ledgerSize := s.combinedLedger.length
          statusMessage := "Blockchain loaded, wallets sync\x27d!" }, none⟩
  else ⟨{ s with statusMessage := "! Blockchain loading failed !" }, none⟩

/-! ## The sync loop -/

/-- Everything one pass can do: raise and leave the window, or write the wallet's balance into
its slot and append its ledgers. -/
theorem syncWallet_cases (bdm : Bdm) (s : MainWindow) (item : WalletID × Wallet) :
    (syncWallet bdm s item).state = s ∧ (syncWallet bdm s item).raised.isSome ∨
      ∃ index balance entries, s.walletIndices.lookup item.1 = some index ∧
        bdm.getBalance item.1 = .ok balance ∧ s.walletBalances = .list entries ∧ index < entries.length ∧
        syncWallet bdm s item = ⟨{ s with
          walletBalances := .list (entries.set index balance)
          walletSubLedgers := s.walletSubLedgers ++ [item.2.addrList.map (bdm.getAddrTxLedger item.1)]
          walletLedgers := s.walletLedgers ++ [bdm.getTxLedger item.1] }, none⟩ := by
  obtain ⟨wltID, wlt⟩ := item
  cases found : s.walletIndices.lookup wltID with
  | none => simp [syncWallet, found]
  | some index =>
    cases read : bdm.getBalance wltID with
    | error => simp [syncWallet, found, read]
    | ok balance =>
      cases balances : s.walletBalances with
      | scalar => simp [syncWallet, found, read, balances, Balances.set]
      | list entries =>
        by_cases bound : index < entries.length
        · exact .inr ⟨index, balance, entries, rfl, rfl, rfl, bound,
            by simp [syncWallet, found, read, balances, Balances.set, bound]⟩
        · simp [syncWallet, found, read, balances, Balances.set, bound]

theorem syncWallets_sameRegistry (bdm : Bdm) (items : List (WalletID × Wallet)) (s : MainWindow) :
    SameRegistry s (forEach (syncWallet bdm) items s).state :=
  forEach_rel SameRegistry .refl .trans (fun item _ s => by
    rcases syncWallet_cases bdm s item with ⟨same, -⟩ | ⟨_, _, _, _, _, _, _, synced⟩
    · rw [same]
      exact .refl s
    · rw [synced]
      exact ⟨rfl, rfl, rfl, rfl⟩) s

/-- A sync loop that returns normally appends each item's ledger and its address ledgers, in the
loop's order. -/
theorem syncWallets_appended (bdm : Bdm) :
    ∀ (items : List (WalletID × Wallet)) (s : MainWindow),
      (forEach (syncWallet bdm) items s).raised = none →
        (forEach (syncWallet bdm) items s).state.walletLedgers =
            s.walletLedgers ++ items.map (bdm.getTxLedger ·.1) ∧
          (forEach (syncWallet bdm) items s).state.walletSubLedgers =
            s.walletSubLedgers ++ items.map fun item => item.2.addrList.map (bdm.getAddrTxLedger item.1)
  | [], s, _ => by simp
  | item :: rest, s, normal => by
    rw [forEach_cons] at normal ⊢
    rcases syncWallet_cases bdm s item with ⟨-, failed⟩ | ⟨_, _, _, _, _, _, _, synced⟩
    · exact absurd (Outcome.raised_of_andThen normal) (Option.isSome_iff_ne_none.mp failed)
    · rw [synced, Outcome.andThen_ok] at normal ⊢
      obtain ⟨ledgers, subLedgers⟩ := syncWallets_appended bdm rest _ normal
      simp [ledgers, subLedgers]

/-- A sync loop that returns normally, over items with distinct slots, writes each item's balance
into its slot and leaves every other slot as it was. -/
theorem syncWallets_balances (bdm : Bdm) :
    ∀ (items : List (WalletID × Wallet)) (s : MainWindow) (entries : List Int),
      s.walletBalances = .list entries → (items.map (s.walletIndices.lookup ·.1)).Nodup →
      (forEach (syncWallet bdm) items s).raised = none →
      ∃ written, (forEach (syncWallet bdm) items s).state.walletBalances = .list written ∧
        written.length = entries.length ∧
        (∀ item ∈ items, ∃ index balance, s.walletIndices.lookup item.1 = some index ∧
          bdm.getBalance item.1 = .ok balance ∧ written[index]? = some balance) ∧
        ∀ index, (∀ item ∈ items, s.walletIndices.lookup item.1 ≠ some index) →
          written[index]? = entries[index]?
  | [], s, entries, balances, _, _ => ⟨entries, balances, rfl, by simp, fun _ _ => rfl⟩
  | item :: rest, s, entries, balances, distinct, normal => by
    rw [forEach_cons] at normal ⊢
    rcases syncWallet_cases bdm s item with ⟨-, failed⟩ |
      ⟨index, balance, current, found, read, current_eq, bound, synced⟩
    · exact absurd (Outcome.raised_of_andThen normal) (Option.isSome_iff_ne_none.mp failed)
    obtain rfl : current = entries := Balances.list.inj (current_eq.symm.trans balances)
    rw [synced, Outcome.andThen_ok] at normal ⊢
    obtain ⟨fresh, distinct⟩ := List.nodup_cons.mp distinct
    obtain ⟨written, written_eq, length, rewritten, kept⟩ :=
      syncWallets_balances bdm rest _ (current.set index balance) (by rfl) (by exact distinct) normal
    have elsewhere : ∀ other ∈ rest, s.walletIndices.lookup other.1 ≠ some index :=
      fun other member same => fresh (List.mem_map.mpr ⟨other, member, same.trans found.symm⟩)
    refine ⟨written, written_eq, by simp [length], fun other member => ?_, fun other untouched => ?_⟩
    · rcases List.mem_cons.mp member with rfl | later
      · exact ⟨index, balance, found, read, by rw [kept index elsewhere, List.getElem?_set_self bound]⟩
      · exact rewritten other later
    · have differ : index ≠ other := fun same => untouched item (List.mem_cons_self _ _) (same ▸ found)
      rw [kept other fun item member => untouched item (List.mem_cons_of_mem _ member),
        List.getElem?_set_ne differ]

/-- Over a registry, the keys of the dict's items, in any order, are the registered IDs. -/
theorem orderKeys_perm {s : MainWindow} (registry : Registry s) (iter : IterOrder) :
    ((iter.order s.walletMap).map Prod.fst).Perm s.walletIDList :=
  registry.mapKeys ▸ (iter.perm _).map _

/-- Over a registry, the dict's items, in any order, have distinct balance slots. -/
theorem orderSlots_nodup {s : MainWindow} (registry : Registry s) (iter : IterOrder) :
    ((iter.order s.walletMap).map (s.walletIndices.lookup ·.1)).Nodup := by
  have keys := orderKeys_perm registry iter
  have distinct : (((iter.order s.walletMap).map Prod.fst).map s.walletIndices.lookup).Nodup :=
    (keys.nodup_iff.mpr registry.nodup).map_on fun x listed y listed' same => by
      rw [registry.indices x (keys.subset listed), registry.indices y (keys.subset listed')] at same
      exact (List.indexOf_inj (keys.subset listed) (keys.subset listed')).mp (Option.some.inj same)
  simpa only [List.map_map] using distinct

/-! ## What a load leaves -/

/-- What every built window keeps: the registry, and either a ledger slot per registered wallet
or, when the engine was not initialized at load, no slot at all. -/
structure Consistent (s : MainWindow) : Prop where
  registry : Registry s
  slots : s.walletLedgers.length = s.walletIDList.length ∨ s.walletLedgers.length = 0

theorem Consistent.of_same {s t : MainWindow} (consistent : Consistent s) (same : SameRegistry s t)
    (slots : t.walletLedgers.length = s.walletLedgers.length) : Consistent t where
  registry := consistent.registry.congr same
  slots := slots ▸ same.idList ▸ consistent.slots

theorem Consistent.of_frame {s t : MainWindow} (consistent : Consistent s) (frame : Frame s t) :
    Consistent t :=
  consistent.of_same frame.registry frame.slots

/-- A sync loop over every registered wallet that returns normally, from no ledger slots, leaves
a slot per wallet. -/
theorem syncWallets_sized (bdm : Bdm) (iter : IterOrder) {s : MainWindow} (registry : Registry s)
    (empty : s.walletLedgers = [])
    (normal : (forEach (syncWallet bdm) (iter.order s.walletMap) s).raised = none) :
    (forEach (syncWallet bdm) (iter.order s.walletMap) s).state.walletLedgers.length =
      (forEach (syncWallet bdm) (iter.order s.walletMap) s).state.walletIDList.length := by
  rw [(syncWallets_appended bdm _ s normal).1, (syncWallets_sameRegistry bdm _ s).idList, empty,
    List.nil_append, List.length_map, (iter.perm _).length_eq, ← registry.mapKeys, List.length_map]

theorem syncWallets_consistent (bdm : Bdm) (iter : IterOrder) {s : MainWindow} (registry : Registry s)
    (empty : s.walletLedgers = [])
    (normal : (forEach (syncWallet bdm) (iter.order s.walletMap) s).raised = none) :
    Consistent (forEach (syncWallet bdm) (iter.order s.walletMap) s).state :=
  ⟨registry.congr (syncWallets_sameRegistry bdm _ s), .inl (syncWallets_sized bdm iter registry empty normal)⟩

/-- On an initialized engine, a load that returns normally ran the sync loop to its end, from the
window with the new top height, and then rebuilt the combined ledger of every registered wallet. -/
theorem loadBlockchain_of_initialized (determineWalletType : Wallet → WalletType) (bdm : Bdm)
    (net : NetworkingFactory) (iter : IterOrder) (s : MainWindow) (initialized : bdm.isInitialized = true)
    (normal : (loadBlockchain determineWalletType bdm net iter s).raised = none) :
    let synced := forEach (syncWallet bdm) (iter.order s.walletMap)
      { s with latestBlockNum := bdm.topBlockHeight, statusMessage := "Syncing wallets with blockchain..." }
    let rebuilt := (createCombinedLedger determineWalletType bdm net (some synced.state.walletIDList) true
      synced.state).state
    synced.raised = none ∧ (loadBlockchain determineWalletType bdm net iter s).state =
      { rebuilt with
        ledgerSize := rebuilt.combinedLedger.length
        statusMessage := "Blockchain loaded, wallets sync\x27d!" } := by
  dsimp only [loadBlockchain] at normal ⊢
  rw [if_pos initialized] at normal ⊢
  have synced := Outcome.raised_of_andThen normal
  rw [Outcome.andThen_of_ok _ synced] at normal ⊢
  rw [Outcome.andThen_of_ok _ (Outcome.raised_of_andThen normal)]
  exact ⟨synced, rfl⟩

/-- A load keeps the registry, whether or not it returns normally. -/
theorem loadBlockchain_sameRegistry (determineWalletType : Wallet → WalletType) (bdm : Bdm)
    (net : NetworkingFactory) (iter : IterOrder) (s : MainWindow) :
    SameRegistry s (loadBlockchain determineWalletType bdm net iter s).state := by
  unfold loadBlockchain
  split
  · exact Outcome.rel_andThen SameRegistry .trans (.trans (by exact ⟨rfl, rfl, rfl, rfl⟩) (syncWallets_sameRegistry bdm _ _))
      fun t => Outcome.rel_andThen SameRegistry .trans
        (createCombinedLedger_frame determineWalletType bdm net _ true t).registry fun _ => ⟨rfl, rfl, rfl, rfl⟩
  · exact ⟨rfl, rfl, rfl, rfl⟩

/-- A load that returns normally, on a registry with no ledger slots yet, leaves a consistent
window: a slot per wallet if the engine was initialized, none if not. -/
theorem loadBlockchain_consistent (determineWalletType : Wallet → WalletType) (bdm : Bdm)
    (net : NetworkingFactory) (iter : IterOrder) {s : MainWindow} (registry : Registry s)
    (empty : s.walletLedgers = [])
    (normal : (loadBlockchain determineWalletType bdm net iter s).raised = none) :
    Consistent (loadBlockchain determineWalletType bdm net iter s).state := by
  by_cases initialized : bdm.isInitialized
  · obtain ⟨synced, loaded⟩ := loadBlockchain_of_initialized determineWalletType bdm net iter s
      initialized normal
    have synced := syncWallets_consistent bdm iter
      (s := { s with latestBlockNum := bdm.topBlockHeight, statusMessage := "Syncing wallets with blockchain..." })
      (registry.congr ⟨rfl, rfl, rfl, rfl⟩) empty synced
    rw [loaded]
    exact (synced.of_frame (createCombinedLedger_frame determineWalletType bdm net _ true _)).of_frame
      ⟨⟨rfl, rfl, rfl, rfl⟩, rfl, rfl⟩
  · simp only [loadBlockchain, if_neg initialized]
    exact ⟨registry.congr ⟨rfl, rfl, rfl, rfl⟩, .inr (by simp [empty])⟩

/-- A load on an initialized engine that returns normally, over a registry with a `-1` slot per
wallet, leaves in each wallet's slot the balance the engine reports for it, whatever order the
dict yields its items in. -/
theorem loadBlockchain_balances (determineWalletType : Wallet → WalletType) (bdm : Bdm)
    (net : NetworkingFactory) (iter : IterOrder) {s : MainWindow} (registry : Registry s)
    (unsynced : s.walletBalances = .list (List.replicate s.walletIDList.length (-1)))
    (initialized : bdm.isInitialized = true)
    (normal : (loadBlockchain determineWalletType bdm net iter s).raised = none) :
    ∃ entries, (loadBlockchain determineWalletType bdm net iter s).state.walletBalances = .list entries ∧
      entries.length = s.walletIDList.length ∧
      ∀ id ∈ s.walletIDList, ∃ balance, bdm.getBalance id = .ok balance ∧
        entries[s.walletIDList.indexOf id]? = some balance := by
  obtain ⟨synced, loaded⟩ := loadBlockchain_of_initialized determineWalletType bdm net iter s
    initialized normal
  rw [loaded, (createCombinedLedger_rewrites _ _ _ _ _ _).balances]
  obtain ⟨written, written_eq, length, rewritten, -⟩ := syncWallets_balances bdm _ _ _ (by exact unsynced)
    (by exact orderSlots_nodup registry iter) synced
  refine ⟨written, written_eq, length.trans (List.length_replicate _ _), fun id member => ?_⟩
  obtain ⟨item, listed, rfl⟩ := List.mem_map.mp ((orderKeys_perm registry iter).symm.subset member)
  obtain ⟨index, balance, found, read, slot⟩ := rewritten item listed
  obtain rfl : index = s.walletIDList.indexOf item.1 :=
    Option.some.inj (found.symm.trans (registry.indices _ member))
  exact ⟨balance, read, slot⟩

/-- A load on an initialized engine that returns normally, over a registry with no ledger slots
and no address ledgers yet, leaves each registered wallet's ledger in the wallet's slot: the
rebuild overwrites every slot that the sync loop filled in the dict's order. The address ledgers
stay in that order. -/
theorem loadBlockchain_ledgers (determineWalletType : Wallet → WalletType) (bdm : Bdm)
    (net : NetworkingFactory) (iter : IterOrder) {s : MainWindow} (registry : Registry s)
    (empty : s.walletLedgers = []) (noSubLedgers : s.walletSubLedgers = [])
    (initialized : bdm.isInitialized = true)
    (normal : (loadBlockchain determineWalletType bdm net iter s).raised = none) :
    (∀ id ∈ s.walletIDList, (loadBlockchain determineWalletType bdm net iter s).state.walletLedgers[
        s.walletIDList.indexOf id]? = some (bdm.getTxLedger id)) ∧
      (loadBlockchain determineWalletType bdm net iter s).state.walletSubLedgers =
        (iter.order s.walletMap).map fun item => item.2.addrList.map (bdm.getAddrTxLedger item.1) := by
  obtain ⟨synced, loaded⟩ := loadBlockchain_of_initialized determineWalletType bdm net iter s
    initialized normal
  have start : Registry
      { s with latestBlockNum := bdm.topBlockHeight, statusMessage := "Syncing wallets with blockchain..." } :=
    registry.congr ⟨rfl, rfl, rfl, rfl⟩
  have same := syncWallets_sameRegistry bdm (iter.order s.walletMap)
    { s with latestBlockNum := bdm.topBlockHeight, statusMessage := "Syncing wallets with blockchain..." }
  have sized := syncWallets_sized bdm iter start empty synced
  obtain ⟨-, subLedgers⟩ := syncWallets_appended bdm _ _ synced
  rw [loaded]
  refine ⟨fun id member => ?_, ?_⟩
  · have listed := same.idList ▸ member
    rw [congrArg (List.indexOf id) same.idList.symm,
      createCombinedLedger_slots determineWalletType bdm net (start.congr same) sized (some _) rfl
        (fun _ registered => registered) true id listed, if_pos listed]
  · rw [(createCombinedLedger_rewrites _ _ _ _ _ _).subLedgers, subLedgers, noSubLedgers, List.nil_append]

end Armory.Blockchain
