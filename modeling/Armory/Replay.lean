import Armory.Heartbeat

/-!
What a ledger rebuild reads, what it writes, and what running it again does. `createCombinedLedger`
reads the radio selection, the registry, the number of ledger slots, the block height and the
offline set. It writes the ledger slots, the combined ledger, its count, the labels and the table.
Two windows that agree on what it reads get the same writes: each written field is either left
in both or given one value in both (`Replays`). Run on its own result a rebuild therefore changes
nothing, and a tick of an engine that has not moved changes nothing either.
-/

namespace Armory.Replay
open Armory.Types Armory.Window Armory.LoadWallets Armory.CombinedLedger Armory.Heartbeat

/-! ## Writes made alike -/

section Replayed
variable {α : Type}

/-- `y'` is to `x'` what `y` is to `x`: both left as they were, or both set to one value. -/
def Replayed (x y x' y' : α) : Prop := (y = x ∧ y' = x') ∨ y' = y

theorem Replayed.refl (x x' : α) : Replayed x x x' x' := .inl ⟨rfl, rfl⟩

theorem Replayed.trans {x y z x' y' z' : α} (first : Replayed x y x' y') (second : Replayed y z y' z') :
    Replayed x z x' z' := by
  rcases second with ⟨rfl, rfl⟩ | same
  · exact first
  · exact .inr same

/-- A second run that starts where the first started, or where it ended, ends where the first
ended. -/
theorem Replayed.eq_of_start {x y x' y' : α} (replayed : Replayed x y x' y') (start : x' = x ∨ x' = y) :
    y' = y := by
  rcases replayed with ⟨rfl, rfl⟩ | same
  · rcases start with rfl | rfl <;> rfl
  · exact same

end Replayed

/-- Ledger slots `after'` are to `before'` what `after` are to `before`, slot by slot. -/
def SlotsReplayed (before after before' after' : List (List LedgerEntry)) : Prop :=
  ∀ j : Nat, Replayed before[j]? after[j]? before'[j]? after'[j]?

theorem SlotsReplayed.refl (before before' : List (List LedgerEntry)) :
    SlotsReplayed before before before' before' :=
  fun _ => .refl _ _

theorem SlotsReplayed.trans {before middle after before' middle' after' : List (List LedgerEntry)}
    (first : SlotsReplayed before middle before' middle') (second : SlotsReplayed middle after middle' after') :
    SlotsReplayed before after before' after' :=
  fun j => (first j).trans (second j)

/-- Writing one slot of two lists of one length, with one ledger. -/
theorem SlotsReplayed.set {before before' : List (List LedgerEntry)} (length : before'.length = before.length)
    (index : Nat) (ledger : List LedgerEntry) :
    SlotsReplayed before (before.set index ledger) before' (before'.set index ledger) := by
  intro j
  simp only [List.getElem?_set, length]
  split_ifs <;> simp [Replayed]

theorem SlotsReplayed.eq_of_start {before after before' after' : List (List LedgerEntry)}
    (replayed : SlotsReplayed before after before' after') (start : before' = before ∨ before' = after) :
    after' = after :=
  List.ext_getElem? fun j => (replayed j).eq_of_start (start.imp (congrArg (·[j]?)) (congrArg (·[j]?)))

/-! ## What a rebuild reads -/

/-- `t` agrees with `s` on every field a rebuild reads. -/
structure SameReads (s t : MainWindow) : Prop where
  checked : t.checked = s.checked
  idList : t.walletIDList = s.walletIDList
  map : t.walletMap = s.walletMap
  indices : t.walletIndices = s.walletIndices
  slots : t.walletLedgers.length = s.walletLedgers.length
  latestBlockNum : t.latestBlockNum = s.latestBlockNum
  offlines : t.walletOfflines = s.walletOfflines

theorem SameReads.refl (s : MainWindow) : SameReads s s := ⟨rfl, rfl, rfl, rfl, rfl, rfl, rfl⟩

/-- Rewrites keep what a rebuild reads. -/
theorem SameReads.of_rewrites {s a t b : MainWindow} (reads : SameReads s t) (first : Rewrites s a)
    (second : Rewrites t b) : SameReads a b := by
  obtain ⟨_, _, _, _, _, _, slots, rfl⟩ := first
  obtain ⟨_, _, _, _, _, _, slots', rfl⟩ := second
  exact ⟨reads.checked, reads.idList, reads.map, reads.indices, slots'.trans (reads.slots.trans slots.symm),
    reads.latestBlockNum, reads.offlines⟩

theorem selectedIDs_congr (determineWalletType : Wallet → WalletType) {s t : MainWindow}
    (reads : SameReads s t) : selectedIDs determineWalletType t = selectedIDs determineWalletType s := by
  simp only [selectedIDs, filt, reads.checked, reads.idList, reads.map]

/-- `b` is to `t` what `a` is to `s`: both are rewrites, and each field a rebuild writes is left
in both or holds one value in both. -/
structure Replays (s a t b : MainWindow) : Prop where
  first : Rewrites s a
  second : Rewrites t b
  slots : SlotsReplayed s.walletLedgers a.walletLedgers t.walletLedgers b.walletLedgers
  combined : Replayed s.combinedLedger a.combinedLedger t.combinedLedger b.combinedLedger
  size : Replayed s.ledgerSize a.ledgerSize t.ledgerSize b.ledgerSize
  funds : Replayed s.lblTotalFunds a.lblTotalFunds t.lblTotalFunds b.lblTotalFunds
  unconfirmed : Replayed s.lblUnconfirmed a.lblUnconfirmed t.lblUnconfirmed b.lblUnconfirmed
  table : Replayed s.ledgerTable a.ledgerTable t.ledgerTable b.ledgerTable

theorem Replays.refl (s t : MainWindow) : Replays s s t t :=
  ⟨.refl s, .refl t, .refl _ _, .refl _ _, .refl _ _, .refl _ _, .refl _ _, .refl _ _⟩

theorem Replays.trans {s a c t b d : MainWindow} (first : Replays s a t b) (second : Replays a c b d) :
    Replays s c t d :=
  ⟨first.first.trans second.first, first.second.trans second.second, first.slots.trans second.slots,
    first.combined.trans second.combined, first.size.trans second.size, first.funds.trans second.funds,
    first.unconfirmed.trans second.unconfirmed, first.table.trans second.table⟩

/-- `t` holds what `s` holds in every field a rebuild writes. -/
structure SameWritten (s t : MainWindow) : Prop where
  slots : t.walletLedgers = s.walletLedgers
  combined : t.combinedLedger = s.combinedLedger
  size : t.ledgerSize = s.ledgerSize
  funds : t.lblTotalFunds = s.lblTotalFunds
  unconfirmed : t.lblUnconfirmed = s.lblUnconfirmed
  table : t.ledgerTable = s.ledgerTable

/-- A second run whose written fields start as the first run's start, or as its result, ends
with the first run's writes. -/
theorem Replays.eq_of_start {s a t b : MainWindow} (replays : Replays s a t b)
    (start : SameWritten s t ∨ SameWritten a t) :
    b = { t with
      walletLedgers := a.walletLedgers, combinedLedger := a.combinedLedger, ledgerSize := a.ledgerSize
      lblTotalFunds := a.lblTotalFunds, lblUnconfirmed := a.lblUnconfirmed, ledgerTable := a.ledgerTable } := by
  obtain ⟨ledgers, combined, size, funds, unconfirmed, table, -, rfl⟩ := replays.second
  have slots : ledgers = a.walletLedgers := replays.slots.eq_of_start (start.imp (·.slots) (·.slots))
  have combined : combined = a.combinedLedger :=
    replays.combined.eq_of_start (start.imp (·.combined) (·.combined))
  have size : size = a.ledgerSize := replays.size.eq_of_start (start.imp (·.size) (·.size))
  have funds : funds = a.lblTotalFunds := replays.funds.eq_of_start (start.imp (·.funds) (·.funds))
  have unconfirmed : unconfirmed = a.lblUnconfirmed :=
    replays.unconfirmed.eq_of_start (start.imp (·.unconfirmed) (·.unconfirmed))
  have table : table = a.ledgerTable := replays.table.eq_of_start (start.imp (·.table) (·.table))
  subst slots combined size funds unconfirmed table
  rfl

/-! ## One rebuild, replayed -/

theorem combineWallet_replays (bdm : Bdm) {a b : MainWindow} (reads : SameReads a b)
    (combined : b.combinedLedger = a.combinedLedger) (wltID : WalletID) :
    (combineWallet bdm b wltID).raised = (combineWallet bdm a wltID).raised ∧
      Replays a (combineWallet bdm a wltID).state b (combineWallet bdm b wltID).state ∧
      (combineWallet bdm b wltID).state.combinedLedger = (combineWallet bdm a wltID).state.combinedLedger := by
  have map : b.walletMap.lookup wltID = a.walletMap.lookup wltID := by rw [reads.map]
  have indices : b.walletIndices.lookup wltID = a.walletIndices.lookup wltID := by rw [reads.indices]
  unfold combineWallet
  rw [map, indices, reads.slots]
  split
  · split
    · exact ⟨rfl, ⟨⟨_, _, _, _, _, _, List.length_set .., rfl⟩, ⟨_, _, _, _, _, _, List.length_set .., rfl⟩,
        .set reads.slots _ _, .inr (by rw [combined]), .refl _ _, .refl _ _, .refl _ _, .refl _ _⟩,
        by rw [combined]⟩
    · exact ⟨rfl, .refl a b, combined⟩
  · exact ⟨rfl, .refl a b, combined⟩

/-- The wallet loop, run on two windows that agree on what a rebuild reads and on the combined
ledger, raises the same and makes the same writes. -/
theorem combineWallets_replays (bdm : Bdm) :
    ∀ (ids : List WalletID) (a b : MainWindow), SameReads a b → b.combinedLedger = a.combinedLedger →
      (forEach (combineWallet bdm) ids b).raised = (forEach (combineWallet bdm) ids a).raised ∧
        Replays a (forEach (combineWallet bdm) ids a).state b (forEach (combineWallet bdm) ids b).state ∧
        (forEach (combineWallet bdm) ids b).state.combinedLedger =
          (forEach (combineWallet bdm) ids a).state.combinedLedger
  | [], a, b, _, combined => ⟨rfl, .refl a b, combined⟩
  | wltID :: rest, a, b, reads, combined => by
    obtain ⟨raised, replays, combined'⟩ := combineWallet_replays bdm reads combined wltID
    simp only [forEach_cons]
    cases stepB : combineWallet bdm b wltID with
    | mk b' raisedB =>
      cases stepA : combineWallet bdm a wltID with
      | mk a' raisedA =>
        rw [stepA, stepB] at raised replays combined'
        dsimp only at raised combined'
        subst raised
        cases raisedB with
        | some error => exact ⟨rfl, replays, combined'⟩
        | none =>
          obtain ⟨raised, replays', combined''⟩ :=
            combineWallets_replays bdm rest a' b' (reads.of_rewrites replays.first replays.second) combined'
          exact ⟨raised, replays.trans replays', combined''⟩

/-- The sort and the labels, then the table, on two windows that agree on what a rebuild reads
and on the combined ledger. -/
theorem publishLedger_replays (bdm : Bdm) (net : NetworkingFactory) {a b : MainWindow} (reads : SameReads a b)
    (combined : b.combinedLedger = a.combinedLedger) :
    (publishLedger bdm net b).raised = (publishLedger bdm net a).raised ∧
      Replays a (publishLedger bdm net a).state b (publishLedger bdm net b).state := by
  have sorted : withSortedLedger b = { b with
      combinedLedger := (withSortedLedger a).combinedLedger, ledgerSize := (withSortedLedger a).ledgerSize
      lblTotalFunds := (withSortedLedger a).lblTotalFunds
      lblUnconfirmed := (withSortedLedger a).lblUnconfirmed } := by
    simp only [withSortedLedger, combined, reads.latestBlockNum]
  have table : convertLedgerToTable bdm net (withSortedLedger b) (withSortedLedger b).combinedLedger =
      convertLedgerToTable bdm net (withSortedLedger a) (withSortedLedger a).combinedLedger := by
    rw [congrArg MainWindow.combinedLedger sorted]
    exact convertLedgerToTable_congr bdm net reads.latestBlockNum reads.map reads.offlines _
  have shown : Replays a (withSortedLedger a) b (withSortedLedger b) := by
    rw [sorted]
    exact ⟨⟨_, _, _, _, _, _, rfl, rfl⟩, ⟨_, _, _, _, _, _, rfl, rfl⟩, .refl _ _, .inr rfl, .inr rfl, .inr rfl,
      .inr rfl, .refl _ _⟩
  dsimp only [publishLedger]
  rw [table]
  cases convertLedgerToTable bdm net (withSortedLedger a) (withSortedLedger a).combinedLedger with
  | error error => exact ⟨rfl, shown⟩
  | ok rows =>
    refine ⟨rfl, shown.trans ⟨⟨_, _, _, _, _, _, rfl, rfl⟩, ⟨_, _, _, _, _, _, rfl, rfl⟩, .refl _ _, .refl _ _,
      .refl _ _, .refl _ _, .refl _ _, .inr rfl⟩⟩

/-- `createCombinedLedger` reads only what `SameReads` names: on two windows that agree there it
raises the same and makes the same writes. -/
theorem createCombinedLedger_replays (determineWalletType : Wallet → WalletType) (bdm : Bdm)
    (net : NetworkingFactory) (wltIDList : Option (List WalletID)) (withZeroConf : Bool) {s t : MainWindow}
    (reads : SameReads s t) :
    (createCombinedLedger determineWalletType bdm net wltIDList withZeroConf t).raised =
        (createCombinedLedger determineWalletType bdm net wltIDList withZeroConf s).raised ∧
      Replays s (createCombinedLedger determineWalletType bdm net wltIDList withZeroConf s).state
        t (createCombinedLedger determineWalletType bdm net wltIDList withZeroConf t).state := by
  unfold createCombinedLedger
  rw [selectedIDs_congr determineWalletType reads]
  cases wltIDList.elim (selectedIDs determineWalletType s) .ok with
  | error error => exact ⟨rfl, .refl s t⟩
  | ok ids =>
    have cleared : Replays s { s with combinedLedger := [] } t { t with combinedLedger := [] } :=
      ⟨⟨_, _, _, _, _, _, rfl, rfl⟩, ⟨_, _, _, _, _, _, rfl, rfl⟩, .refl _ _, .inr rfl, .refl _ _, .refl _ _,
        .refl _ _, .refl _ _⟩
    have clearedReads : SameReads { s with combinedLedger := [] } { t with combinedLedger := [] } :=
      ⟨reads.checked, reads.idList, reads.map, reads.indices, reads.slots, reads.latestBlockNum, reads.offlines⟩
    obtain ⟨raised, looped, combined⟩ := combineWallets_replays bdm ids { s with combinedLedger := [] }
      { t with combinedLedger := [] } clearedReads rfl
    dsimp only
    cases loopB : forEach (combineWallet bdm) ids { t with combinedLedger := [] } with
    | mk b raisedB =>
      cases loopA : forEach (combineWallet bdm) ids { s with combinedLedger := [] } with
      | mk a raisedA =>
        rw [loopA, loopB] at raised looped combined
        dsimp only at raised combined
        subst raised
        cases raisedB with
        | some error => exact ⟨rfl, cleared.trans looped⟩
        | none =>
          obtain ⟨raised, published⟩ := publishLedger_replays bdm net
            (clearedReads.of_rewrites looped.first looped.second) combined
          exact ⟨raised, (cleared.trans looped).trans published⟩

/-- A rebuild run again on its own result raises the same and changes nothing. -/
theorem createCombinedLedger_replay (determineWalletType : Wallet → WalletType) (bdm : Bdm)
    (net : NetworkingFactory) (wltIDList : Option (List WalletID)) (withZeroConf : Bool) (s : MainWindow) :
    createCombinedLedger determineWalletType bdm net wltIDList withZeroConf
        (createCombinedLedger determineWalletType bdm net wltIDList withZeroConf s).state =
      createCombinedLedger determineWalletType bdm net wltIDList withZeroConf s := by
  obtain ⟨raised, replays⟩ := createCombinedLedger_replays determineWalletType bdm net wltIDList withZeroConf
    ((SameReads.refl s).of_rewrites (.refl s) (createCombinedLedger_rewrites _ _ _ _ _ s))
  exact Outcome.ext (replays.eq_of_start (.inr ⟨rfl, rfl, rfl, rfl, rfl, rfl⟩)) raised

/-! ## One tick, replayed -/

/-- On a window at the height a block check left, the same check raises the same and changes
nothing. -/
theorem checkNewBlocks_settled (bdm : Bdm) {s t : MainWindow}
    (height : t.latestBlockNum = (checkNewBlocks bdm s).state.latestBlockNum) :
    checkNewBlocks bdm t = ⟨t, (checkNewBlocks bdm s).raised⟩ := by
  unfold checkNewBlocks at height ⊢
  revert height
  cases bdm.isInitialized with
  | false => exact fun _ => rfl
  | true =>
    cases bdm.readBlkFileUpdate with
    | error => exact fun _ => rfl
    | ok newBlks =>
      by_cases fresh : newBlks > 0
      · simp [fresh]
      · intro height
        simp only [fresh, if_false, if_true, withResult_ok] at height ⊢
        rw [← height]

/-- The balance loop raises or not whatever the window, and either writes no balance or leaves
one balance whatever the window: the last one it read. -/
theorem updateBalances_uniform (bdm : Bdm) :
    ∀ items : List (WalletID × Wallet), ∃ raised : Option PyError,
      (∀ s, forEach (updateBalance bdm) items s = ⟨s, raised⟩) ∨
        ∃ balance, ∀ s, forEach (updateBalance bdm) items s = ⟨{ s with walletBalances := .scalar balance }, raised⟩
  | [] => ⟨none, .inl fun _ => rfl⟩
  | item :: rest => by
    cases read : bdm.getBalance item.1 with
    | error error => exact ⟨some error, .inl fun s => by simp [updateBalance, read]⟩
    | ok balance =>
      obtain ⟨raised, unwritten | ⟨last, written⟩⟩ := updateBalances_uniform bdm rest
      · exact ⟨raised, .inr ⟨balance, fun s => by simp [updateBalance, read, unwritten]⟩⟩
      · exact ⟨raised, .inr ⟨last, fun s => by simp [updateBalance, read, written]⟩⟩

/-- The balance loop run again on its own result raises the same and leaves the same window. -/
theorem updateBalances_replay (bdm : Bdm) (items : List (WalletID × Wallet)) (s : MainWindow) :
    forEach (updateBalance bdm) items (forEach (updateBalance bdm) items s).state =
      forEach (updateBalance bdm) items s := by
  obtain ⟨raised, unwritten | ⟨balance, written⟩⟩ := updateBalances_uniform bdm items
  · rw [unwritten, unwritten]
  · rw [written, written]

/-- A balance loop that returned normally changes nothing on a window holding the balances it
left. -/
theorem updateBalances_settled (bdm : Bdm) {items : List (WalletID × Wallet)} {s t : MainWindow}
    (normal : (forEach (updateBalance bdm) items s).raised = none)
    (balances : t.walletBalances = (forEach (updateBalance bdm) items s).state.walletBalances) :
    forEach (updateBalance bdm) items t = ⟨t, none⟩ := by
  obtain ⟨raised, unwritten | ⟨balance, written⟩⟩ := updateBalances_uniform bdm items
  · simp only [unwritten] at normal ⊢
    rw [normal]
  · simp only [written] at normal balances ⊢
    rw [normal, ← balances]

theorem forEach_extraHeartbeatFunctions (determineWalletType : Wallet → WalletType) (bdm : Bdm)
    (net : NetworkingFactory) (s : MainWindow) :
    forEach (fun s func => func s) (extraHeartbeatFunctions determineWalletType bdm net) s =
      createCombinedLedger determineWalletType bdm net none true s :=
  Outcome.andThen_normal _

/-- After the block check, the balance loop and the rebuild, run again on their own result, raise
the same and change nothing. -/
theorem balancesAndRebuild_replay (determineWalletType : Wallet → WalletType) (bdm : Bdm)
    (net : NetworkingFactory) (iter : IterOrder) (s : MainWindow) :
    let rest := fun s : MainWindow => (forEach (updateBalance bdm) (iter.order s.walletMap) s).andThen
      (forEach (fun s func => func s) (extraHeartbeatFunctions determineWalletType bdm net))
    rest (rest s).state = rest s := by
  intro rest
  have map : (forEach (updateBalance bdm) (iter.order s.walletMap) s).state.walletMap = s.walletMap :=
    (forEach_rel Frame .refl .trans (fun item _ s => updateBalance_frame bdm s item) s).registry.map
  cases looped : forEach (updateBalance bdm) (iter.order s.walletMap) s with
  | mk balanced raised =>
    rw [looped] at map
    dsimp only at map
    cases raised with
    | some error =>
      have replay := updateBalances_replay bdm (iter.order s.walletMap) s
      rw [looped] at replay
      dsimp only at replay
      simp only [rest, looped, Outcome.andThen_raised, map, replay]
    | none =>
      have rebuilt := createCombinedLedger_rewrites determineWalletType bdm net none true balanced
      have settled := updateBalances_settled bdm (t := (createCombinedLedger determineWalletType bdm net
        none true balanced).state) (by rw [looped]) (by rw [looped, rebuilt.balances])
      simp only [rest, looped, Outcome.andThen_ok, forEach_extraHeartbeatFunctions,
        (rebuilt.frame.registry.map.trans map), settled, createCombinedLedger_replay]

/-- A tick run again at once with the same engine raises the same and changes nothing. -/
theorem heartbeatSteps_replay (determineWalletType : Wallet → WalletType) (bdm : Bdm)
    (net : NetworkingFactory) (iter : IterOrder) (s : MainWindow) :
    heartbeatSteps (extraHeartbeatFunctions determineWalletType bdm net) bdm iter
        (heartbeatSteps (extraHeartbeatFunctions determineWalletType bdm net) bdm iter s).state =
      heartbeatSteps (extraHeartbeatFunctions determineWalletType bdm net) bdm iter s := by
  have height := heartbeatSteps_frame (extraHeartbeatFunctions determineWalletType bdm net) bdm iter s
    (extraHeartbeatFunctions_frame determineWalletType bdm net)
  unfold heartbeatSteps at height ⊢
  cases checked : checkNewBlocks bdm s with
  | mk checkedWindow raised =>
    rw [checkNewBlocks_settled bdm (s := s) (by rw [checked] at height ⊢; exact height.latestBlockNum), checked]
    cases raised with
    | some error => rfl
    | none => exact balancesAndRebuild_replay determineWalletType bdm net iter checkedWindow

/-! ## What the dict's order reaches -/

/-- `t` is `s` but perhaps for the balances and the address ledgers: the two fields the order of
`walletMap.iteritems()` reaches. -/
def OrderOnly (s t : MainWindow) : Prop :=
  ∃ (balances : Balances) (subLedgers : List (List (List LedgerEntry))),
    t = { s with walletBalances := balances, walletSubLedgers := subLedgers }

theorem OrderOnly.refl (s : MainWindow) : OrderOnly s s := ⟨s.walletBalances, s.walletSubLedgers, rfl⟩

/-- Two sequences whose first calls return normally together and leave related windows, and whose
rests keep the relation, keep it. -/
theorem OrderOnly.andThen {first second : Outcome MainWindow} {next next' : MainWindow → Outcome MainWindow}
    (normal : second.raised = none ↔ first.raised = none) (related : OrderOnly first.state second.state)
    (nextRelated : ∀ {a b}, OrderOnly a b → OrderOnly (next a).state (next' b).state) :
    OrderOnly (first.andThen next).state (second.andThen next').state := by
  obtain ⟨a, _ | error⟩ := first <;> obtain ⟨b, _ | error'⟩ := second
  · exact nextRelated related
  · exact absurd (normal.mpr rfl) nofun
  · exact absurd (normal.mp rfl) nofun
  · exact related

theorem OrderOnly.sameReads {s t : MainWindow} (related : OrderOnly s t) : SameReads s t := by
  obtain ⟨_, _, rfl⟩ := related
  exact ⟨rfl, rfl, rfl, rfl, rfl, rfl, rfl⟩

/-- Writes made alike on windows that differ at most in the balances and the address ledgers
leave windows that differ at most there. -/
theorem Replays.orderOnly {s a t b : MainWindow} (replays : Replays s a t b) (related : OrderOnly s t) :
    OrderOnly a b := by
  obtain ⟨balances, subLedgers, rfl⟩ := related
  have written := replays.eq_of_start (.inl ⟨rfl, rfl, rfl, rfl, rfl, rfl⟩)
  obtain ⟨_, _, _, _, _, _, -, rewritten⟩ := replays.first
  exact ⟨balances, subLedgers, by rw [written, rewritten]⟩

/-- A rebuild reads neither the balances nor the address ledgers. -/
theorem createCombinedLedger_orderOnly (determineWalletType : Wallet → WalletType) (bdm : Bdm)
    (net : NetworkingFactory) (wltIDList : Option (List WalletID)) (withZeroConf : Bool) {s t : MainWindow}
    (related : OrderOnly s t) :
    (createCombinedLedger determineWalletType bdm net wltIDList withZeroConf t).raised =
        (createCombinedLedger determineWalletType bdm net wltIDList withZeroConf s).raised ∧
      OrderOnly (createCombinedLedger determineWalletType bdm net wltIDList withZeroConf s).state
        (createCombinedLedger determineWalletType bdm net wltIDList withZeroConf t).state :=
  have replays := createCombinedLedger_replays determineWalletType bdm net wltIDList withZeroConf
    related.sameReads
  ⟨replays.1, replays.2.orderOnly related⟩

theorem publishLedger_orderOnly (bdm : Bdm) (net : NetworkingFactory) {s t : MainWindow}
    (related : OrderOnly s t) : OrderOnly (publishLedger bdm net s).state (publishLedger bdm net t).state := by
  have combined : t.combinedLedger = s.combinedLedger := by obtain ⟨_, _, rfl⟩ := related; rfl
  exact (publishLedger_replays bdm net related.sameReads combined).2.orderOnly related

theorem checkNewBlocks_orderOnly (bdm : Bdm) {s t : MainWindow} (related : OrderOnly s t) :
    (checkNewBlocks bdm t).raised = (checkNewBlocks bdm s).raised ∧
      OrderOnly (checkNewBlocks bdm s).state (checkNewBlocks bdm t).state := by
  obtain ⟨balances, subLedgers, rfl⟩ := related
  unfold checkNewBlocks
  split
  · cases bdm.readBlkFileUpdate with
    | error => exact ⟨rfl, balances, subLedgers, rfl⟩
    | ok newBlks =>
      by_cases fresh : newBlks > 0 <;> refine ⟨?_, balances, subLedgers, ?_⟩ <;> simp [fresh]
  · exact ⟨rfl, balances, subLedgers, rfl⟩

/-- The balance loop returns normally exactly when every balance it reads is returned. -/
theorem updateBalances_normal_iff (bdm : Bdm) :
    ∀ (items : List (WalletID × Wallet)) (s : MainWindow),
      (forEach (updateBalance bdm) items s).raised = none ↔ ∀ item ∈ items, ∃ balance, bdm.getBalance item.1 = .ok balance
  | [], _ => by simp
  | item :: rest, s => by
    cases read : bdm.getBalance item.1 with
    | error error => simp [updateBalance, read]
    | ok balance => simp [updateBalance, read, updateBalances_normal_iff bdm rest]

/-- Two balance loops over the dict's items in two orders, on windows that differ at most in the
balances and the address ledgers, return normally together and leave such windows. -/
theorem updateBalances_orderOnly (bdm : Bdm) {items items' : List (WalletID × Wallet)} (perm : items'.Perm items)
    {s t : MainWindow} (related : OrderOnly s t) :
    ((forEach (updateBalance bdm) items' t).raised = none ↔ (forEach (updateBalance bdm) items s).raised = none) ∧
      OrderOnly (forEach (updateBalance bdm) items s).state (forEach (updateBalance bdm) items' t).state := by
  obtain ⟨balances, subLedgers, rfl⟩ := related
  refine ⟨by simp only [updateBalances_normal_iff, perm.mem_iff], ?_⟩
  obtain ⟨raised, unwritten | ⟨balance, written⟩⟩ := updateBalances_uniform bdm items <;>
    obtain ⟨raised', unwritten' | ⟨balance', written'⟩⟩ := updateBalances_uniform bdm items'
  · simp only [unwritten, unwritten']
    exact ⟨balances, subLedgers, rfl⟩
  · simp only [unwritten, written']
    exact ⟨_, subLedgers, rfl⟩
  · simp only [written, unwritten']
    exact ⟨balances, subLedgers, rfl⟩
  · simp only [written, written']
    exact ⟨_, subLedgers, rfl⟩

/-- A tick reads neither the balances nor the address ledgers, and its dict order reaches only the
balances: ticks of one engine in two orders, on windows that differ at most in those two fields,
leave windows that differ at most there. -/
theorem heartbeatSteps_orderOnly (determineWalletType : Wallet → WalletType) (bdm : Bdm)
    (net : NetworkingFactory) (iter iter' : IterOrder) {s t : MainWindow} (related : OrderOnly s t) :
    OrderOnly (heartbeatSteps (extraHeartbeatFunctions determineWalletType bdm net) bdm iter s).state
      (heartbeatSteps (extraHeartbeatFunctions determineWalletType bdm net) bdm iter' t).state := by
  obtain ⟨checkedRaised, checked⟩ := checkNewBlocks_orderOnly bdm related
  refine OrderOnly.andThen (by rw [checkedRaised]) checked fun {a b} relatedAB => ?_
  have perm : (iter'.order b.walletMap).Perm (iter.order a.walletMap) := by
    obtain ⟨_, _, rfl⟩ := relatedAB
    exact (iter'.perm _).trans (iter.perm _).symm
  obtain ⟨normal, balanced⟩ := updateBalances_orderOnly bdm perm relatedAB
  exact OrderOnly.andThen normal balanced fun related => by
    simpa only [forEach_extraHeartbeatFunctions] using
      (createCombinedLedger_orderOnly determineWalletType bdm net none true related).2

end Armory.Replay
