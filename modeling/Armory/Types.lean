import Mathlib.Data.Finset.Basic

/-!
What the main window of `ArmoryQt.py` reads from its collaborators: the engine's ledger
entries and wallets, the block data manager `TheBDM`, the zero-confirmation maps of the
networking factory and the settings file. A Python dict is an association list in insertion
order and a Python set a finite set.
-/

namespace Armory.Types

abbrev WalletID := String
abbrev TxHash := String
abbrev Path := String
abbrev Addr160 := String
abbrev RawTx := String

/-- The exceptions the window's code raises or lets through; `external` is one raised inside
a collaborator (the engine, the wallet file reader). -/
inductive PyError where
  | keyError
  | indexError
  | typeError
  | attributeError
  | external
  deriving DecidableEq, Repr, Inhabited

/-- A `LedgerEntry` of the engine, with the fields the window reads. -/
structure LedgerEntry where
  txHash : TxHash
  blockNum : Nat
  index : Nat
  value : Int
  deriving DecidableEq, Repr, Inhabited

/-- Modelled from the spec: the comparison `LedgerEntry::operator<` that Python's sort calls is
engine code missing from src; its ordering key is block height, then position in the block. -/
def LedgerEntry.key (e : LedgerEntry) : Nat × Nat := (e.blockNum, e.index)

/-- Modelled from the spec: `LedgerEntry::operator<`, lexicographic on the ordering key. -/
def LedgerEntry.lt (a b : LedgerEntry) : Prop :=
  a.blockNum < b.blockNum ∨ a.blockNum = b.blockNum ∧ a.index < b.index

instance : DecidableRel LedgerEntry.lt := fun a b =>
  inferInstanceAs (Decidable (a.blockNum < b.blockNum ∨ a.blockNum = b.blockNum ∧ a.index < b.index))

theorem LedgerEntry.key_eq_iff (a b : LedgerEntry) :
    a.key = b.key ↔ ¬a.lt b ∧ ¬b.lt a := by
  simp only [key, lt, Prod.mk.injEq]
  omega

/-- A `PyBtcWallet` as `readWalletFile` returns it, with the fields the window reads;
`addrList` is `getAddrList()`, each address by its `getAddr160()`. -/
structure Wallet where
  wltUniqueIDB58 : WalletID
  labelName : String
  watchingOnly : Bool
  commentsMap : List (TxHash × String)
  addrList : List Addr160
  deriving DecidableEq, Repr, Inhabited

/-- `WLTTYPES` of the GUI helpers (not in src), the first value `determineWalletType` returns. -/
inductive WalletType where
  | plain
  | crypt
  | watchOnly
  | offline
  deriving DecidableEq, Repr, Inhabited

/-- `TheBDM` at one moment, with the engine side of the wallets it keeps in sync, keyed by the
ID the window registered them under. `readBlkFileUpdate` is what the next call returns or
raises; `getAddrTxLedger` is `getTxLedger(addr20)` and `getLedgerEntriesForZeroConfTxList` is
the call on `wlt.cppWallet`. -/
structure Bdm where
  isInitialized : Bool
  topBlockHeight : Nat
  topBlockTimestamp : Nat
  readBlkFileUpdate : Except PyError Nat
  getBalance : WalletID → Except PyError Int
  getTxLedger : WalletID → List LedgerEntry
  getAddrTxLedger : WalletID → Addr160 → List LedgerEntry
  getLedgerEntriesForZeroConfTxList : WalletID → List RawTx → List LedgerEntry

/-- The zero-confirmation maps of `ArmoryClientFactory`: each transaction by its
`serialize()`, and its arrival time. -/
structure NetworkingFactory where
  zeroConfTx : List (TxHash × RawTx)
  zeroConfTxTime : List (TxHash × Nat)
  deriving DecidableEq, Repr, Inhabited

/-- The entries of the settings file that `loadWalletsAndSettings` reads, by key:
`First_Load`, `Load_Count`, `User_Mode`, `Other_Wallets`, `Excluded_Wallets` and
`Offline_WalletIDs`. -/
structure Settings where
  firstLoad : Bool
  loadCount : Nat
  userMode : String
  otherWallets : List Path
  excludedWallets : List String
  offlineWalletIDs : List String
  deriving DecidableEq, Repr, Inhabited

/-- Python's `d[k] = v` on a dict: a present key keeps its place, a new one goes last. -/
def dictSet {α β : Type} [DecidableEq α] (d : List (α × β)) (k : α) (v : β) : List (α × β) :=
  if k ∈ d.map Prod.fst then d.map (fun entry => if entry.1 = k then (k, v) else entry)
  else d ++ [(k, v)]

theorem dictSet_of_not_mem {α β : Type} [DecidableEq α] {d : List (α × β)} {k : α} (v : β)
    (fresh : k ∉ d.map Prod.fst) : dictSet d k v = d ++ [(k, v)] := by
  simp only [dictSet, if_neg fresh]

theorem lookup_cons_eq {α β : Type} [DecidableEq α] (entry : α × β) (d : List (α × β)) (key : α) :
    (entry :: d).lookup key = if key = entry.1 then some entry.2 else d.lookup key := by
  obtain ⟨k, v⟩ := entry
  by_cases hit : key = k
  · simp [List.lookup_cons, hit]
  · have differ : (key == k) = false := by simp [hit]
    simp [List.lookup_cons, hit, differ]

theorem lookup_isSome_iff {α β : Type} [DecidableEq α] (d : List (α × β)) (key : α) :
    (d.lookup key).isSome ↔ key ∈ d.map Prod.fst := by
  induction d with
  | nil => simp
  | cons entry rest ih =>
    rw [lookup_cons_eq, List.map_cons, List.mem_cons]
    by_cases hit : key = entry.1
    · rw [if_pos hit]
      exact iff_of_true rfl (.inl hit)
    · rw [if_neg hit, ih]
      exact (or_iff_right hit).symm

/-- In a dict, whose keys are distinct, a key maps to exactly the value it is stored with. -/
theorem lookup_eq_some_iff {α β : Type} [DecidableEq α] {d : List (α × β)}
    (distinct : (d.map Prod.fst).Nodup) (key : α) (value : β) :
    d.lookup key = some value ↔ (key, value) ∈ d := by
  induction d with
  | nil => simp
  | cons entry rest ih =>
    obtain ⟨k, v⟩ := entry
    obtain ⟨fresh, distinct⟩ := List.nodup_cons.mp distinct
    by_cases hit : key = k
    · subst hit
      have unstored : (key, value) ∉ rest := fun member => fresh (List.mem_map.mpr ⟨_, member, rfl⟩)
      simp [lookup_cons_eq, unstored, eq_comm]
    · simp [lookup_cons_eq, hit, ih distinct]

end Armory.Types
