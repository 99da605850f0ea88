import Armory.Types

/-!
The state of `ArmoryMainWindow`: the fields its methods read and write, with each Qt view
reduced to what it shows. A method call returns the object it leaves and the exception it
raised; a Python exception keeps every assignment made before it.
-/

namespace Armory.Window
open Armory.Types

/-- `walletBalances`: the list `loadWalletsAndSettings` builds, or the single number that a
`Heartbeat` tick assigns in its place. -/
inductive Balances where
  | list (entries : List Int)
  | scalar (value : Int)
  deriving DecidableEq, Repr, Inhabited

/-- `walletBalances.append(value)`; a number has no attribute `append`. -/
def Balances.append : Balances → Int → Except PyError Balances
  | .list entries, value => .ok (.list (entries ++ [value]))
  | .scalar _, _ => .error .attributeError

/-- `walletBalances[index] = value`, out of range or on a number an error. -/
def Balances.set : Balances → Nat → Int → Except PyError Balances
  | .list entries, index, value =>
    if index < entries.length then .ok (.list (entries.set index value)) else .error .indexError
  | .scalar _, _, _ => .error .typeError

/-- Which of `rdoAllWallets`, `rdoMyWallets` and `rdoWatchOnly` is checked. The three radio
buttons share one parent and one exclusive group, so exactly one is. -/
inductive Selection where
  | allWallets
  | myWallets
  | watchOnly
  deriving DecidableEq, Repr, Inhabited

inductive UserMode where
  | standard
  | advanced
  deriving DecidableEq, Repr, Inhabited

/-- A row of `ledgerTable` as `convertLedgerToTable` builds it. The date column is
`unixTimeToFormatStr(txtime)` and the amount column `coin2str(value)`; both format a field
kept here. `isMine` is the column the source comments "Is this money mine?". -/
structure Row where
  nConf : Int
  txtime : Nat
  value : Int
  labelName : String
  comment : String
  isMine : Bool
  wltID : WalletID
  deriving DecidableEq, Repr, Inhabited

/-- The main window. `ledgerTable` is what `ledgerView` shows, and `lblTotalFunds` and
`lblUnconfirmed` the amounts their labels show (0 before any text is set); `checked` is the
radio selection and `statusMessage` the last status-bar message. -/
structure MainWindow where
  settings : Settings
  firstLoad : Bool
  usermode : UserMode
  walletMap : List (WalletID × Wallet)
  walletIndices : List (WalletID × Nat)
  walletIDSet : Finset WalletID
  walletIDList : List WalletID
  walletBalances : Balances
  walletSubLedgers : List (List (List LedgerEntry))
  walletLedgers : List (List LedgerEntry)
  combinedLedger : List (WalletID × LedgerEntry)
  ledgerSize : Nat
  latestBlockNum : Nat
  walletOfflines : Finset WalletID
  ledgerTable : List Row
  lblTotalFunds : Int
  lblUnconfirmed : Int
  checked : Selection
  statusMessage : String
  deriving DecidableEq, Inhabited

/-- The object before `__init__` assigns its fields. Every modelled path assigns a field before
reading it, so these values are never read. -/
def blank : MainWindow where
  settings := ⟨false, 0, "", [], [], []⟩
  firstLoad := false
  usermode := .standard
  walletMap := []
  walletIndices := []
  walletIDSet := ∅
  walletIDList := []
  walletBalances := .list []
  walletSubLedgers := []
  walletLedgers := []
  combinedLedger := []
  ledgerSize := 0
  latestBlockNum := 0
  walletOfflines := ∅
  ledgerTable := []
  lblTotalFunds := 0
  lblUnconfirmed := 0
  checked := .allWallets
  statusMessage := ""

/-- An order in which `walletMap.iteritems()` yields the wallet dict's items: some permutation of
them. Python 2 fixes it by the keys' hashes, which the model leaves open. -/
structure IterOrder where
  order : List (WalletID × Wallet) → List (WalletID × Wallet)
  perm : ∀ items, (order items).Perm items

/-- The items in insertion order, one order the dict may use. -/
def insertionOrder : IterOrder := ⟨id, List.Perm.refl⟩

/-- What a method call leaves: the object, and the exception it raised, if any. -/
structure Outcome (σ : Type) where
  state : σ
  raised : Option PyError
  deriving DecidableEq

section Calls
variable {σ α : Type}

/-- The statements after a call run only when it returned normally. -/
def Outcome.andThen (first : Outcome σ) (next : σ → Outcome σ) : Outcome σ :=
  match first.raised with
  | none => next first.state
  | some _ => first

/-- Run `next` on what a call returns; a call that raises leaves `s` and the exception. -/
def withResult (s : σ) (call : Except PyError α) (next : α → Outcome σ) : Outcome σ :=
  match call with
  | .ok value => next value
  | .error error => ⟨s, some error⟩

/-- A Python `for` loop over `items` with body `body`: it stops at the first pass that raises. -/
def forEach (body : σ → α → Outcome σ) : List α → σ → Outcome σ
  | [], s => ⟨s, none⟩
  | item :: rest, s => (body s item).andThen (forEach body rest)

@[simp] theorem Outcome.andThen_ok (s : σ) (next : σ → Outcome σ) :
    (⟨s, none⟩ : Outcome σ).andThen next = next s := rfl

@[simp] theorem Outcome.andThen_raised (s : σ) (error : PyError) (next : σ → Outcome σ) :
    (⟨s, some error⟩ : Outcome σ).andThen next = ⟨s, some error⟩ := rfl

@[simp] theorem withResult_ok (s : σ) (value : α) (next : α → Outcome σ) :
    withResult s (.ok value) next = next value := rfl

@[simp] theorem withResult_error (s : σ) (error : PyError) (next : α → Outcome σ) :
    withResult s (.error error) next = ⟨s, some error⟩ := rfl

@[simp] theorem forEach_nil (body : σ → α → Outcome σ) (s : σ) : forEach body [] s = ⟨s, none⟩ := rfl

@[simp] theorem forEach_cons (body : σ → α → Outcome σ) (item : α) (rest : List α) (s : σ) :
    forEach body (item :: rest) s = (body s item).andThen (forEach body rest) := rfl

theorem Outcome.ext {first second : Outcome σ} (state : first.state = second.state)
    (raised : first.raised = second.raised) : first = second := by
  cases first
  cases second
  cases state
  cases raised
  rfl

@[simp] theorem Outcome.andThen_normal (first : Outcome σ) : first.andThen (fun s => ⟨s, none⟩) = first := by
  obtain ⟨s, _ | error⟩ := first <;> rfl

@[simp] theorem Outcome.andThen_forEach_nil (first : Outcome σ) (body : σ → α → Outcome σ) :
    first.andThen (forEach body []) = first :=
  first.andThen_normal

/-- A loop over two lists runs the second only when the first returns normally. -/
theorem forEach_append (body : σ → α → Outcome σ) (first second : List α) (s : σ) :
    forEach body (first ++ second) s = (forEach body first s).andThen (forEach body second) := by
  induction first generalizing s with
  | nil => rfl
  | cons item rest ih =>
    simp only [List.cons_append, forEach_cons]
    cases body s item with
    | mk t raised =>
      cases raised with
      | none => simp only [Outcome.andThen_ok, ih]
      | some error => rfl

theorem Outcome.raised_of_andThen {first : Outcome σ} {next : σ → Outcome σ}
    (normal : (first.andThen next).raised = none) : first.raised = none := by
  obtain ⟨s, _ | error⟩ := first
  · rfl
  · exact normal

theorem Outcome.andThen_of_ok {first : Outcome σ} (next : σ → Outcome σ) (normal : first.raised = none) :
    first.andThen next = next first.state := by
  obtain ⟨s, _ | error⟩ := first
  · rfl
  · cases normal

theorem withResult_of_normal {s : σ} {call : Except PyError α} {next : α → Outcome σ}
    (normal : (withResult s call next).raised = none) : ∃ value, withResult s call next = next value := by
  cases call with
  | ok value => exact ⟨value, rfl⟩
  | error error => cases normal

variable (R : σ → σ → Prop)

/-- A relation that each call keeps between its argument and its result also holds across a
sequence, wherever it stops. -/
theorem Outcome.rel_andThen (trans : ∀ {a b c}, R a b → R b c → R a c) {s : σ} {first : Outcome σ}
    {next : σ → Outcome σ} (firstKeeps : R s first.state) (nextKeeps : ∀ t, R t (next t).state) :
    R s (first.andThen next).state := by
  obtain ⟨t, _ | error⟩ := first
  · exact trans firstKeeps (nextKeeps t)
  · exact firstKeeps

/-- What the rest of a sequence keeps holds from the first call's result to the end. -/
theorem Outcome.rel_andThen_of_next (refl : ∀ s, R s s) (first : Outcome σ) {next : σ → Outcome σ}
    (nextKeeps : ∀ t, R t (next t).state) : R first.state (first.andThen next).state := by
  obtain ⟨t, _ | error⟩ := first
  · exact nextKeeps t
  · exact refl t

/-- A relation that every pass of a loop keeps is kept by the whole loop, wherever it stops. -/
theorem forEach_rel (refl : ∀ s, R s s) (trans : ∀ {a b c}, R a b → R b c → R a c)
    {body : σ → α → Outcome σ} :
    ∀ {items : List α}, (∀ item ∈ items, ∀ s, R s (body s item).state) →
      ∀ s, R s (forEach body items s).state
  | [], _, s => refl s
  | item :: _, bodyKeeps, s =>
    Outcome.rel_andThen R trans (bodyKeeps item (List.mem_cons_self _ _) s)
      (forEach_rel refl trans fun other member => bodyKeeps other (List.mem_cons_of_mem _ member))

end Calls

end Armory.Window
