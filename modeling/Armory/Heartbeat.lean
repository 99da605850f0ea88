import Armory.CombinedLedger

/-!
`Heartbeat(nextBeatSec)`: the periodic tick. It checks the engine for new blocks, re-reads every
wallet's balance, runs `extraHeartbeatFunctions`, and last asks the reactor to call it again.
No `try` guards the steps, so a step that raises ends the tick before `callLater`: the tick
schedules no successor, and the heartbeat stops.
-/

namespace Armory.Heartbeat
open Armory.Types Armory.Window Armory.LoadWallets Armory.CombinedLedger

/-- Lines 550-555: an initialized engine is asked for new blocks. A positive count only passes,
so `latestBlockNum` moves to the engine's top height only on a tick that reports none. -/
def checkNewBlocks (bdm : Bdm) (s : MainWindow) : Outcome MainWindow :=
  if bdm.isInitialized then
    withResult s bdm.readBlkFileUpdate fun newBlks =>
      if newBlks > 0 then ⟨s, none⟩
      else ⟨{ s with latestBlockNum := bdm.topBlockHeight }, none⟩
  else ⟨s, none⟩

/-- The top height a tick's block check adopts: the engine's, when it is initialized and reports
no new block. -/
def adoptedTop (bdm : Bdm) : Option Nat :=
  match bdm.isInitialized, bdm.readBlkFileUpdate with
  | true, .ok 0 => some bdm.topBlockHeight
  | _, _ => none

/-- Lines 559-561, one wallet: its balance is assigned to `walletBalances` itself, not to the
wallet's slot. -/
def updateBalance (bdm : Bdm) (s : MainWindow) (item : WalletID × Wallet) : Outcome MainWindow :=
  withResult s (bdm.getBalance item.1) fun balance => ⟨{ s with walletBalances := .scalar balance }, none⟩

/-- `self.extraHeartbeatFunctions` as `__init__` sets it: `createCombinedLedger` alone, called
with its defaults. -/
def extraHeartbeatFunctions (determineWalletType : Wallet → WalletType) (bdm : Bdm)
    (net : NetworkingFactory) : List (MainWindow → Outcome MainWindow) :=
  [createCombinedLedger determineWalletType bdm net none true]

/-- The steps of a tick before `callLater`: the block check, the balance loop over the dict's
items in the order `iter`, then `func()` for each `func` of `funcs`, the list
`self.extraHeartbeatFunctions`. -/
def heartbeatSteps (funcs : List (MainWindow → Outcome MainWindow)) (bdm : Bdm) (iter : IterOrder)
    (s : MainWindow) : Outcome MainWindow :=
  (checkNewBlocks bdm s).andThen fun s =>
    (forEach (updateBalance bdm) (iter.order s.walletMap) s).andThen (forEach (fun s func => func s) funcs)

/-- The window and the delays of the reactor's pending calls of `Heartbeat`. -/
structure Session where
  window : MainWindow
  pending : List Nat
  deriving DecidableEq

/-- `Heartbeat(nextBeatSec)`: the steps, then `reactor.callLater(nextBeatSec, self.Heartbeat)`,
which is reached only when every step returned normally. -/
def heartbeat (funcs : List (MainWindow → Outcome MainWindow)) (bdm : Bdm) (iter : IterOrder)
    (nextBeatSec : Nat) (session : Session) : Outcome Session :=
  match heartbeatSteps funcs bdm iter session.window with
  | ⟨window, none⟩ => ⟨⟨window, session.pending ++ [nextBeatSec]⟩, none⟩
  | ⟨window, some error⟩ => ⟨⟨window, session.pending⟩, some error⟩

/-- What one tick meets: the engine, the dict's order and the extra heartbeat functions as they
behave at that moment. -/
structure Tick where
  bdm : Bdm
  iter : IterOrder
  funcs : List (MainWindow → Outcome MainWindow)

/-- The reactor firing its first pending call once per tick, while one is pending, with the
default `nextBeatSec` of 3; the exceptions of the ticks that ran. -/
def beats : List Tick → Session → Session × List (Option PyError)
  | [], session => (session, [])
  | tick :: rest, session =>
    match session.pending with
    | [] => (session, [])
    | _ :: pending =>
      let beat := heartbeat tick.funcs tick.bdm tick.iter 3 ⟨session.window, pending⟩
      let run := beats rest beat.state
      (run.1, beat.raised :: run.2)

/-! ## One tick -/

theorem heartbeat_eq (funcs : List (MainWindow → Outcome MainWindow)) (bdm : Bdm) (iter : IterOrder)
    (nextBeatSec : Nat) (session : Session) :
    heartbeat funcs bdm iter nextBeatSec session =
      ⟨⟨(heartbeatSteps funcs bdm iter session.window).state, session.pending ++
        if (heartbeatSteps funcs bdm iter session.window).raised = none then [nextBeatSec] else []⟩,
        (heartbeatSteps funcs bdm iter session.window).raised⟩ := by
  cases steps : heartbeatSteps funcs bdm iter session.window with
  | mk window raised => cases raised <;> simp [heartbeat, steps]

theorem checkNewBlocks_cases (bdm : Bdm) (s : MainWindow) :
    (checkNewBlocks bdm s).state = s ∨
      (checkNewBlocks bdm s).state = { s with latestBlockNum := bdm.topBlockHeight } := by
  unfold checkNewBlocks
  split
  · cases bdm.readBlkFileUpdate with
    | error => exact .inl rfl
    | ok newBlks => by_cases fresh : newBlks > 0 <;> simp [fresh]
  · exact .inl rfl

/-- The block check writes `latestBlockNum` and nothing else. -/
theorem checkNewBlocks_state (bdm : Bdm) (s : MainWindow) :
    (checkNewBlocks bdm s).state = { s with latestBlockNum := (checkNewBlocks bdm s).state.latestBlockNum } := by
  rcases checkNewBlocks_cases bdm s with after | after <;> rw [after]

theorem checkNewBlocks_latestBlockNum (bdm : Bdm) (s : MainWindow) :
    (checkNewBlocks bdm s).state.latestBlockNum = (adoptedTop bdm).getD s.latestBlockNum := by
  unfold checkNewBlocks adoptedTop
  cases bdm.isInitialized with
  | false => rfl
  | true =>
    cases bdm.readBlkFileUpdate with
    | error => rfl
    | ok newBlks => cases newBlks <;> simp

theorem updateBalance_frame (bdm : Bdm) (s : MainWindow) (item : WalletID × Wallet) :
    Frame s (updateBalance bdm s item).state := by
  unfold updateBalance
  cases bdm.getBalance item.1 with
  | error => exact .refl s
  | ok balance => exact ⟨⟨rfl, rfl, rfl, rfl⟩, rfl, rfl⟩

theorem extraHeartbeatFunctions_frame (determineWalletType : Wallet → WalletType) (bdm : Bdm)
    (net : NetworkingFactory) :
    ∀ func ∈ extraHeartbeatFunctions determineWalletType bdm net, ∀ s, Frame s (func s).state :=
  fun func member s => by
    rw [List.mem_singleton.mp member]
    exact createCombinedLedger_frame determineWalletType bdm net none true s

/-- Everything after the block check keeps the frame, when the extra functions do. -/
theorem heartbeatSteps_frame (funcs : List (MainWindow → Outcome MainWindow)) (bdm : Bdm)
    (iter : IterOrder) (s : MainWindow) (funcsKeep : ∀ func ∈ funcs, ∀ s, Frame s (func s).state) :
    Frame (checkNewBlocks bdm s).state (heartbeatSteps funcs bdm iter s).state :=
  Outcome.rel_andThen_of_next Frame .refl _ fun t =>
    Outcome.rel_andThen Frame .trans
      (forEach_rel Frame .refl .trans (fun item _ s => updateBalance_frame bdm s item) t)
      (forEach_rel Frame .refl .trans funcsKeep)

theorem heartbeatSteps_latestBlockNum (funcs : List (MainWindow → Outcome MainWindow)) (bdm : Bdm)
    (iter : IterOrder) (s : MainWindow) (funcsKeep : ∀ func ∈ funcs, ∀ s, Frame s (func s).state) :
    (heartbeatSteps funcs bdm iter s).state.latestBlockNum = (adoptedTop bdm).getD s.latestBlockNum := by
  rw [(heartbeatSteps_frame funcs bdm iter s funcsKeep).latestBlockNum, checkNewBlocks_latestBlockNum]

/-- After a tick, `latestBlockNum` is the engine's top height when the engine is initialized and
reports no new block, and what it was in every other case: an engine not initialized, one that
reports new blocks, and one whose update raises. -/
theorem heartbeat_latestBlockNum (determineWalletType : Wallet → WalletType) (bdm : Bdm)
    (net : NetworkingFactory) (iter : IterOrder) (nextBeatSec : Nat) (session : Session) :
    let after := (heartbeat (extraHeartbeatFunctions determineWalletType bdm net) bdm iter nextBeatSec
      session).state.window
    (bdm.isInitialized = true → bdm.readBlkFileUpdate = .ok 0 → after.latestBlockNum = bdm.topBlockHeight) ∧
      (bdm.isInitialized = false ∨ (∃ newBlks > 0, bdm.readBlkFileUpdate = .ok newBlks) ∨
        (∃ error, bdm.readBlkFileUpdate = .error error) →
          after.latestBlockNum = session.window.latestBlockNum) := by
  intro after
  have adopted : after.latestBlockNum = (adoptedTop bdm).getD session.window.latestBlockNum := by
    simp only [after, heartbeat_eq]
    exact heartbeatSteps_latestBlockNum _ bdm iter _ (extraHeartbeatFunctions_frame determineWalletType bdm net)
  rw [adopted]
  refine ⟨fun initialized reported => by simp [adoptedTop, initialized, reported], ?_⟩
  rintro (uninitialized | ⟨newBlks, fresh, reported⟩ | ⟨error, reported⟩)
  · simp [adoptedTop, uninitialized]
  · obtain ⟨n, rfl⟩ := Nat.exists_eq_succ_of_ne_zero (Nat.pos_iff_ne_zero.mp fresh)
    cases bdm.isInitialized <;> simp [adoptedTop, reported]
  · cases bdm.isInitialized <;> simp [adoptedTop, reported]

/-- A tick whose engine reports new blocks only passes (`pass # do something eventually`), so
`latestBlockNum` stays where it was, behind the engine's top height whenever the engine has moved
past it. -/
theorem heartbeat_new_block_lags (determineWalletType : Wallet → WalletType) (bdm : Bdm)
    (net : NetworkingFactory) (iter : IterOrder) (nextBeatSec : Nat) (session : Session)
    {newBlks : Nat} (fresh : 0 < newBlks) (reported : bdm.readBlkFileUpdate = .ok newBlks)
    (ahead : session.window.latestBlockNum < bdm.topBlockHeight) :
    let after := (heartbeat (extraHeartbeatFunctions determineWalletType bdm net) bdm iter nextBeatSec
      session).state.window
    after.latestBlockNum = session.window.latestBlockNum ∧ after.latestBlockNum < bdm.topBlockHeight := by
  intro after
  have stays : after.latestBlockNum = session.window.latestBlockNum :=
    (heartbeat_latestBlockNum determineWalletType bdm net iter nextBeatSec session).2
      (.inr (.inl ⟨newBlks, fresh, reported⟩))
  exact ⟨stays, stays ▸ ahead⟩

def newBlockBdm : Bdm := { transferBdm with topBlockHeight := 11, readBlkFileUpdate := .ok 1 }

theorem heartbeat_new_block_lags_twoWallets :
    0 < 1 ∧ newBlockBdm.readBlkFileUpdate = .ok 1 ∧ twoWallets.latestBlockNum < newBlockBdm.topBlockHeight ∧
      (heartbeat (extraHeartbeatFunctions (fun _ => .plain) newBlockBdm ⟨[], []⟩) newBlockBdm insertionOrder 3
          ⟨twoWallets, []⟩).state.window.latestBlockNum = twoWallets.latestBlockNum ∧
        (heartbeat (extraHeartbeatFunctions (fun _ => .plain) newBlockBdm ⟨[], []⟩) newBlockBdm insertionOrder 3
          ⟨twoWallets, []⟩).state.window.latestBlockNum < newBlockBdm.topBlockHeight :=
  ⟨by decide, rfl, by decide, heartbeat_new_block_lags (fun _ => .plain) newBlockBdm ⟨[], []⟩ insertionOrder 3
    ⟨twoWallets, []⟩ (by decide) rfl (by decide)⟩

def behindBdm : Bdm := { transferBdm with topBlockHeight := 5 }

/-- On the window at block 10, a tick from an engine at top height 5 that reports no new block
takes `latestBlockNum` down to 5: no maximum is taken. -/
theorem heartbeat_lowers_latestBlockNum :
    twoWallets.latestBlockNum = 10 ∧
      (heartbeat (extraHeartbeatFunctions (fun _ => .plain) behindBdm ⟨[], []⟩) behindBdm insertionOrder 3
        ⟨twoWallets, []⟩).state.window.latestBlockNum = 5 := by
  decide

/-! ## The balances after a tick -/

/-- A balance loop whose reads all return normally leaves the last balance read, as a number. -/
theorem updateBalances_last (bdm : Bdm) :
    ∀ (items : List (WalletID × Wallet)) (s : MainWindow) {item : WalletID × Wallet} {balance : Int},
      items.getLast? = some item → bdm.getBalance item.1 = .ok balance →
        (∀ other ∈ items, ∃ b, bdm.getBalance other.1 = .ok b) →
          forEach (updateBalance bdm) items s = ⟨{ s with walletBalances := .scalar balance }, none⟩
  | [], _, _, _, last, _, _ => nomatch last
  | [only], s, _, _, last, read, _ => by
    simp only [List.getLast?_singleton, Option.some.injEq] at last
    subst last
    simp [updateBalance, read]
  | first :: next :: rest, s, _, _, last, read, reads => by
    obtain ⟨b, readFirst⟩ := reads first (List.mem_cons_self _ _)
    rw [forEach_cons, updateBalance, readFirst, withResult_ok, Outcome.andThen_ok]
    exact updateBalances_last bdm (next :: rest) _ (by simpa using last) read
      fun other member => reads other (List.mem_cons_of_mem _ member)

/-- A tick on a window with wallets, whose block check and balance reads return normally, leaves
`walletBalances` the last balance read: a number and no longer a list, whatever the rebuild
after it does. -/
theorem heartbeatSteps_balance_scalar (determineWalletType : Wallet → WalletType) (bdm : Bdm)
    (net : NetworkingFactory) (iter : IterOrder) (s : MainWindow) {item : WalletID × Wallet}
    {balance : Int} (checked : (checkNewBlocks bdm s).raised = none)
    (last : (iter.order s.walletMap).getLast? = some item) (read : bdm.getBalance item.1 = .ok balance)
    (reads : ∀ other ∈ s.walletMap, ∃ b, bdm.getBalance other.1 = .ok b) :
    (heartbeatSteps (extraHeartbeatFunctions determineWalletType bdm net) bdm iter s).state.walletBalances =
      .scalar balance := by
  have sameMap : (checkNewBlocks bdm s).state.walletMap = s.walletMap := by rw [checkNewBlocks_state]
  have rebuildKeeps : ∀ func ∈ extraHeartbeatFunctions determineWalletType bdm net, ∀ t : MainWindow,
      (func t).state.walletBalances = t.walletBalances := fun func member t => by
    rw [List.mem_singleton.mp member]
    exact (createCombinedLedger_rewrites determineWalletType bdm net none true t).balances
  unfold heartbeatSteps
  rw [Outcome.andThen_of_ok _ checked, sameMap, updateBalances_last bdm _ _ last read
    (fun other member => reads other ((iter.perm _).mem_iff.mp member)), Outcome.andThen_ok]
  exact forEach_rel (fun a b : MainWindow => b.walletBalances = a.walletBalances) (fun _ => rfl)
    (fun first second => second.trans first) rebuildKeeps _

theorem heartbeatSteps_balance_scalar_transfer :
    (checkNewBlocks transferBdm twoWallets).raised = none ∧
      (insertionOrder.order twoWallets.walletMap).getLast? = some ("B", ⟨"B", "b", false, [], []⟩) ∧
      transferBdm.getBalance "B" = .ok 0 ∧
      (∀ other ∈ twoWallets.walletMap, ∃ b, transferBdm.getBalance other.1 = .ok b) ∧
      (heartbeatSteps (extraHeartbeatFunctions (fun _ => .plain) transferBdm ⟨[], []⟩) transferBdm
        insertionOrder twoWallets).state.walletBalances = .scalar 0 :=
  ⟨rfl, rfl, rfl, fun _ _ => ⟨0, rfl⟩,
    heartbeatSteps_balance_scalar (fun _ => .plain) transferBdm ⟨[], []⟩ insertionOrder twoWallets rfl rfl rfl
      fun _ _ => ⟨0, rfl⟩⟩

/-! ## The reactor's run of ticks -/

end Armory.Heartbeat
