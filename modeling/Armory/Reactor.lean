import Armory.LedgerView

/-!
The reactor driving the heartbeat. The ticks it fires are a run of heartbeat events of the window,
so every invariant of runs holds of the windows it leaves. While each tick's engine is in step with
the wallets, every tick returns normally and the heartbeat never stops.
-/

namespace Armory.Reactor
open Armory.Types Armory.Window Armory.CombinedLedger Armory.Blockchain Armory.Heartbeat
  Armory.Replay Armory.System Armory.Table Armory.Runs Armory.LedgerView

/-! ## The reactor's ticks -/

/-- The reactor's heartbeat is a run of heartbeat events. Each tick the reactor fires calls the
window's own extra heartbeat functions with that tick's engine and networking factory (`net`);
then the window the ticks leave is the window that the heartbeat events of the ticks that ran
make of the first one. -/
theorem beats_run (determineWalletType : Wallet → WalletType) (net : Tick → NetworkingFactory) :
    ∀ (ticks : List Tick) (session : Session),
      (∀ tick ∈ ticks, tick.funcs = extraHeartbeatFunctions determineWalletType tick.bdm (net tick)) →
        (beats ticks session).1.window = run determineWalletType session.window
          ((ticks.take (beats ticks session).2.length).map fun tick => .heartbeat tick.bdm (net tick) tick.iter)
  | [], _, _ => rfl
  | tick :: rest, session, scheduled => by
    cases pending : session.pending with
    | nil => simp [beats, pending, run]
    | cons delay waiting =>
      have fired : (heartbeat tick.funcs tick.bdm tick.iter 3 ⟨session.window, waiting⟩).state.window =
          step determineWalletType session.window (.heartbeat tick.bdm (net tick) tick.iter) := by
        rw [heartbeat_eq, scheduled tick (List.mem_cons_self _ _)]
        rfl
      simp only [beats, pending, List.length_cons, List.take_succ_cons, List.map_cons, run, List.foldl_cons]
      rw [← fired]
      exact beats_run determineWalletType net rest _ fun other member => scheduled other (List.mem_cons_of_mem _ member)

theorem beats_run_transfer :
    (∀ tick ∈ [(⟨transferBdm, insertionOrder, extraHeartbeatFunctions plainType transferBdm ⟨[], []⟩⟩ : Tick)],
        tick.funcs = extraHeartbeatFunctions plainType tick.bdm ⟨[], []⟩) ∧
      (beats [⟨transferBdm, insertionOrder, extraHeartbeatFunctions plainType transferBdm ⟨[], []⟩⟩]
          ⟨twoWallets, [3]⟩).1.window =
        run plainType twoWallets
          (([⟨transferBdm, insertionOrder, extraHeartbeatFunctions plainType transferBdm ⟨[], []⟩⟩] : List Tick).take
            (beats [⟨transferBdm, insertionOrder, extraHeartbeatFunctions plainType transferBdm ⟨[], []⟩⟩]
              ⟨twoWallets, [3]⟩).2.length |>.map fun tick => .heartbeat tick.bdm ⟨[], []⟩ tick.iter) :=
  have scheduled : ∀ tick ∈ [(⟨transferBdm, insertionOrder, extraHeartbeatFunctions plainType transferBdm ⟨[], []⟩⟩ : Tick)],
      tick.funcs = extraHeartbeatFunctions plainType tick.bdm ⟨[], []⟩ := fun tick member => by
    rw [List.mem_singleton.mp member]
  ⟨scheduled, beats_run plainType (fun _ => ⟨[], []⟩) _ ⟨twoWallets, [3]⟩ scheduled⟩

/-! ## A heartbeat that keeps beating -/

/-- An engine in step with the wallets `ids`: initialized, reporting no new block, with its top
height below the unconfirmed sentinel, answering every wallet's balance, and holding no entry of
a wallet above its top height. -/
structure InSync (bdm : Bdm) (ids : List WalletID) : Prop where
  initialized : bdm.isInitialized = true
  noNewBlock : bdm.readBlkFileUpdate = .ok 0
  height : bdm.topBlockHeight < 0xffffffff
  balances : ∀ id ∈ ids, ∃ balance, bdm.getBalance id = .ok balance
  caughtUp : ∀ id ∈ ids, ∀ e ∈ bdm.getTxLedger id, e.blockNum ≤ bdm.topBlockHeight

/-- A rebuild on a consistent window with its ledger slots, below the sentinel height and with no
entry of a registered wallet above it, returns normally. -/
theorem createCombinedLedger_normal (determineWalletType : Wallet → WalletType) (bdm : Bdm)
    (net : NetworkingFactory) {s : MainWindow} (consistent : Consistent s)
    (sized : s.walletLedgers.length = s.walletIDList.length) (height : s.latestBlockNum < 0xffffffff)
    (caughtUp : ∀ id ∈ s.walletIDList, ∀ e ∈ bdm.getTxLedger id, e.blockNum ≤ s.latestBlockNum) :
    (createCombinedLedger determineWalletType bdm net none true s).raised = none := by
  cases raised : (createCombinedLedger determineWalletType bdm net none true s).raised with
  | none => rfl
  | some error =>
    rcases (createCombinedLedger_raises_iff determineWalletType bdm net consistent error).mp raised with
      ⟨-, empty, id, rest, listed⟩ | ⟨-, pair, member, shown, -⟩
    · obtain ⟨ids, resolved, registeredIDs⟩ := selectedIDs_resolves determineWalletType consistent.registry
      have noIDs : s.walletIDList = [] := by rw [← List.length_eq_zero, ← sized, empty, List.length_nil]
      rw [resolved, Except.ok.injEq] at listed
      simpa [noIDs] using registeredIDs id (listed ▸ List.mem_cons_self _ _)
    · obtain ⟨registered, found⟩ :=
        createCombinedLedger_pairs determineWalletType bdm net consistent.registry sized pair member
      have below := caughtUp _ registered _ found
      unfold displayedNConf at shown
      split at shown <;> omega

/-- A tick on a consistent window with its ledger slots, with an engine in step with its wallets,
returns normally. -/
theorem heartbeat_normal (determineWalletType : Wallet → WalletType) (bdm : Bdm) (net : NetworkingFactory)
    (iter : IterOrder) {s : MainWindow} (consistent : Consistent s)
    (sized : s.walletLedgers.length = s.walletIDList.length) (inSync : InSync bdm s.walletIDList) :
    (react determineWalletType s (.heartbeat bdm net iter)).raised = none := by
  let checked := { s with latestBlockNum := bdm.topBlockHeight }
  have adopted : checkNewBlocks bdm s = ⟨checked, none⟩ := by
    simp [checkNewBlocks, inSync.initialized, inSync.noNewBlock]
  have balanced : (forEach (updateBalance bdm) (iter.order checked.walletMap) checked).raised = none :=
    (updateBalances_normal_iff bdm _ _).mpr fun item member => inSync.balances item.1 <| by
      rw [← consistent.registry.mapKeys]
      exact List.mem_map_of_mem _ ((iter.perm _).mem_iff.mp member)
  have frame : Frame checked (forEach (updateBalance bdm) (iter.order checked.walletMap) checked).state :=
    forEach_rel Frame .refl .trans (fun item _ a => updateBalance_frame bdm a item) checked
  dsimp only [react, heartbeatSteps]
  rw [adopted, Outcome.andThen_ok, Outcome.andThen_of_ok _ balanced]
  simp only [extraHeartbeatFunctions, forEach_cons, Outcome.andThen_forEach_nil]
  refine createCombinedLedger_normal determineWalletType bdm net
    ((consistent.of_same (t := checked) ⟨rfl, rfl, rfl, rfl⟩ rfl).of_frame frame)
    (by rw [frame.slots, frame.registry.idList]; exact sized) (by rw [frame.latestBlockNum]; exact inSync.height)
    fun id listed e found => ?_
  rw [frame.latestBlockNum]
  exact inSync.caughtUp id (frame.registry.idList ▸ listed) e found

/-- From one pending call, on a consistent window with its ledger slots, the heartbeat never stops
while each tick's engine is in step with the wallets: the reactor fires every tick, each returns
normally, and one call stays pending. -/
theorem beats_inSync (determineWalletType : Wallet → WalletType) (net : Tick → NetworkingFactory) :
    ∀ (ticks : List Tick) (session : Session), Consistent session.window →
      session.window.walletLedgers.length = session.window.walletIDList.length →
      session.pending.length = 1 →
      (∀ tick ∈ ticks, tick.funcs = extraHeartbeatFunctions determineWalletType tick.bdm (net tick) ∧
        InSync tick.bdm session.window.walletIDList) →
      (beats ticks session).2 = List.replicate ticks.length none ∧ (beats ticks session).1.pending.length = 1
  | [], _, _, _, single, _ => ⟨rfl, single⟩
  | tick :: rest, session, consistent, sized, single, scheduled => by
    obtain ⟨delay, pending⟩ := List.length_eq_one.mp single
    obtain ⟨funcs, inSync⟩ := scheduled tick (List.mem_cons_self _ _)
    let event := Event.heartbeat tick.bdm (net tick) tick.iter
    have fired : heartbeatSteps tick.funcs tick.bdm tick.iter session.window = react determineWalletType session.window event := by
      rw [funcs]
      rfl
    have normal := heartbeat_normal determineWalletType tick.bdm (net tick) tick.iter consistent sized inSync
    have registry := step_sameRegistry determineWalletType session.window event
    obtain ⟨ran, one⟩ := beats_inSync determineWalletType net rest ⟨step determineWalletType session.window event, [3]⟩
      (react_consistent determineWalletType consistent event)
      (by rw [step_slots, registry.idList]; exact sized) rfl
      fun other member => registry.idList ▸ scheduled other (List.mem_cons_of_mem _ member)
    simp only [beats, pending, heartbeat_eq, fired, normal, List.nil_append, if_true]
    exact ⟨congrArg (List.cons none) ran, one⟩

def loadTick : Tick := ⟨loadBdm, insertionOrder, extraHeartbeatFunctions plainType loadBdm ⟨[], []⟩⟩

theorem beats_inSync_loadedA :
    Consistent loadedA ∧ loadedA.walletLedgers.length = loadedA.walletIDList.length ∧
      (∀ tick ∈ [loadTick, loadTick, loadTick], tick.funcs = extraHeartbeatFunctions plainType tick.bdm ⟨[], []⟩ ∧
        InSync tick.bdm loadedA.walletIDList) ∧
      (beats [loadTick, loadTick, loadTick] ⟨loadedA, [3]⟩).2 = List.replicate 3 none ∧
      (beats [loadTick, loadTick, loadTick] ⟨loadedA, [3]⟩).1.pending.length = 1 :=
  have inSync : InSync loadBdm loadedA.walletIDList :=
    ⟨rfl, rfl, by decide, fun _ _ => ⟨5, rfl⟩, by decide⟩
  have scheduled : ∀ tick ∈ [loadTick, loadTick, loadTick],
      tick.funcs = extraHeartbeatFunctions plainType tick.bdm ⟨[], []⟩ ∧ InSync tick.bdm loadedA.walletIDList := by
    simp only [List.mem_cons, List.mem_singleton, List.not_mem_nil, or_false, or_self, forall_eq]
    exact ⟨rfl, inSync⟩
  have sized : loadedA.walletLedgers.length = loadedA.walletIDList.length := by decide
  ⟨loadedA_reachable.consistent, sized, scheduled,
    beats_inSync plainType (fun _ => ⟨[], []⟩) _ ⟨loadedA, [3]⟩ loadedA_reachable.consistent sized rfl scheduled⟩

end Armory.Reactor
