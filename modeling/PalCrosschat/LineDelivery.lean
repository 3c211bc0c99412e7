import PalCrosschat.ShownLines

/-! # Lines reach the players

Two servers share the database. When the engine of the receiving one fails no call and its
`on_update` goes on being called, every line the relay of the other one hands out is broadcast
there, unless one of the two queues counts it as dropped or its commit comes too late. -/

namespace PalCrosschat

open Bytes (ascii)
open ChatInject
open RelayNetwork (firstServer secondServer)

namespace EndlessNetwork

variable {count : Nat} (run : EndlessNetwork count)

/-- The game of a server goes on. -/
structure GoesOn (server : Fin count) : Prop where
  engine : ChatInject.GoesOn (run.servers server).engine
  updates : ∀ moment, ∃ later, moment ≤ later ∧
    (run.inputs later).server = server ∧ (run.inputs later).input = .update

variable {run} {receiver : Fin count} (goesOn : run.GoesOn receiver)
include goesOn

theorem keeps_succ {moment : Nat} (running : Running (run.world moment receiver).mod.world) :
    World.Keeps (run.world moment receiver) (run.world (moment + 1) receiver) := by
  by_cases own : (run.inputs moment).server = receiver
  · subst own
    rw [run.world_succ_self, RelayNetwork.stepped_eq]
    exact (World.step_keeps _ goesOn.engine running _).share _
  · rw [run.world_succ_other (Ne.symm own)]
    exact .of_passes (.refl _) running rfl

theorem running (moment : Nat) : Running (run.world moment receiver).mod.world := by
  induction moment with
  | zero => exact ⟨rfl, trivial⟩
  | succ moment induction => exact (keeps_succ goesOn induction).running

theorem keeps (moment : Nat) :
    World.Keeps (run.world moment receiver) (run.world (moment + 1) receiver) :=
  keeps_succ goesOn (running goesOn moment)

theorem serves {moment : Nat} (update : (run.inputs moment).server = receiver ∧
      (run.inputs moment).input = .update) :
    Serves (run.servers receiver).engine (run.world moment receiver).mod.world
        (run.world (moment + 1) receiver).mod.world ∧
      (run.world (moment + 1) receiver).pushedRows = (run.world moment receiver).pushedRows := by
  rcases update with ⟨rfl, taken⟩
  have after := run.world_succ_self moment
  rw [RelayNetwork.stepped_eq, taken] at after
  rw [after]
  exact ⟨World.update_serves _ goesOn.engine (running goesOn moment), rfl⟩

/-! ## The warm-up of a server -/

theorem moment_mono {earlier later : Nat} (order : earlier ≤ later) :
    (run.world earlier receiver).mod.world.moment ≤
      (run.world later receiver).mod.world.moment := by
  induction order with
  | refl => exact Nat.le_refl _
  | @step later order induction => exact induction.trans (keeps goesOn later).moment

theorem exists_moment (bound : Nat) :
    ∃ later, bound ≤ (run.world later receiver).mod.world.moment := by
  have reached : ∃ later, 0 ≤ later ∧ bound ≤ (run.world later receiver).mod.world.moment := by
    refine Execution.eventually_of_recurring
      (fun moment => bound - (run.world moment receiver).mod.world.moment) goesOn.updates
      (fun moment _ => .inr (Nat.sub_le_sub_left (keeps goesOn moment).moment bound))
      fun moment _ update => ?_
    have passed := (serves goesOn update).1.moment
    by_cases there : bound ≤ (run.world moment receiver).mod.world.moment
    · exact .inl there
    · exact .inr (by omega)
  rcases reached with ⟨later, -, there⟩
  exact ⟨later, there⟩

theorem readyAt_mono {earlier later : Nat} (order : earlier ≤ later)
    (ready : (run.world earlier receiver).mod.world.inject.worldReadyAt ≠ 0) :
    (run.world later receiver).mod.world.inject.worldReadyAt =
      (run.world earlier receiver).mod.world.inject.worldReadyAt := by
  induction order with
  | refl => rfl
  | @step later order induction =>
      have still : (run.world later receiver).mod.world.inject.worldReadyAt ≠ 0 := by
        rwa [induction]
      exact ((keeps goesOn later).readyAt still).trans induction

theorem warmedUp : ∃ start, ∀ moment, start ≤ moment →
    WarmedUp (run.servers receiver).engine (run.world moment receiver).mod.world := by
  rcases goesOn.updates 0 with ⟨first, -, update⟩
  have ready := (serves goesOn update).1.ready
  generalize readyAt : (run.world (first + 1) receiver).mod.world.inject.worldReadyAt = since
    at ready
  rcases goesOn.engine.passes (since + kInjectWarmup) with ⟨finish, passed⟩
  rcases exists_moment goesOn finish with ⟨start, there⟩
  refine ⟨max (first + 1) start, fun moment after => ?_⟩
  have same : (run.world moment receiver).mod.world.inject.worldReadyAt = since := by
    rw [← readyAt] at ready
    rw [readyAt_mono goesOn (le_of_max_le_left after) ready, readyAt]
  have late := there.trans (moment_mono goesOn (le_of_max_le_right after))
  rw [WarmedUp, same]
  refine ⟨ready, fun later order => ?_⟩
  have grown := passed.trans (goesOn.engine.clock.monotone (late.trans order))
  exact Int.le_sub_left_of_add_le grown

/-! ## The rows of a server -/

theorem pushedRows_mono {earlier later : Nat} (order : earlier ≤ later) :
    (run.world earlier receiver).pushedRows.IsPrefix (run.world later receiver).pushedRows := by
  induction order with
  | refl => exact List.prefix_refl _
  | @step later order induction =>
      refine induction.trans ?_
      cases (keeps goesOn later).rows with
      | broadcast count same shows => exact same ▸ List.prefix_rfl
      | push msg grown inbound completed =>
          rw [grown]
          exact List.prefix_append _ _

theorem settled (moment : Nat) : ∃ settled, (run.world moment receiver).Settled settled := by
  induction moment with
  | zero => exact ⟨0, World.settled_initial _ _ _ _⟩
  | succ moment induction =>
      rcases induction with ⟨settled, holds⟩
      rcases holds.move (keeps goesOn moment).rows with ⟨more, -, after⟩
      exact ⟨more, after⟩

theorem settled_mono {earlier later settled : Nat} (order : earlier ≤ later)
    (holds : (run.world earlier receiver).Settled settled) :
    ∃ more, settled ≤ more ∧ (run.world later receiver).Settled more := by
  induction order with
  | refl => exact ⟨settled, Nat.le_refl _, holds⟩
  | @step later order induction =>
      rcases induction with ⟨more, grown, after⟩
      rcases after.move (keeps goesOn later).rows with ⟨further, again, stepped⟩
      exact ⟨further, grown.trans again, stepped⟩

theorem eventually_settled (moment : Nat) :
    ∃ later settled, (run.world later receiver).Settled settled ∧
      (run.world moment receiver).pushedRows.length ≤ settled := by
  rcases warmedUp goesOn with ⟨warm, isWarm⟩
  let target := (run.world moment receiver).pushedRows.length
  have reached : ∃ later, max warm moment ≤ later ∧ ∃ settled,
      (run.world later receiver).Settled settled ∧ target ≤ settled := by
    refine Execution.eventually_of_recurring
      (fun moment => target + (run.world moment receiver).mod.world.inbound.items.length -
        (run.world moment receiver).pushedRows.length) goesOn.updates
      (fun moment _ => ?_) fun moment after update => ?_
    · rcases settled goesOn moment with ⟨settled, holds⟩
      rcases holds.move (keeps goesOn moment).rows with ⟨more, grown, after⟩
      have earlier := holds.length
      have later := after.length
      exact .inr (by omega)
    · rcases settled goesOn moment with ⟨settled, holds⟩
      have enough := (pushedRows_mono goesOn (le_of_max_le_right after)).length_le
      by_cases done : target ≤ settled
      · exact .inl ⟨settled, holds, done⟩
      · have waits : settled < (run.world moment receiver).pushedRows.length :=
          (Nat.lt_of_not_le done).trans_le enough
        rcases serves goesOn update with ⟨serves, same⟩
        rcases holds.update serves (isWarm moment (le_of_max_le_left after)) same waits with
          ⟨more, grown, stepped⟩
        have earlier := holds.length
        have later := stepped.length
        exact .inr (by omega)
  rcases reached with ⟨later, -, settled, holds, all⟩
  exact ⟨later, settled, holds, all⟩

/-- The broadcast of a row in the inbound queue is completed some day, or the full queue counts
it as dropped. -/
theorem eventually_completed (moment : Nat) :
    ∃ time, ∀ later, time ≤ later → ∃ dropped : List InboundMessage,
      (run.world moment receiver).pushedRows.Subperm
        ((run.world later receiver).completedRows ++ dropped) ∧
      (run.world later receiver).pushedRows.Perm
        ((run.world later receiver).completedRows ++ dropped ++
          (run.world later receiver).mod.world.inbound.items) ∧
      (run.world later receiver).mod.world.inbound.drops = dropped.length := by
  rcases eventually_settled goesOn moment with ⟨time, settled, holds, all⟩
  refine ⟨max moment time, fun later after => ?_⟩
  rcases settled_mono goesOn (le_of_max_le_right after) holds with ⟨more, grown, still⟩
  exact still.accounts (pushedRows_mono goesOn (le_of_max_le_left after)) (all.trans grown)

end EndlessNetwork

theorem count_ids_le {rows others : List InboundMessage} (inside : rows.Subperm others)
    (id : Nat) : (rows.map (·.id)).count id ≤ (others.map (·.id)).count id := by
  rcases inside with ⟨same, perm, sublist⟩
  rw [← (perm.map _).count_eq]
  exact (sublist.map _).count_le id

namespace EndlessNetwork

variable {count : Nat} (run : EndlessNetwork count)

/-- From some time on the broadcast of the row was completed once, or the full queue dropped
the row. -/
def BroadcastOnce (server : Fin count) (id : Nat) : Prop :=
  ∃ time, ∀ later, time ≤ later → ∃ dropped : List InboundMessage,
    (run.world later server).pushedRows.Perm
      ((run.world later server).completedRows ++ dropped ++
        (run.world later server).mod.world.inbound.items) ∧
    (run.world later server).mod.world.inbound.drops = dropped.length ∧
    (((run.world later server).completedRows ++ dropped).map (·.id)).count id = 1

/-- Whenever inject is run in small steps that lead to what the server has done so far, each
row whose broadcast was completed is broadcast at one of them, with all its calls. -/
def BroadcastsWhole (server : Fin count) : Prop :=
  ∀ moment steps, DrainWorld.Follows (run.world moment server)
      (DrainWorld.run (run.servers server).engine (run.servers server).config steps) →
    ∀ item ∈ (run.world moment server).completedRows, ∃ point filter,
      DrainWorld.BroadcastAt (run.servers server).engine (run.servers server).config steps item
        point filter

theorem map_id_pushedRows (receiver : Fin count) (moment : Nat) :
    (run.world moment receiver).pushedRows.map (·.id) =
      pushedIds (run.world moment receiver).worker.journal := by
  have reads := RelayNetwork.readsRows_run run.servers run.players
    ((List.range moment).map run.inputs) receiver
  rw [← network_eq_run] at reads
  exact map_id_workerRows reads.decoded

theorem drainFollows (server : Fin count) (moment : Nat) :
    ∃ steps, DrainWorld.Follows (run.world moment server)
      (DrainWorld.run (run.servers server).engine (run.servers server).config steps) := by
  have follows := RelayNetwork.drainFollows_run run.servers run.players
    ((List.range moment).map run.inputs) server
  rwa [← network_eq_run] at follows

variable {run} {receiver : Fin count}

theorem broadcastsWhole (goesOn : run.GoesOn receiver) : run.BroadcastsWhole receiver := by
  intro moment steps follows item completed
  have journaled := DrainWorld.journaled_run (run.servers receiver).engine
    (run.servers receiver).config steps
  have sent := journaled.sentRows
  rw [follows.agrees] at sent
  unfold World.completedRows at completed
  rw [← sent] at completed
  rcases List.mem_map.mp completed with ⟨attempt, member, rfl⟩
  exact DrainWorld.broadcastAt_of_attempt _ goesOn.engine.obliging steps attempt
    (List.mem_of_mem_filter member)

theorem DeliversOnce.broadcastOnce {id : Nat} (delivers : run.DeliversOnce receiver id)
    (goesOn : run.GoesOn receiver) : run.BroadcastOnce receiver id := by
  rcases delivers with ⟨arrived, once⟩
  rcases eventually_completed goesOn arrived with ⟨time, completed⟩
  refine ⟨max arrived time, fun later after => ?_⟩
  rcases completed later (le_of_max_le_right after) with ⟨dropped, all, accounts, drops⟩
  refine ⟨dropped, accounts, drops, Nat.le_antisymm ?_ ?_⟩
  · rw [← once later (le_of_max_le_left after), ← run.map_id_pushedRows]
    refine count_ids_le (List.Subperm.trans ?_ accounts.symm.subperm) id
    exact (List.sublist_append_left _ _).subperm
  · rw [← once arrived (Nat.le_refl _), ← run.map_id_pushedRows]
    exact count_ids_le all id

theorem not_mem_completedRows {id : Nat}
    (never : ∀ later, id ∉ pushedIds (run.world later receiver).worker.journal) (later : Nat) :
    id ∉ (run.world later receiver).completedRows.map (·.id) := by
  intro completed
  rcases List.mem_map.mp completed with ⟨item, member, rfl⟩
  rcases run.drainFollows receiver later with ⟨steps, follows⟩
  rcases DrainWorld.conserved_of_follows _ _ follows with ⟨evicted, conserved⟩
  rw [List.append_assoc] at conserved
  have pushed := conserved.mem_iff.mpr (List.mem_append_left _ member)
  refine never later ?_
  rw [← run.map_id_pushedRows]
  exact List.mem_map_of_mem pushed

variable (run)

end EndlessNetwork

/-! ## Two servers whose game goes on -/

structure Mod.Demandless (mod : Mod) : Prop where
  noLinks : mod.capture.pendingSetDiscord.items = []
  noRelays : mod.capture.pendingChatRelays.items = []

theorem Mod.pendingSetDiscord_deliverLinkResults (engine : Engine) (mod : Mod) :
    (mod.deliverLinkResults engine).capture.pendingSetDiscord = mod.capture.pendingSetDiscord := by
  refine Execution.run_relation
    (fun before after : Mod =>
      after.capture.pendingSetDiscord = before.capture.pendingSetDiscord)
    (fun _ => rfl) (fun early late => late.trans early) (fun mod result => ?_) _
  rcases deliverLinkResult_eq engine { mod with linkResults := mod.linkResults.tryPop.2 } result
    with ⟨clients, asked, inject, notices, equal⟩
  rw [equal]

theorem Mod.Demandless.onUpdate {mod : Mod} (demandless : mod.Demandless) (engine : Engine)
    (config : Config) : (mod.onUpdate engine config).Demandless ∧
      (mod.onUpdate engine config).outbound = mod.outbound ∧
      (mod.onUpdate engine config).linkJobs = mod.linkJobs := by
  have flushed : mod.flushDeferred engine = mod := by
    rw [flushDeferred, demandless.noLinks, List.foldl_nil, demandless.noRelays, List.foldl_nil]
  have notices := deliverLinkResults_noticeStep engine (mod.audienceTick engine)
  have links := pendingSetDiscord_deliverLinkResults engine (mod.audienceTick engine)
  rw [Mod.onUpdate, flushed]
  refine ⟨⟨?_, ?_⟩, notices.outbound, notices.linkJobs⟩
  · exact (congrArg BoundedDeque.items links).trans demandless.noLinks
  · exact (congrArg BoundedDeque.items notices.pending).trans demandless.noRelays

def hostingEngine : Engine :=
  { quietEngine with
    findAllPlayerStates _ := some [0]
    joinReading _ := joining [({ a := 1 }, ascii "steam_1")] }

theorem hostingEngine_goesOn : ChatInject.GoesOn hostingEngine where
  obliging := ⟨fun _ => ⟨0, rfl⟩, fun _ => rfl, fun _ => rfl, fun _ => rfl⟩
  clock := ⟨quietEngine_steadyClock.positive, quietEngine_steadyClock.monotone⟩
  passes := quietEngine_goesOn.passes

def playedInputs (moment : Nat) : NetworkInput 2 :=
  if 37 ≤ moment ∧ moment % 3 = 2 then .plain secondServer .update else greetingInputs moment

def playedRun : EndlessNetwork 2 where
  servers server := { RelayNetwork.twoServers server with engine := hostingEngine }
  players := []
  inputs := playedInputs

theorem inputs_playedRun {moment : Nat} (late : 37 ≤ moment) :
    playedRun.inputs moment = .plain secondServer .update ∨
      ∃ server, playedRun.inputs moment = .plain server (.worker (tick moment)) := by
  change playedInputs moment = _ ∨ ∃ server, playedInputs moment = _
  unfold playedInputs
  split
  · exact .inl rfl
  · exact .inr (inputs_greetingRun late)

theorem rests_playedRun {moment : Nat} (late : 37 ≤ moment) (server : Fin 2) :
    Rests (RelayNetwork.twoServers server).config (playedRun.world moment server).dbState
      (tick moment).now ∧ (playedRun.world moment server).mod.Demandless := by
  induction late generalizing server with
  | refl =>
      have idle : (playedRun.world 37 firstServer).worker.control = .idle := by decide +kernel
      have loopHead : (playedRun.world 37 secondServer).worker.control = .loopHead := by
        decide +kernel
      rcases RelayNetwork.eq_first_or_second server with rfl | rfl
      · refine ⟨⟨?_, by decide +kernel, by decide +kernel, by decide +kernel, by decide +kernel,
          by decide +kernel, by decide +kernel⟩, by decide +kernel, by decide +kernel⟩
        rw [World.dbState, idle]
        exact .idle
      · refine ⟨⟨?_, by decide +kernel, by decide +kernel, by decide +kernel, by decide +kernel,
          by decide +kernel, by decide +kernel⟩, by decide +kernel, by decide +kernel⟩
        rw [World.dbState, loopHead]
        exact .loopHead
  | @step moment late induction =>
      rw [now_tick_succ]
      have waits : (tick moment).now ≤ (tick moment).now + nanosecondsPerSecond :=
        Int.le_add_of_nonneg_right (by decide)
      rcases inputs_playedRun late with update | ⟨turn, taken⟩
      · by_cases own : server = secondServer
        · subst own
          have stepped := playedRun.world_succ_self moment
          rw [update] at stepped
          rcases (induction secondServer).2.onUpdate hostingEngine
            (RelayNetwork.twoServers secondServer).config with ⟨demandless, outbound, linkJobs⟩
          rw [stepped]
          refine ⟨?_, demandless⟩
          exact { (induction secondServer).1.later waits with
            noLinks := (congrArg BoundedQueue.items linkJobs).trans (induction _).1.noLinks
            noOutbound := (congrArg BoundedQueue.items outbound).trans
              (induction _).1.noOutbound }
        · have apart : server ≠ (playedRun.inputs moment).server := by
            rw [update]
            exact own
          have stepped := playedRun.world_succ_other apart
          rw [update] at stepped
          rw [stepped]
          exact ⟨(induction server).1.later waits, (induction server).2⟩
      · refine ⟨playedRun.rests_worker taken (by change (750 : Int) ≤ 1000; decide)
          (fun other => (induction other).1) server, ?_⟩
        by_cases own : server = turn
        · subst own
          have stepped := playedRun.world_succ_self moment
          rw [taken] at stepped
          rw [stepped]
          exact ⟨(induction server).2.noLinks, (induction server).2.noRelays⟩
        · have apart : server ≠ (playedRun.inputs moment).server := by
            rw [taken]
            exact own
          rw [playedRun.world_succ_other apart]
          exact (induction server).2

theorem healthy_playedRun (server : Fin 2) : (playedRun.thread server).Healthy where
  steps moment input turn := by
    have taken : (playedInputs moment).input = .worker input :=
      (playedRun.taken_eq_some.mp turn).2
    unfold playedInputs greetingInputs at taken
    repeat' split at taken
    all_goals cases taken
    all_goals exact ⟨rfl, rfl, rfl⟩
  polls := by
    refine PolledThread.polls_of_rests (by change (750 : Int) ≤ 1000; decide)
      (fun moment late => (rests_playedRun late server).1) (fun moment late input turn => ?_)
      fun moment => ?_
    · have taken := (playedRun.taken_eq_some.mp turn).2
      rcases inputs_playedRun late with update | ⟨other, given⟩
      · rw [update] at taken
        cases taken
      · rw [given] at taken
        cases taken
        rfl
    · refine ⟨6 * (moment + 37) + server, by omega, tick (6 * (moment + 37) + server), ?_⟩
      have below := server.isLt
      have taken : playedRun.inputs (6 * (moment + 37) + server) =
          .plain server (.worker (tick (6 * (moment + 37) + server))) := by
        change playedInputs _ = _
        unfold playedInputs greetingInputs
        rw [if_neg (by omega), if_neg (by omega), if_neg (by omega)]
        rcases RelayNetwork.eq_first_or_second server with rfl | rfl
        · exact if_pos (by simp [firstServer]; omega)
        · exact if_neg (by simp [secondServer]; omega)
      apply playedRun.taken_eq_some.mpr
      rw [taken]
      exact ⟨rfl, rfl⟩

theorem goesOn_playedRun : playedRun.GoesOn secondServer where
  engine := hostingEngine_goesOn
  updates moment := by
    refine ⟨3 * (moment + 37) + 2, by omega, ?_⟩
    have update : playedRun.inputs (3 * (moment + 37) + 2) = .plain secondServer .update :=
      if_pos (by omega)
    rw [update]
    exact ⟨rfl, rfl⟩

end PalCrosschat
