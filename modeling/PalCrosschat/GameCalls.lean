import PalCrosschat.Callbacks
import PalCrosschat.DrainSteps
import PalCrosschat.HookBranches
import PalCrosschat.World

/-! # What callbacks do to inject

Outside of `Drain` the callbacks of the game thread touch the world of inject only by
Enqueue functions, calls of the tracker and engine calls. An `Upsert` among the
calls of the tracker comes with the `PlayerState` its uid was read from. -/

namespace PalCrosschat

inductive GameCalls (before : InjectWorld) : InjectWorld → Prop
  | refl : GameCalls before before
  | enqueue {world : InjectWorld} (calls : GameCalls before world) (call : EnqueueCall) :
      GameCalls before { world with inject := world.inject.enqueueCall call }
  | roster {world : InjectWorld} (calls : GameCalls before world)
      (operation : AudienceTracker.Operation) :
      GameCalls before { world with audience := world.audience.step operation }
  | elapse {world : InjectWorld} (calls : GameCalls before world) (count : Nat) :
      GameCalls before { world with moment := world.moment + count }

namespace GameCalls

variable {first second third : InjectWorld}

theorem trans (left : GameCalls first second) (right : GameCalls second third) :
    GameCalls first third := by
  induction right with
  | refl => exact left
  | enqueue _ call induction => exact induction.enqueue call
  | roster _ operation induction => exact induction.roster operation
  | elapse _ count induction => exact induction.elapse count

theorem rosterCalls (calls : GameCalls first second) :
    RosterCalls first.audience second.audience := by
  induction calls with
  | refl => exact .refl _
  | enqueue _ call induction => exact induction
  | roster _ operation induction => exact induction.trans (.call _ operation)
  | elapse _ count induction => exact induction

/-- Calls of the game are steps of the small-step machine. -/
theorem runs (engine : Engine) (config : Config) (calls : GameCalls first second)
    (state : DrainWorld) (here : state.world = first) :
    ∃ inputs, Execution.run (DrainWorld.step engine config) state inputs =
      { state with world := second } := by
  induction calls with
  | refl => exact ⟨[], by rw [← here]; rfl⟩
  | enqueue _ call induction =>
      rcases induction with ⟨inputs, reached⟩
      exact ⟨inputs ++ [.enqueue call], by rw [Execution.run_snoc, reached]; rfl⟩
  | roster _ operation induction =>
      rcases induction with ⟨inputs, reached⟩
      exact ⟨inputs ++ [.roster operation], by rw [Execution.run_snoc, reached]; rfl⟩
  | elapse _ count induction =>
      rcases induction with ⟨inputs, reached⟩
      exact ⟨inputs ++ [.elapse count], by rw [Execution.run_snoc, reached]; rfl⟩

end GameCalls

namespace Mod

variable (engine : Engine) (config : Config) (mod : Mod)

theorem gameCalls_ask {α : Type} (question : Nat → α) :
    GameCalls mod.world (mod.ask question).2.world :=
  .elapse .refl 1

/-! ## The hook -/

theorem gameCalls_rememberSender (context : HookContext) :
    GameCalls mod.world (mod.rememberSender context).world := by
  unfold rememberSender
  split
  · exact .refl
  · rename_i hasUid
    cases read : context.playerState with
    | none =>
        exfalso
        apply hasUid
        simp [HookContext.senderUid, read]
    | some state => exact .roster .refl (.upsert context.senderUid _ state.object)

theorem gameCalls_screened (context : HookContext) :
    GameCalls mod.world (mod.screened engine context).world := by
  apply (gameCalls_rememberSender mod context).trans
  unfold screened
  rw [filterVerdict_snd]
  split
  · exact .elapse .refl 1
  · exact .refl

theorem gameCalls_showMuteBanner (context : HookContext) (sender : Sender) (banner : Bytes) :
    GameCalls mod.world (mod.showMuteBanner context sender banner).world := by
  unfold showMuteBanner updateInject
  split
  · exact .enqueue .refl (.screenLog context.controller banner)
  · exact .enqueue (.enqueue .refl (.privateChat sender.uid banner))
      (.screenLog context.controller banner)

theorem gameCalls_suppressMuted (context : HookContext) (sender : Sender) :
    GameCalls mod.world (mod.suppressMuted engine context sender).world := by
  unfold suppressMuted
  dsimp only [ask]
  split
  · refine .trans ?_ (gameCalls_showMuteBanner _ context sender _)
    exact .elapse (.elapse .refl 1) 1
  · exact .elapse .refl 1

theorem gameCalls_suppressFiltered (context : HookContext) (sender : Sender)
    (message : Bytes) (hit : FilterHit) :
    GameCalls mod.world
      (mod.suppressFiltered engine config context sender message hit).world := by
  have muted : GameCalls mod.world (mod.muteSender engine sender hit).world := by
    unfold muteSender
    split
    · exact .elapse .refl 1
    · exact .refl
  have logged : ∀ (mod : Mod) (webhookUrl content : Bytes),
      GameCalls mod.world (mod.enqueueWebhook webhookUrl content).world := by
    intro mod webhookUrl content
    unfold enqueueWebhook
    split <;> exact .refl
  have shown := muted.trans (gameCalls_showMuteBanner _ context sender
    (initialMuteBanner (mod.muteSender engine sender hit).filter hit))
  unfold suppressFiltered
  dsimp only
  split
  · exact shown
  · exact shown.trans (logged _ _ _)

theorem gameCalls_relayed (name : Bytes) (pending : PendingChatRelay) :
    GameCalls mod.world (mod.relayed name pending).world := by
  unfold relayed
  dsimp only
  split
  · exact .enqueue .refl (.localTagged name pending.guildName pending.message pending.category
      pending.senderUid)
  · exact .refl

theorem gameCalls_handleHook (context : HookContext) :
    GameCalls mod.world (mod.handleHook engine config context).1.world := by
  have screened := gameCalls_screened engine mod context
  rw [handleHook_eq]
  cases mod.hookBranch engine config context with
  | empty => exact .refl
  | setDiscord connectCode => exact .refl
  | muted => exact screened.trans (gameCalls_suppressMuted engine _ context _)
  | filtered hit =>
      exact screened.trans (gameCalls_suppressFiltered engine config _ context _ _ hit)
  | command => exact screened
  | otherCategory => exact screened
  | tagged => exact screened
  | relayed =>
      dsimp only
      rw [relayLine_eq]
      split
      · exact screened.trans (gameCalls_relayed _ _ _)
      · exact screened

/-! ## `on_update` -/

theorem gameCalls_resolvePlayerNameViaPE (playerState : Option PlayerState) :
    GameCalls mod.world (mod.resolvePlayerNameViaPE engine playerState).2.world := by
  rcases resolvePlayerNameViaPE_eq engine mod playerState with ⟨asked, equal⟩
  rw [equal]
  exact .elapse .refl asked

theorem gameCalls_lookupPlatform (uidKey : Bytes) (playerState : Option PlayerState) :
    GameCalls mod.world (mod.lookupPlatform engine uidKey playerState).2.world := by
  rcases lookupPlatform_eq engine mod uidKey playerState with ⟨asked, platforms, equal⟩
  rw [equal]
  exact .elapse .refl asked

theorem gameCalls_rememberRequester (playerUid : Guid) (platformUserId : Bytes)
    (playerState : Option PlayerState)
    (hasState : playerUid ≠ .nil → playerState.isSome = true) :
    GameCalls mod.world
      (mod.rememberRequester playerUid platformUserId playerState).world := by
  unfold rememberRequester
  split
  · exact .refl
  · rename_i hasUid
    cases playerState with
    | none => cases hasState hasUid
    | some state => exact .roster .refl (.upsert playerUid platformUserId state.object)

theorem gameCalls_queueLinkJob (controller : ObjectRef) (playerUid : Guid)
    (connectCode platformUserId playerName : Bytes) :
    GameCalls mod.world (mod.queueLinkJob controller playerUid connectCode platformUserId
      playerName).world := by
  unfold queueLinkJob
  split <;> exact .refl

theorem gameCalls_processSetDiscord (controller : ObjectRef) (connectCode : Bytes) :
    GameCalls mod.world (mod.processSetDiscord engine controller connectCode).world := by
  have asked := (gameCalls_ask mod fun moment => engine.playerState moment controller).trans
    (gameCalls_resolvePlayerNameViaPE engine
      (mod.ask fun moment => engine.playerState moment controller).2
      (mod.ask fun moment => engine.playerState moment controller).1)
  unfold processSetDiscord
  dsimp only
  refine .trans ?_ (gameCalls_queueLinkJob _ _ _ _ _ _)
  refine .trans ?_ (gameCalls_rememberRequester _ _ _ _ ?_)
  · refine .trans ?_ (gameCalls_lookupPlatform engine _ _ _)
    exact asked
  · intro hasUid
    cases read : (mod.ask fun moment => engine.playerState moment controller).1 with
    | none => simp [read] at hasUid
    | some state => rfl

theorem gameCalls_flushSetDiscord (pending : PendingSetDiscord) :
    GameCalls mod.world (mod.flushSetDiscord engine pending).world := by
  unfold flushSetDiscord
  dsimp only [ask]
  cases (safeWeakGet engine mod.world.moment pending.controller).1 with
  | none => exact .elapse .refl 1
  | some controller =>
      refine .trans ?_ (gameCalls_processSetDiscord engine _ controller pending.connectCode)
      exact .elapse .refl 1

theorem gameCalls_flushChatRelay (pending : PendingChatRelay) :
    GameCalls mod.world (mod.flushChatRelay engine pending).world := by
  rcases resolveRelayName_eq engine mod.popChatRelay pending with ⟨asked, names, equal⟩
  rw [flushChatRelay_eq, equal]
  refine .trans ?_ (gameCalls_relayed _ _ pending)
  exact .elapse .refl asked

theorem gameCalls_deliverLinkResult (result : LinkResult) :
    GameCalls mod.world (mod.deliverLinkResult engine result).world := by
  unfold deliverLinkResult
  split
  · exact .refl
  · dsimp only
    split
    · exact .refl
    · split
      · exact .enqueue .refl (.privateChat _ result.notice)
      · exact .enqueue (.elapse .refl 1) (.screenLog _ result.notice)

theorem gameCalls_foldl {Item : Type} {change : Mod → Item → Mod}
    (calls : ∀ mod item, GameCalls mod.world (change mod item).world)
    (items : List Item) (mod : Mod) : GameCalls mod.world (items.foldl change mod).world :=
  Execution.run_relation (fun before after : Mod => GameCalls before.world after.world)
    (fun _ => .refl) .trans calls items

/-- What `on_update` does before `Drain`. -/
theorem gameCalls_beforeDrain :
    GameCalls mod.world
      (((mod.flushDeferred engine).audienceTick engine).deliverLinkResults engine).world := by
  have linked := gameCalls_foldl (gameCalls_flushSetDiscord engine)
    mod.capture.pendingSetDiscord.items mod
  have flushed : GameCalls mod.world (mod.flushDeferred engine).world :=
    linked.trans (gameCalls_foldl (gameCalls_flushChatRelay engine) _ _)
  have ticked : GameCalls (mod.flushDeferred engine).world
      ((mod.flushDeferred engine).audienceTick engine).world :=
    .roster (.elapse (.elapse .refl 1) 1) (.tick _ _)
  apply (flushed.trans ticked).trans
  apply gameCalls_foldl
  intro mod result
  exact gameCalls_deliverLinkResult engine { mod with linkResults := mod.linkResults.tryPop.2 }
    result

end Mod

/-! ## The roster of the running mod -/

namespace World

variable (engine : Engine) (config : Config)

theorem step_roster (world : World) (input : WorldInput) :
    RosterCalls world.mod.world.audience (world.step engine config input).mod.world.audience := by
  cases input with
  | hook context => exact (Mod.gameCalls_handleHook engine config world.mod context).rosterCalls
  | update =>
      apply (Mod.gameCalls_beforeDrain engine world.mod).rosterCalls.trans
      exact ChatInject.drain_roster engine config _ _ _
  | join playerState => exact .call _ (.enqueueJoin _ playerState)
  | worker input => exact .refl _
  | remote action => exact .refl _
  | webhookPopped => exact .refl _

/-- The roster of a running mod is what some sequence of calls makes of an empty one. -/
theorem run_roster (compile : RegexCompiler) (startedAt : Nanoseconds)
    (players : List PlayerRow) (inputs : List WorldInput) :
    ∃ operations, (run engine config (initial compile config startedAt players)
      inputs).mod.world.audience = AudienceTracker.run operations := by
  have calls : RosterCalls (initial compile config startedAt players).mod.world.audience
      (run engine config (initial compile config startedAt players) inputs).mod.world.audience :=
    Execution.run_relation
      (fun start world : World => RosterCalls start.mod.world.audience world.mod.world.audience)
      (fun _ => .refl _) .trans (step_roster engine config) inputs
  exact calls

end World

end PalCrosschat
