import PalCrosschat.InjectTraffic
import PalCrosschat.LinkTickets
import PalCrosschat.World

/-! # Answers to link requests

The game thread keeps one reply address for a platform account: `ProcessSetDiscord`
writes it with every job, `DeliverLinkResult` erases it with every result. Followed over
whole runs, each answer finds the address of its requester while no account has two
requests outstanding. -/

namespace PalCrosschat

open Bytes (ascii)

def InjectEvent.enqueuedAction : InjectEvent → Option DeferredAction
  | .enqueued action => some action
  | _ => none

namespace Mod

/-! ## Everything else -/

structure KeepsLinks (before after : Mod) : Prop where
  linkJobs : after.linkJobs = before.linkJobs
  linkResults : after.linkResults = before.linkResults
  clients : after.capture.linkClients = before.capture.linkClients

theorem KeepsLinks.refl (mod : Mod) : KeepsLinks mod mod := ⟨rfl, rfl, rfl⟩

theorem KeepsLinks.trans {first second third : Mod} (left : KeepsLinks first second)
    (right : KeepsLinks second third) : KeepsLinks first third where
  linkJobs := right.linkJobs.trans left.linkJobs
  linkResults := right.linkResults.trans left.linkResults
  clients := right.clients.trans left.clients

variable (engine : Engine) (config : Config) (mod : Mod)

theorem keepsLinks_flushChatRelay (pending : PendingChatRelay) :
    KeepsLinks mod (mod.flushChatRelay engine pending) := by
  rcases resolveRelayName_eq engine mod.popChatRelay pending with ⟨asked, names, equal⟩
  rw [flushChatRelay_eq, equal]
  exact ⟨rfl, rfl, rfl⟩

theorem keepsLinks_flushChatRelays (items : List PendingChatRelay) :
    KeepsLinks mod (items.foldl (flushChatRelay engine) mod) :=
  Execution.run_relation KeepsLinks .refl .trans (keepsLinks_flushChatRelay engine) items

theorem keepsLinks_handleHook (context : HookContext) :
    KeepsLinks mod (mod.handleHook engine config context).1 := by
  have screened : KeepsLinks mod (mod.screened engine context) := by
    rcases screened_eq engine mod context with ⟨filter, audience, moment, equal, -⟩
    rw [equal]
    exact ⟨rfl, rfl, rfl⟩
  rw [handleHook_eq]
  cases mod.hookBranch engine config context with
  | empty => exact .refl mod
  | setDiscord connectCode => exact ⟨rfl, rfl, rfl⟩
  | muted =>
      rcases suppressMuted_eq engine (mod.screened engine context) context
        (mod.capture.readSender context) with ⟨filter, moment, inject, -, -, equal⟩
      dsimp only
      rw [equal]
      exact screened.trans ⟨rfl, rfl, rfl⟩
  | filtered hit =>
      rcases suppressFiltered_eq engine config (mod.screened engine context) context
        (mod.capture.readSender context) (context.line engine.codec) hit with
        ⟨filter, moment, inject, -, -, equal⟩
      dsimp only
      rw [equal]
      unfold enqueueWebhook
      split
      · exact screened.trans ⟨rfl, rfl, rfl⟩
      · exact screened.trans ⟨rfl, rfl, rfl⟩
  | relayed =>
      dsimp only
      rw [relayLine_eq]
      split
      · exact screened.trans ⟨rfl, rfl, rfl⟩
      · exact screened.trans ⟨rfl, rfl, rfl⟩
  | _ => exact screened

/-! ## Requests -/

/-- What `queueLinkJob` queues, and for whom. -/
def queuedTicket (controller : ObjectRef) (playerUid : Guid)
    (connectCode platformUserId playerName : Bytes) : Option LinkTicket :=
  (splitPlatformUserId platformUserId).map fun parts =>
    { job :=
        { connectCode := sanitizeMessage connectCode 16
          platform := parts.1
          userId := parts.2
          platformUserId
          playerName }
      client := { controller := some controller, playerUid } }

/-- What `ProcessSetDiscord` queues. -/
def linkTicket (controller : ObjectRef) (connectCode : Bytes) : Option LinkTicket :=
  let (playerState, mod) := mod.ask fun moment => engine.playerState moment controller
  let (resolved, mod) := mod.resolvePlayerNameViaPE engine playerState
  let senderName := ChatInject.cleanSenderName resolved
  let playerUid := (playerState.bind (·.playerUId)).getD .nil
  let uidKey := if playerUid = .nil then [] else formatGuid playerUid
  let mod := mod.cachePlayerName uidKey senderName
  let (platformUserId, _) := mod.lookupPlatform engine uidKey playerState
  queuedTicket controller playerUid connectCode platformUserId senderName

def setDiscordTicket (pending : PendingSetDiscord) : Option LinkTicket :=
  let mod := { mod with capture := { mod.capture with
    pendingSetDiscord := mod.capture.pendingSetDiscord.pop } }
  let ((controller, _), mod) := mod.ask fun moment =>
    safeWeakGet engine moment pending.controller
  controller.bind fun controller => mod.linkTicket engine controller pending.connectCode

/-- The tickets of the first loop of `FlushDeferred`. -/
def linkTickets : List PendingSetDiscord → Mod → List LinkTicket
  | [], _ => []
  | pending :: rest, mod =>
      (mod.setDiscordTicket engine pending).toList ++
        linkTickets rest (mod.flushSetDiscord engine pending)

inductive Requests (before after : Mod) : Option LinkTicket → Prop
  | nothing (kept : KeepsLinks before after) : Requests before after none
  | asked (ticket : LinkTicket) (named : ticket.account ≠ [])
      (linkJobs : after.linkJobs = before.linkJobs.push ticket.job)
      (linkResults : after.linkResults = before.linkResults)
      (clients : after.capture.linkClients =
        Function.update before.capture.linkClients ticket.account (some ticket.client)) :
      Requests before after (some ticket)

theorem KeepsLinks.requests {first second third : Mod} {ticket : Option LinkTicket}
    (kept : KeepsLinks first second) (requests : Requests second third ticket) :
    Requests first third ticket := by
  cases requests with
  | nothing still => exact .nothing (kept.trans still)
  | asked ticket named linkJobs linkResults clients =>
      apply Requests.asked ticket named
      · rw [linkJobs, kept.linkJobs]
      · rw [linkResults, kept.linkResults]
      · rw [clients, kept.clients]

theorem requests_queueLinkJob (controller : ObjectRef) (playerUid : Guid)
    (connectCode platformUserId playerName : Bytes) :
    Requests mod (mod.queueLinkJob controller playerUid connectCode platformUserId playerName)
      (queuedTicket controller playerUid connectCode platformUserId playerName) := by
  unfold queueLinkJob queuedTicket
  cases parts : splitPlatformUserId platformUserId with
  | none => exact .nothing (.refl mod)
  | some parts =>
      apply Requests.asked
      · intro unnamed
        change platformUserId = [] at unnamed
        rw [unnamed] at parts
        cases parts
      · rfl
      · rfl
      · funext key
        exact (Function.update_apply _ _ _ _).symm

theorem requests_processSetDiscord (controller : ObjectRef) (connectCode : Bytes) :
    Requests mod (mod.processSetDiscord engine controller connectCode)
      (mod.linkTicket engine controller connectCode) := by
  have named (mod : Mod) (playerState : Option PlayerState) :
      KeepsLinks mod (mod.resolvePlayerNameViaPE engine playerState).2 := by
    rcases resolvePlayerNameViaPE_eq engine mod playerState with ⟨asked, equal⟩
    rw [equal]
    exact ⟨rfl, rfl, rfl⟩
  have cached (mod : Mod) (uidKey name : Bytes) :
      KeepsLinks mod (mod.cachePlayerName uidKey name) := by
    rcases cachePlayerName_eq mod uidKey name with ⟨names, equal⟩
    rw [equal]
    exact ⟨rfl, rfl, rfl⟩
  have looked (mod : Mod) (uidKey : Bytes) (playerState : Option PlayerState) :
      KeepsLinks mod (mod.lookupPlatform engine uidKey playerState).2 := by
    rcases lookupPlatform_eq engine mod uidKey playerState with ⟨asked, platforms, equal⟩
    rw [equal]
    exact ⟨rfl, rfl, rfl⟩
  have remembered (mod : Mod) (playerUid : Guid) (platformUserId : Bytes)
      (playerState : Option PlayerState) :
      KeepsLinks mod (mod.rememberRequester playerUid platformUserId playerState) := by
    rcases rememberRequester_eq mod playerUid platformUserId playerState with ⟨audience, equal⟩
    rw [equal]
    exact ⟨rfl, rfl, rfl⟩
  unfold processSetDiscord linkTicket
  refine KeepsLinks.requests ?_ (requests_queueLinkJob _ _ _ _ _ _)
  refine .trans ?_ (remembered _ _ _ _)
  refine .trans ?_ (looked _ _ _)
  refine .trans ?_ (cached _ _ _)
  refine .trans ?_ (named _ _)
  exact ⟨rfl, rfl, rfl⟩

theorem requests_flushSetDiscord (pending : PendingSetDiscord) :
    Requests mod (mod.flushSetDiscord engine pending) (mod.setDiscordTicket engine pending) := by
  unfold flushSetDiscord setDiscordTicket
  dsimp only [ask]
  cases (safeWeakGet engine mod.world.moment pending.controller).1 with
  | none => exact .nothing ⟨rfl, rfl, rfl⟩
  | some controller =>
      refine KeepsLinks.requests ?_ (requests_processSetDiscord engine _ _ _)
      exact ⟨rfl, rfl, rfl⟩

/-! ## Deliveries -/

/-- Each popped result with what `DeliverLinkResult` enqueues for it. -/
def linkDeliveries : List LinkResult → Mod → List (LinkResult × List DeferredAction)
  | [], _ => []
  | result :: rest, mod =>
      let popped := { mod with linkResults := mod.linkResults.tryPop.2 }
      (result, popped.linkActions engine result) ::
        linkDeliveries rest (popped.deliverLinkResult engine result)

theorem linkDeliveries_actions (results : List LinkResult) :
    (linkDeliveries engine results mod).flatMap Prod.snd =
      linkResultActions engine results mod := by
  induction results generalizing mod with
  | nil => rfl
  | cons result rest induction => exact congrArg (_ ++ ·) (induction _)

theorem linkDeliveries_results (results : List LinkResult) :
    (linkDeliveries engine results mod).map Prod.fst = results := by
  induction results generalizing mod with
  | nil => rfl
  | cons result rest induction => exact congrArg (result :: ·) (induction _)

def deliverPopped (mod : Mod) (result : LinkResult) : Mod :=
  deliverLinkResult engine { mod with linkResults := mod.linkResults.tryPop.2 } result

theorem deliverLinkResults_eq :
    mod.deliverLinkResults engine = mod.linkResults.items.foldl (deliverPopped engine) mod := rfl

def linkReply (receiver : Guid) (notice : Bytes) : DeferredAction where
  kind := .privateChat
  message := notice
  receivers := [receiver]
  category := chatCategoryGlobal

theorem deliverPopped_queues (result : LinkResult) :
    (mod.deliverPopped engine result).linkJobs = mod.linkJobs ∧
      (mod.deliverPopped engine result).linkResults = mod.linkResults.tryPop.2 := by
  unfold deliverPopped
  rcases deliverLinkResult_eq engine { mod with linkResults := mod.linkResults.tryPop.2 } result
    with ⟨clients, asked, inject, -, equal⟩
  rw [equal]
  exact ⟨rfl, rfl⟩

theorem deliverPopped_all_queues (results : List LinkResult) :
    (results.foldl (deliverPopped engine) mod).linkJobs = mod.linkJobs ∧
      (results.foldl (deliverPopped engine) mod).linkResults.items =
        mod.linkResults.items.drop results.length := by
  induction results generalizing mod with
  | nil => exact ⟨rfl, rfl⟩
  | cons result rest induction =>
      rcases deliverPopped_queues engine mod result with ⟨linkJobs, linkResults⟩
      have rounds := induction (mod.deliverPopped engine result)
      rw [linkJobs, linkResults, BoundedQueue.items_tryPop, List.drop_tail] at rounds
      exact rounds

theorem audienceTick_linkResults :
    ((mod.flushDeferred engine).audienceTick engine).linkResults = mod.linkResults := by
  have requested : ∀ (items : List PendingSetDiscord) (mod : Mod),
      (items.foldl (flushSetDiscord engine) mod).linkResults = mod.linkResults := by
    intro items
    induction items with
    | nil => exact fun _ => rfl
    | cons pending rest induction =>
        intro mod
        refine (induction _).trans ?_
        have requests := requests_flushSetDiscord engine mod pending
        generalize mod.setDiscordTicket engine pending = ticket at requests
        cases requests with
        | nothing kept => exact kept.linkResults
        | asked _ _ _ linkResults _ => exact linkResults
  exact (keepsLinks_flushChatRelays engine _ _).linkResults.trans (requested _ mod)

theorem onUpdate_linkResults (config : Config) :
    (mod.onUpdate engine config).linkResults.items = [] := by
  have popped := (deliverPopped_all_queues engine
    ((mod.flushDeferred engine).audienceTick engine)
    ((mod.flushDeferred engine).audienceTick engine).linkResults.items).2
  rw [← deliverLinkResults_eq, List.drop_length] at popped
  exact popped

/-! ## What a tick enqueues -/

/-- Of a tick, `Drain` enqueues nothing. -/
theorem onUpdate_actions (config : Config) :
    (mod.onUpdate engine config).world.inject.journal.filterMap InjectEvent.enqueuedAction =
      mod.world.inject.journal.filterMap InjectEvent.enqueuedAction ++
        mod.updateActions engine := by
  rcases drainInject_eq engine (mod.beforeDrain engine) config with ⟨world, ticked, equal⟩
  rcases ticked.frame.1 with ⟨added, grown, noEnqueue⟩
  have nothing : added.filterMap InjectEvent.enqueuedAction = [] := by
    apply List.filterMap_eq_nil_iff.mpr
    intro event member
    cases event with
    | enqueued action => exact absurd member (noEnqueue action)
    | _ => rfl
  have listed (actions : List DeferredAction) :
      (actions.map InjectEvent.enqueued).filterMap InjectEvent.enqueuedAction = actions := by
    rw [List.filterMap_map]
    exact List.filterMap_some
  change ((mod.beforeDrain engine).drainInject engine config).world.inject.journal.filterMap _ = _
  rw [equal, grown, List.filterMap_append, nothing, List.append_nil, beforeDrain_inject,
    ChatInject.enqueueAll_eq, List.filterMap_append, listed]

/-- The rebroadcasts of local lines, and what is enqueued for each result. -/
theorem updateActions_eq :
    ∃ rebroadcasts : List DeferredAction,
      (∀ action ∈ rebroadcasts, action.kind = .localTagged) ∧
      mod.updateActions engine = rebroadcasts ++
        (linkDeliveries engine
          ((mod.flushDeferred engine).audienceTick engine).linkResults.items
          ((mod.flushDeferred engine).audienceTick engine)).flatMap Prod.snd := by
  rw [linkDeliveries_actions]
  exact ⟨_, fun _ => kind_of_flushActions engine, rfl⟩

/-! ## Addresses -/

theorem deliverLinkResult_others {result : LinkResult} {account : Bytes}
    (other : account ≠ result.platformUserId) :
    (mod.deliverLinkResult engine result).capture.linkClients account =
      mod.capture.linkClients account := by
  unfold deliverLinkResult
  split
  · rfl
  · dsimp only
    split
    · rfl
    · split
      · exact if_neg other
      · exact if_neg other

/-- A result whose account has the address of a player with a uid goes there. -/
theorem deliverLinkResult_known {result : LinkResult} {client : LinkClient}
    (told : result.notice ≠ []) (named : result.platformUserId ≠ [])
    (known : mod.capture.linkClients result.platformUserId = some client)
    (hasUid : client.playerUid ≠ .nil) :
    mod.linkActions engine result = [linkReply client.playerUid result.notice] := by
  have asked : (if result.platformUserId.isEmpty then none
      else mod.capture.linkClients result.platformUserId) = some client := by
    rw [if_neg (by simpa using named), known]
  unfold linkActions
  rw [if_neg (by simpa using told), asked]
  dsimp only
  rw [if_pos hasUid, privateChat, if_neg (by simp [hasUid, told])]
  rfl

end Mod

/-- The result of a ticket; a player with a uid gets its notice once, in private. -/
def LinkTicket.Answered (ticket : LinkTicket)
    (delivery : LinkResult × List DeferredAction) : Prop :=
  delivery.1.platformUserId = ticket.account ∧
    (ticket.HasUid → delivery.2 = [Mod.linkReply ticket.client.playerUid delivery.1.notice])

instance (ticket : LinkTicket) (delivery : LinkResult × List DeferredAction) :
    Decidable (ticket.Answered delivery) :=
  inferInstanceAs (Decidable (_ ∧ (ticket.HasUid → _)))

namespace LinkDesk

structure Sound (desk : LinkDesk) (mod : Mod) (atWork : Option LinkJob) : Prop where
  beside : desk.Beside mod.linkJobs atWork mod.linkResults
  named : ∀ ticket ∈ desk.outstanding, ticket.account ≠ []
  addressed : Addressed LinkTicket.account LinkTicket.client LinkTicket.HasUid
    desk.outstanding mod.capture.linkClients

variable {desk : LinkDesk} {mod after : Mod} {atWork : Option LinkJob}

theorem Sound.keep (sound : desk.Sound mod atWork) (kept : mod.KeepsLinks after) :
    desk.Sound after atWork where
  beside := by
    rw [kept.linkJobs, kept.linkResults]
    exact sound.beside
  named := sound.named
  addressed := by
    rw [kept.clients]
    exact sound.addressed

theorem Sound.request (sound : desk.Sound mod atWork) {ticket : LinkTicket}
    (requests : mod.Requests after (some ticket)) (free : desk.Free ticket) :
    (desk.request ticket).Sound after atWork := by
  cases requests with
  | asked _ named linkJobs linkResults clients =>
      have grown : (desk.request ticket).outstanding.Sublist (desk.outstanding ++ [ticket]) :=
        outstanding_request ticket
      constructor
      · rw [linkJobs, linkResults]
        exact sound.beside.request ticket
      · intro other member
        rcases List.mem_append.mp (grown.subset member) with old | new
        · exact sound.named other old
        · rw [List.mem_singleton.mp new]
          exact named
      · rw [clients]
        exact (sound.addressed.request free).sublist grown

/-- The first loop of `FlushDeferred`, when every request finds its account free. -/
theorem Sound.requests {engine : Engine} {pending : List PendingSetDiscord}
    (sound : desk.Sound mod atWork)
    (free : Execution.Along LinkDesk.request Free desk (mod.linkTickets engine pending)) :
    ((mod.linkTickets engine pending).foldl LinkDesk.request desk).Sound
      (pending.foldl (Mod.flushSetDiscord engine) mod) atWork := by
  induction pending generalizing desk mod with
  | nil => exact sound
  | cons head rest induction =>
      have requests := mod.requests_flushSetDiscord engine head
      unfold Mod.linkTickets at free ⊢
      rw [List.foldl_cons]
      cases asked : mod.setDiscordTicket engine head with
      | none =>
          rw [asked] at requests free
          cases requests with
          | nothing kept => exact induction (sound.keep kept) free
      | some ticket =>
          rw [asked] at requests free
          exact induction (sound.request requests free.1) free.2

/-- Every delivery finds the address of its own ticket. -/
theorem answered_all (engine : Engine) {tickets others : List LinkTicket}
    {results : List LinkResult}
    (same : tickets.map LinkTicket.account = results.map LinkResult.platformUserId)
    (named : ∀ ticket ∈ tickets, ticket.account ≠ [])
    (told : ∀ result ∈ results, result.notice ≠ [])
    (addressed : Addressed LinkTicket.account LinkTicket.client LinkTicket.HasUid
      (tickets ++ others) mod.capture.linkClients) :
    List.Forall₂ LinkTicket.Answered tickets (mod.linkDeliveries engine results) ∧
      Addressed LinkTicket.account LinkTicket.client LinkTicket.HasUid others
        (results.foldl (Mod.deliverPopped engine) mod).capture.linkClients := by
  induction results generalizing tickets mod with
  | nil =>
      rw [List.map_eq_nil_iff.mp same] at addressed ⊢
      exact ⟨.nil, addressed⟩
  | cons result rest induction =>
      rcases List.map_eq_cons_iff.mp same with ⟨ticket, tail, rfl, account, same⟩
      have others : ∀ other, other ≠ ticket.account →
          (mod.deliverPopped engine result).capture.linkClients other =
            mod.capture.linkClients other := by
        rw [account]
        intro other different
        exact Mod.deliverLinkResult_others engine _ different
      rcases addressed.answer others with ⟨known, left⟩
      have first := named ticket List.mem_cons_self
      rw [account] at known first
      have later := induction same
        (fun other member => named other (List.mem_cons_of_mem _ member))
        (fun other member => told other (List.mem_cons_of_mem _ member)) left
      refine ⟨.cons ⟨account.symm, ?_⟩ later.1, later.2⟩
      intro hasUid
      exact Mod.deliverLinkResult_known engine
        { mod with linkResults := mod.linkResults.tryPop.2 }
        (told result List.mem_cons_self) first (known hasUid) hasUid

/-- The delivery loop of `on_update`. -/
theorem Sound.deliver (engine : Engine) (sound : desk.Sound mod atWork) :
    List.Forall₂ LinkTicket.Answered desk.answered.items
        (mod.linkDeliveries engine mod.linkResults.items) ∧
      desk.deliver.Sound (mod.deliverLinkResults engine) atWork := by
  have left : desk.deliver.outstanding = desk.atWork.toList ++ desk.waiting.items := rfl
  have split : desk.outstanding = desk.answered.items ++ desk.deliver.outstanding := by
    rw [left, outstanding, List.append_assoc]
  have addressed := sound.addressed
  rw [split] at addressed
  have delivered := answered_all engine sound.beside.answered
    (fun ticket member => sound.named ticket
      (split ▸ List.mem_append_left _ member)) sound.beside.told addressed
  rcases Mod.deliverPopped_all_queues engine mod mod.linkResults.items with
    ⟨linkJobs, linkResults⟩
  rw [List.drop_length] at linkResults
  rw [Mod.deliverLinkResults_eq]
  refine ⟨delivered.1, ?_, ?_, delivered.2⟩
  · rw [linkJobs]
    refine ⟨sound.beside.waiting, sound.beside.atWork, ?_, ?_⟩
    · rw [linkResults]
      rfl
    · rw [linkResults]
      nofun
  · intro ticket member
    apply sound.named
    rw [split]
    exact List.mem_append_right _ member

end LinkDesk

/-! ## Whole runs -/

structure TicketedWorld where
  world : World
  desk : LinkDesk := {}

namespace TicketedWorld

variable (engine : Engine) (config : Config)

def requests (ticketed : TicketedWorld) : List LinkTicket :=
  ticketed.world.mod.linkTickets engine ticketed.world.mod.capture.pendingSetDiscord.items

def step (ticketed : TicketedWorld) (input : WorldInput) : TicketedWorld where
  world := ticketed.world.step engine config input
  desk :=
    match input with
    | .update => ((ticketed.requests engine).foldl LinkDesk.request ticketed.desk).deliver
    | .worker input =>
        ticketed.desk.follow ticketed.world.dbState input
          (DbWorker.step config ticketed.world.dbState input)
    | _ => ticketed.desk

abbrev run (initial : World) (inputs : List WorldInput) : TicketedWorld :=
  Execution.run (step engine config) { world := initial } inputs

/-- The tickets change nothing. -/
theorem run_world (initial : World) (inputs : List WorldInput) :
    (run engine config initial inputs).world = World.run engine config initial inputs :=
  (List.foldl_hom TicketedWorld.world fun _ _ => rfl).symm

/-- No command of the tick becomes a job while an answer for its account is outstanding,
unless neither player has a uid. -/
def OneAtATime (ticketed : TicketedWorld) : WorldInput → Prop
  | .update =>
      Execution.Along LinkDesk.request LinkDesk.Free ticketed.desk (ticketed.requests engine)
  | _ => True

instance (ticketed : TicketedWorld) :
    ∀ input, Decidable (ticketed.OneAtATime engine input)
  | .update => inferInstanceAs (Decidable (Execution.Along _ _ _ _))
  | .hook _ | .worker _ | .join _ | .remote _ | .webhookPopped => .isTrue trivial

def deliveries (ticketed : TicketedWorld) : List (LinkResult × List DeferredAction) :=
  let mod := (ticketed.world.mod.flushDeferred engine).audienceTick engine
  mod.linkDeliveries engine mod.linkResults.items

def Sound (ticketed : TicketedWorld) : Prop :=
  ticketed.desk.Sound ticketed.world.mod ticketed.world.worker.control.linkJob

variable {engine config} {ticketed : TicketedWorld}

theorem Sound.ticked (sound : ticketed.Sound) (apart : ticketed.OneAtATime engine .update) :
    ((ticketed.requests engine).foldl LinkDesk.request ticketed.desk).Sound
      ((ticketed.world.mod.flushDeferred engine).audienceTick engine)
      ticketed.world.worker.control.linkJob := by
  have asked := LinkDesk.Sound.requests sound apart
  have relayed : ((ticketed.requests engine).foldl LinkDesk.request ticketed.desk).Sound
      (ticketed.world.mod.flushDeferred engine) ticketed.world.worker.control.linkJob :=
    asked.keep (Mod.keepsLinks_flushChatRelays engine _ _)
  exact relayed.keep ⟨rfl, rfl, rfl⟩

theorem answered_requests (desk : LinkDesk) (tickets : List LinkTicket) :
    (tickets.foldl LinkDesk.request desk).answered = desk.answered := by
  induction tickets generalizing desk with
  | nil => rfl
  | cons ticket rest induction => exact induction (desk.request ticket)

theorem Sound.step (sound : ticketed.Sound) {input : WorldInput}
    (apart : ticketed.OneAtATime engine input) :
    (ticketed.step engine config input).Sound := by
  cases input with
  | update =>
      have delivered := (sound.ticked apart).deliver engine
      exact delivered.2.keep ⟨rfl, rfl, rfl⟩
  | worker input =>
      have flow := DbWorker.step_linkFlow config ticketed.world.dbState input
      refine ⟨LinkDesk.Beside.follow flow sound.beside, ?_, ?_⟩
      · intro ticket member
        exact sound.named ticket ((LinkDesk.outstanding_follow _ _ _).subset member)
      · exact sound.addressed.sublist (LinkDesk.outstanding_follow _ _ _)
  | hook context => exact sound.keep (Mod.keepsLinks_handleHook engine config _ context)
  | join playerState => exact sound.keep ⟨rfl, rfl, rfl⟩
  | remote action => exact sound
  | webhookPopped => exact sound.keep ⟨rfl, rfl, rfl⟩

theorem sound_run {compile : RegexCompiler} {startedAt : Nanoseconds} {players : List PlayerRow}
    {inputs : List WorldInput}
    (apart : Execution.Along (step engine config) (OneAtATime engine)
      { world := .initial compile config startedAt players } inputs) :
    (run engine config (.initial compile config startedAt players) inputs).Sound :=
  Execution.run_along_invariant (fun _ ticketed => ticketed.Sound)
    ⟨.empty, nofun, .nil⟩ (fun _ _ allowed sound => sound.step allowed) inputs apart

/-- While no account has two requests outstanding: a tick pops all link results, it enqueues
rebroadcasts of local lines and then what each result makes it enqueue, and each result is
the one of its ticket, for which a player with a uid gets the notice in one private chat
message. -/
theorem links_answered (engine : Engine) (config : Config) (compile : RegexCompiler)
    (startedAt : Nanoseconds) (players : List PlayerRow) (inputs : List WorldInput)
    (apart : Execution.Along (step engine config) (OneAtATime engine)
      { world := .initial compile config startedAt players } (inputs ++ [.update])) :
    let ticketed := run engine config (.initial compile config startedAt players) inputs
    let before := (World.run engine config (.initial compile config startedAt players) inputs).mod
    let after := (World.run engine config (.initial compile config startedAt players)
      (inputs ++ [.update])).mod
    (ticketed.deliveries engine).map Prod.fst = before.linkResults.items ∧
    after.linkResults.items = [] ∧
    (∃ rebroadcasts : List DeferredAction,
      (∀ action ∈ rebroadcasts, action.kind = .localTagged) ∧
      after.world.inject.journal.filterMap InjectEvent.enqueuedAction =
        before.world.inject.journal.filterMap InjectEvent.enqueuedAction ++
          (rebroadcasts ++ (ticketed.deliveries engine).flatMap Prod.snd)) ∧
    List.Forall₂ LinkTicket.Answered ticketed.desk.answered.items
      (ticketed.deliveries engine) := by
  intro ticketed before after
  have untouched : World.run engine config (.initial compile config startedAt players) inputs =
      ticketed.world :=
    (run_world engine config _ inputs).symm
  have ticked : World.run engine config (.initial compile config startedAt players)
      (inputs ++ [.update]) = ticketed.world.step engine config .update := by
    rw [← untouched]
    exact Execution.run_snoc inputs _
  simp only [before, after, untouched, ticked]
  rcases (Execution.along_snoc _ _).mp apart with ⟨earlier, now⟩
  have sound : ticketed.Sound := sound_run earlier
  have delivered := ((sound.ticked now).deliver engine).1
  rw [answered_requests] at delivered
  refine ⟨?_, ticketed.world.mod.onUpdate_linkResults engine config, ?_, delivered⟩
  · rw [deliveries, Mod.linkDeliveries_results, Mod.audienceTick_linkResults]
  · rcases ticketed.world.mod.updateActions_eq engine with ⟨rebroadcasts, kinds, equal⟩
    refine ⟨rebroadcasts, kinds, ?_⟩
    rw [← deliveries] at equal
    rw [← equal]
    exact ticketed.world.mod.onUpdate_actions engine config

def linkingEngine : Engine :=
  { quietEngine with
    playerState := fun _ object =>
      some
        { object
          playerUId := some ⟨1, 0, 0, 0⟩
          accountName := ascii "steam_76561198000000000" } }

def setDiscord (code : Bytes) : WorldInput :=
  .hook { typed (ascii "!setdiscord " ++ code) with controller := some 0 }

/-- The player tries a second code after the answer to the first one, and gets both
answers. -/
theorem links_answered_inTurn :
    let inputs := [setDiscord (ascii "abc"), .update] ++ List.replicate 7 (.worker {}) ++
      [.update, setDiscord (ascii "xyz"), .update] ++ List.replicate 10 (.worker {})
    let ticketed := run linkingEngine plainConfig (.initial literalRegex plainConfig 0 []) inputs
    let after := (World.run linkingEngine plainConfig (.initial literalRegex plainConfig 0 [])
      (inputs ++ [.update])).mod
    ticketed.desk.answered.items.map (fun ticket => ticket.job.connectCode) = [ascii "xyz"] ∧
      (∀ ticket ∈ ticketed.desk.answered.items, ticket.HasUid) ∧
      (after.world.inject.journal.filterMap InjectEvent.enqueuedAction).map
        DeferredAction.receivers = [[⟨1, 0, 0, 0⟩], [⟨1, 0, 0, 0⟩]] ∧
      List.Forall₂ LinkTicket.Answered ticketed.desk.answered.items
        (ticketed.deliveries linkingEngine) := by
  intro inputs ticketed after
  have apart : Execution.Along (step linkingEngine plainConfig) (OneAtATime linkingEngine)
      { world := .initial literalRegex plainConfig 0 [] } (inputs ++ [.update]) := by
    decide +kernel
  exact ⟨by decide +kernel, by decide +kernel, by decide +kernel,
    (links_answered linkingEngine plainConfig literalRegex 0 [] inputs apart).2.2.2⟩

/-- The player tries both codes at once: the answer to the first takes the address of the
second, and the tick enqueues one action only. -/
theorem second_answer_lost :
    let inputs := [setDiscord (ascii "abc"), setDiscord (ascii "xyz"), .update] ++
      List.replicate 9 (.worker {})
    let ticketed := run linkingEngine plainConfig (.initial literalRegex plainConfig 0 []) inputs
    let after := (World.run linkingEngine plainConfig (.initial literalRegex plainConfig 0 [])
      (inputs ++ [.update])).mod
    (∀ ticket ∈ ticketed.desk.answered.items, ticket.HasUid) ∧
      ticketed.desk.answered.items.length = 2 ∧ after.linkResults.items = [] ∧
      (after.world.inject.journal.filterMap InjectEvent.enqueuedAction).length = 1 ∧
      ¬List.Forall₂ LinkTicket.Answered ticketed.desk.answered.items
        (ticketed.deliveries linkingEngine) := by
  decide +kernel

end TicketedWorld

end PalCrosschat
