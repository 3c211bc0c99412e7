import PalCrosschat.MuteSteps
import PalCrosschat.QueueHistory
import PalCrosschat.WebhookRequest

/-! # The moderation log

A line that a pattern blocks is reported to a webhook. The hook puts the report into a
queue, and the webhook thread posts one report after the other. Here the thread runs beside
the rest of the server, and what it posts is compared with the lines that were blocked. -/

namespace PalCrosschat

/-! ## Reports -/

/-- What a call of the hook reports: a line that a pattern blocks, when a webhook is set. -/
def Mod.report (engine : Engine) (config : Config) (mod : Mod) (context : HookContext) :
    Option WebhookJob :=
  match mod.hookBranch engine config context with
  | .filtered hit =>
      if mod.filter.muteLogWebhook = [] then none
      else some
        { webhookUrl := mod.filter.muteLogWebhook
          content := filterLogContent config (mod.capture.readSender context).name
            context.senderId (context.line engine.codec) hit }
  | _ => none

def World.report (engine : Engine) (config : Config) (world : World) :
    WorldInput → Option WebhookJob
  | .hook context => world.mod.report engine config context
  | _ => none

/-! ## The webhook thread -/

/-- Where `WebhookWorker::ThreadMain` stands. -/
inductive WebhookControl
  /-- `Start` was not called. -/
  | notStarted
  | loopHead
  | posting (job : WebhookJob)
  | sleeping
  | stopped
deriving DecidableEq, Repr

def WebhookControl.inHand : WebhookControl → Option WebhookJob
  | .posting job => some job
  | _ => none

structure WebhookPost where
  job : WebhookJob
  calls : List HttpCall
  ok : Bool
deriving DecidableEq, Repr

/-- The server with its webhook thread. -/
structure ModeratedWorld where
  world : World
  control : WebhookControl
  /-- History variable: the jobs that were posted, oldest first. -/
  posted : List WebhookPost := []
  /-- History variable: the reports of the hook, oldest first. -/
  reports : List WebhookJob := []

inductive ModeratedInput
  /-- A step of the rest of the server. It cannot pop in the place of the thread. -/
  | world (input : WorldInput)
  | webhook (stopRequested : Bool) (replies : HttpReplies)

def ModeratedInput.server : ModeratedInput → Option WorldInput
  | .world .webhookPopped => none
  | .world input => some input
  | .webhook _ _ => none

def WorldInput.leavesWebhook : WorldInput → Bool
  | .webhookPopped => false
  | _ => true

namespace ModeratedWorld

/-- The constructor of the mod: the thread is started when there is a webhook and a pattern. -/
def initial (compile : RegexCompiler) (config : Config) (startedAt : Nanoseconds)
    (players : List PlayerRow) : ModeratedWorld where
  world := .initial compile config startedAt players
  control :=
    if config.muteLogWebhook.isEmpty || config.filterPatterns.isEmpty then .notStarted
    else .loopHead

def waiting (state : ModeratedWorld) : List WebhookJob := state.world.mod.webhook.items

def taken (state : ModeratedWorld) : List WebhookJob :=
  state.posted.map (·.job) ++ state.control.inHand.toList

def settled (state : ModeratedWorld) : Nat :=
  state.posted.length + state.world.mod.webhook.drops

variable (engine : Engine) (config : Config) (reader : UrlReader)

/-- One action of the thread: the check of the stop token with the `TryPop` behind it, a
request, or the sleep. -/
def webhookTurn (state : ModeratedWorld) (stopRequested : Bool) (replies : HttpReplies) :
    ModeratedWorld :=
  match state.control with
  | .notStarted | .stopped => state
  | .sleeping => { state with control := .loopHead }
  | .posting job =>
      let outcome := postDiscordWebhookSync reader job.webhookUrl job.content replies
      { state with
        control := .loopHead
        posted := state.posted ++ [{ job, calls := outcome.1, ok := outcome.2 }] }
  | .loopHead =>
      if stopRequested then { state with control := .stopped }
      else
        { state with
          world := state.world.step engine config .webhookPopped
          control :=
            match state.world.mod.webhook.tryPop.1 with
            | none => .sleeping
            | some job => .posting job }

def step (state : ModeratedWorld) : ModeratedInput → ModeratedWorld
  | .world .webhookPopped => state
  | .world input =>
      { state with
        world := state.world.step engine config input
        reports := state.reports ++ (state.world.report engine config input).toList }
  | .webhook stopRequested replies => state.webhookTurn engine config reader stopRequested replies

abbrev run (initial : ModeratedWorld) (inputs : List ModeratedInput) : ModeratedWorld :=
  Execution.run (step engine config reader) initial inputs

end ModeratedWorld

/-! ## The queue -/

section Queue

variable (engine : Engine) (config : Config)

namespace Mod

variable (mod : Mod) (context : HookContext)

theorem handleHook_webhook : (mod.handleHook engine config context).1.webhook =
    (mod.report engine config context).elim mod.webhook mod.webhook.push := by
  rw [handleHook_eq, report]
  cases branch : mod.hookBranch engine config context with
  | empty | setDiscord connectCode => rfl
  | command | otherCategory | tagged => exact mod.screened_webhook
  | muted =>
      rcases suppressMuted_eq engine (mod.screened engine context) context
        (mod.capture.readSender context) with ⟨filter, moment, inject, -, -, muted⟩
      dsimp only
      rw [muted]
      exact mod.screened_webhook
  | relayed =>
      dsimp only
      rw [relayLine_eq]
      split <;> exact mod.screened_webhook
  | filtered hit =>
      rcases suppressFiltered_eq engine config (mod.screened engine context) context
        (mod.capture.readSender context) (context.line engine.codec) hit with
        ⟨filter, moment, inject, -, -, logged⟩
      have something : (filterLogContent config (mod.capture.readSender context).name
          (mod.capture.readSender context).id (context.line engine.codec) hit).isEmpty =
          false := by
        rw [filterLogContent_eq]
        rfl
      dsimp only
      rw [logged, mod.screened_muteLogWebhook, enqueueWebhook, something, Bool.or_false]
      by_cases unset : mod.filter.muteLogWebhook = []
      · rw [if_pos (by rw [unset]; rfl), if_pos unset]
        exact mod.screened_webhook
      · rw [if_neg (by rwa [List.isEmpty_iff]), if_neg unset]
        change (mod.screened engine context).webhook.push _ = mod.webhook.push _
        rw [mod.screened_webhook]
        rfl

theorem flushChatRelay_webhook (pending : PendingChatRelay) :
    (mod.flushChatRelay engine pending).webhook = mod.webhook := by
  rcases resolveRelayName_eq engine mod.popChatRelay pending with ⟨asked, names, equal⟩
  rw [flushChatRelay_eq, equal]
  rfl

theorem onUpdate_webhook : (mod.onUpdate engine config).webhook = mod.webhook := by
  have flushed : (mod.flushDeferred engine).webhook = mod.webhook :=
    (Execution.run_relation (fun before after : Mod => after.webhook = before.webhook)
      (fun _ => rfl) (fun early late => late.trans early)
      (fun mod pending => flushChatRelay_webhook engine mod pending) _).trans
        (flushSetDiscords_linkStep engine mod _).webhook
  have ticked : ((mod.flushDeferred engine).audienceTick engine).webhook = mod.webhook := flushed
  exact (deliverLinkResults_noticeStep engine _).webhook.trans ticked

end Mod

theorem World.step_webhook (world : World) {input : WorldInput}
    (noPop : input ≠ .webhookPopped) : (world.step engine config input).mod.webhook =
      (world.report engine config input).elim world.mod.webhook world.mod.webhook.push := by
  cases input with
  | hook context => exact world.mod.handleHook_webhook engine config context
  | update => exact world.mod.onUpdate_webhook engine config
  | webhookPopped => exact absurd rfl noPop
  | _ => rfl

theorem World.step_filter (world : World) (input : WorldInput) :
    (world.step engine config input).mod.filter.muteLogWebhook =
        world.mod.filter.muteLogWebhook ∧
      (world.step engine config input).mod.filter.patterns = world.mod.filter.patterns := by
  cases call : input.hookCall with
  | some context =>
      rw [World.step_hook call, (world.mod.handleHook_filter engine config context).1]
      exact ⟨rfl, rfl⟩
  | none =>
      rw [(World.step_elapses call).filter]
      exact ⟨rfl, rfl⟩

theorem World.report_eq_some {world : World} {input : WorldInput} {job : WebhookJob}
    (reported : world.report engine config input = some job) :
    job.webhookUrl = world.mod.filter.muteLogWebhook ∧
      world.mod.filter.muteLogWebhook ≠ [] ∧ world.mod.filter.active = true := by
  cases input with
  | hook context =>
      rw [World.report, Mod.report] at reported
      split at reported
      · rename_i hit branch
        split at reported
        · cases reported
        · rename_i webhookSet
          cases reported
          exact ⟨rfl, webhookSet, Mod.active_of_hookBranch_eq_filtered branch⟩
      · cases reported
  | _ => cases reported

end Queue

section History

variable {max : Nat} [NeZero max] {α : Type} (calls : List (QueueCall α))

theorem queueAfter_snoc (call : QueueCall α) :
    queueAfter max (calls ++ [call]) = call.apply (queueAfter max calls) :=
  Execution.run_snoc calls call

theorem pushedItems_snoc (call : QueueCall α) :
    pushedItems (calls ++ [call]) = pushedItems calls ++ call.item?.toList := by
  rw [pushedItems, List.filterMap_append]
  cases call <;> rfl

theorem poppedItems_push (item : α) :
    poppedItems max (calls ++ [.push item]) = poppedItems max calls := by
  rw [poppedItems, removals_snoc, List.filterMap_append, QueueCall.removal]
  cases (queueAfter max calls).deque.evicted <;> exact List.append_nil _

theorem poppedItems_tryPop : poppedItems max (calls ++ [.tryPop]) =
    poppedItems max calls ++ (queueAfter max calls).tryPop.1.toList := by
  rw [poppedItems, removals_snoc, List.filterMap_append, QueueCall.removal]
  cases (queueAfter max calls).tryPop.1 <;> rfl

end History

/-! ## Runs -/

namespace ModeratedWorld

variable (engine : Engine) (compile : RegexCompiler) (config : Config) (reader : UrlReader)

/-- The queue has seen the reports and the pops of the thread, and the thread runs when
there can be a report. -/
structure Sound (state : ModeratedWorld) : Prop where
  history : ∃ calls, state.world.mod.webhook = queueAfter kQueueMax calls ∧
    pushedItems calls = state.reports ∧ poppedItems kQueueMax calls = state.taken
  webhookUrl : state.world.mod.filter.muteLogWebhook = config.muteLogWebhook
  patterns : state.world.mod.filter.patterns = (WordFilter.ofConfig compile config).patterns
  addressed : ∀ report ∈ state.reports, report.webhookUrl = config.muteLogWebhook
  started : state.control = .notStarted →
    state.reports = [] ∧ (config.muteLogWebhook = [] ∨ config.filterPatterns = [])
  requests : ∀ post ∈ state.posted, ∃ replies,
    (post.calls, post.ok) = postDiscordWebhookSync reader post.job.webhookUrl post.job.content
      replies

theorem sound_initial (startedAt : Nanoseconds) (players : List PlayerRow) :
    Sound compile config reader (.initial compile config startedAt players) where
  history := by
    refine ⟨[], rfl, rfl, ?_⟩
    rw [taken, initial]
    split <;> rfl
  webhookUrl := rfl
  patterns := rfl
  addressed := by simp [initial]
  started notStarted := by
    refine ⟨rfl, ?_⟩
    rw [initial] at notStarted
    dsimp only at notStarted
    split at notStarted
    · rename_i unset
      simpa only [Bool.or_eq_true, List.isEmpty_iff] using unset
    · cases notStarted
  requests := by simp [initial]

variable {engine compile config reader} {state : ModeratedWorld}

theorem Sound.report_eq_none (sound : Sound compile config reader state)
    (notStarted : state.control = .notStarted) (input : WorldInput) :
    state.world.report engine config input = none := by
  cases reported : state.world.report engine config input with
  | none => rfl
  | some job =>
      rcases World.report_eq_some engine config reported with ⟨-, webhookSet, active⟩
      rcases (sound.started notStarted).2 with unset | noPatterns
      · exact absurd (sound.webhookUrl.trans unset) webhookSet
      · have inactive : state.world.mod.filter.patterns = [] := by
          rw [sound.patterns, WordFilter.ofConfig, noPatterns]
          rfl
        rw [WordFilter.active, inactive] at active
        cases active

theorem Sound.world (sound : Sound compile config reader state) {input : WorldInput}
    (noPop : input ≠ .webhookPopped) :
    Sound compile config reader
      { state with
        world := state.world.step engine config input
        reports := state.reports ++ (state.world.report engine config input).toList } := by
  have pushed := state.world.step_webhook engine config noPop
  have kept := state.world.step_filter engine config input
  constructor
  · rcases sound.history with ⟨calls, queue, reported, popped⟩
    dsimp only [waiting, taken]
    rw [pushed]
    cases state.world.report engine config input with
    | none => exact ⟨calls, queue, reported.trans (List.append_nil _).symm, popped⟩
    | some job =>
        refine ⟨calls ++ [.push job], ?_, ?_, ?_⟩
        · rw [queueAfter_snoc, ← queue]
          rfl
        · rw [pushedItems_snoc, reported]
          rfl
        · rw [poppedItems_push]
          exact popped
  · exact kept.1.trans sound.webhookUrl
  · exact kept.2.trans sound.patterns
  · intro job member
    rcases List.mem_append.mp member with old | new
    · exact sound.addressed job old
    · have reported := Option.mem_toList.mp new
      rw [(World.report_eq_some engine config reported).1, sound.webhookUrl]
  · intro notStarted
    refine ⟨?_, (sound.started notStarted).2⟩
    dsimp only
    rw [sound.report_eq_none notStarted, (sound.started notStarted).1]
    rfl
  · exact sound.requests

theorem Sound.webhookTurn (sound : Sound compile config reader state) (stopRequested : Bool)
    (replies : HttpReplies) :
    Sound compile config reader
      (state.webhookTurn engine config reader stopRequested replies) := by
  rcases sound.history with ⟨calls, queue, reported, popped⟩
  unfold ModeratedWorld.webhookTurn
  cases control : state.control with
  | notStarted | stopped => exact sound
  | sleeping =>
      refine { sound with history := ⟨calls, queue, reported, ?_⟩, started := by simp }
      rw [popped, taken, control]
      rfl
  | posting job =>
      refine
        { sound with
          history := ⟨calls, queue, reported, ?_⟩
          started := by simp
          requests := ?_ }
      · rw [popped, taken, taken, control]
        simp [WebhookControl.inHand]
      · intro post member
        rcases List.mem_append.mp member with old | new
        · exact sound.requests post old
        · rw [List.mem_singleton.mp new]
          exact ⟨replies, rfl⟩
  | loopHead =>
      dsimp only
      split
      · refine { sound with history := ⟨calls, queue, reported, ?_⟩, started := by simp }
        rw [popped, taken, control]
        rfl
      · refine
          { sound with
            history := ⟨calls ++ [.tryPop], ?_, ?_, ?_⟩
            started := ?_ }
        · rw [queueAfter_snoc, ← queue]
          rfl
        · rw [pushedItems_snoc]
          exact (List.append_nil _).trans reported
        · rw [poppedItems_tryPop, ← queue, popped, taken, taken, control]
          cases state.world.mod.webhook.tryPop.1 <;> simp [WebhookControl.inHand]
        · intro notStarted
          dsimp only at notStarted
          split at notStarted <;> cases notStarted

theorem step_world {input : WorldInput} (noPop : input ≠ .webhookPopped) :
    state.step engine config reader (.world input) =
      { state with
        world := state.world.step engine config input
        reports := state.reports ++ (state.world.report engine config input).toList } := by
  cases input with
  | webhookPopped => exact absurd rfl noPop
  | _ => rfl

theorem Sound.step (sound : Sound compile config reader state) (input : ModeratedInput) :
    Sound compile config reader (state.step engine config reader input) := by
  cases input with
  | webhook stopRequested replies => exact sound.webhookTurn stopRequested replies
  | world input =>
      by_cases pop : input = .webhookPopped
      · rw [pop]
        exact sound
      · rw [step_world pop]
        exact sound.world pop

/-- Reports are posted in their order, each at most once, and those that are neither posted
nor waiting were dropped. -/
theorem Sound.conserved (sound : Sound compile config reader state) :
    (state.taken ++ state.waiting).Sublist state.reports ∧
      state.reports.length = state.taken.length + state.waiting.length +
        state.world.mod.webhook.drops := by
  rcases sound.history with ⟨calls, queue, reported, popped⟩
  have order : pushedItems calls = (removals kQueueMax calls).map Removal.item ++
      (queueAfter kQueueMax calls).items := pushedItems_eq calls
  have counted : (queueAfter kQueueMax calls).drops = (evictedItems kQueueMax calls).length :=
    drops_queueAfter calls
  have lengths := length_removals (removals kQueueMax calls)
  rw [reported] at order
  rw [← popped, waiting, queue, order]
  refine ⟨(popped_sublist_removals _).append (List.Sublist.refl _), ?_⟩
  rw [List.length_append, List.length_map, lengths, counted]
  unfold poppedItems evictedItems
  omega

/-- The rest of the server takes its own steps, and the thread adds nothing but pops. -/
theorem world_run (initial : ModeratedWorld) (inputs : List ModeratedInput) :
    ∃ kept, (run engine config reader initial inputs).world =
        World.run engine config initial.world kept ∧
      kept.filter WorldInput.leavesWebhook = inputs.filterMap ModeratedInput.server := by
  induction inputs using List.reverseRecOn with
  | nil => exact ⟨[], rfl, rfl⟩
  | append_singleton past input induction =>
      rcases induction with ⟨kept, same, steps⟩
      suffices added : ∃ more, (run engine config reader initial (past ++ [input])).world =
          World.run engine config (run engine config reader initial past).world more ∧
          more.filter WorldInput.leavesWebhook = [input].filterMap ModeratedInput.server by
        rcases added with ⟨more, after, new⟩
        refine ⟨kept ++ more, ?_, ?_⟩
        · rw [after, same, World.run, World.run, World.run, Execution.run_append]
        · rw [List.filter_append, List.filterMap_append, steps, new]
      rw [run, Execution.run_snoc]
      cases input with
      | world input =>
          cases input with
          | webhookPopped => exact ⟨[], rfl, rfl⟩
          | hook context => exact ⟨[.hook context], rfl, rfl⟩
          | update => exact ⟨[.update], rfl, rfl⟩
          | join playerState => exact ⟨[.join playerState], rfl, rfl⟩
          | worker input => exact ⟨[.worker input], rfl, rfl⟩
          | remote action => exact ⟨[.remote action], rfl, rfl⟩
      | webhook stopRequested replies =>
          rw [step, ModeratedWorld.webhookTurn]
          split
          · exact ⟨[], rfl, rfl⟩
          · exact ⟨[], rfl, rfl⟩
          · exact ⟨[], rfl, rfl⟩
          · exact ⟨[], rfl, rfl⟩
          · split
            · exact ⟨[], rfl, rfl⟩
            · exact ⟨[.webhookPopped], rfl, rfl⟩

/-! ## Turns of the thread -/

def webhookTurns : ModeratedInput → Bool
  | .webhook _ _ => true
  | .world _ => false

/-- Every turn of the thread sees this value of the stop token. -/
def StopToken (stopRequested : Bool) (inputs : List ModeratedInput) : Prop :=
  ∀ seen replies, .webhook seen replies ∈ inputs → seen = stopRequested

def settleLimit : Nat := 3 * (kQueueMax + 1) + 2

def turnsLeft (reports : Nat) (state : ModeratedWorld) : Nat :=
  if reports ≤ state.settled then 0
  else 3 * (reports - state.settled) +
    match state.control with
    | .notStarted | .posting _ | .stopped => 0
    | .loopHead => 1
    | .sleeping => 2

theorem settled_world {input : WorldInput} (noPop : input ≠ .webhookPopped) :
    state.settled ≤ state.posted.length +
      (state.world.step engine config input).mod.webhook.drops := by
  rw [state.world.step_webhook engine config noPop, settled]
  cases state.world.report engine config input with
  | none => exact Nat.le_refl _
  | some job =>
      refine Nat.add_le_add_left ?_ _
      rw [Option.elim_some, BoundedQueue.drops_push]
      exact Nat.le_add_right _ _

structure Busy (compile : RegexCompiler) (config : Config) (reader : UrlReader) (reports : Nat)
    (state : ModeratedWorld) : Prop where
  sound : Sound compile config reader state
  started : state.control ≠ .notStarted
  running : state.control ≠ .stopped
  reported : reports ≤ state.reports.length

section Busy

variable {reports : Nat}

theorem settled_posted (control : WebhookControl) (post : WebhookPost) :
    settled { state with control, posted := state.posted ++ [post] } = state.settled + 1 := by
  rw [settled, settled, List.length_append, List.length_singleton]
  exact Nat.add_right_comm _ _ _

theorem settled_popped (control : WebhookControl) :
    settled { state with world := state.world.step engine config .webhookPopped, control } =
      state.settled := by
  have kept := QueueCall.apply_drops state.world.mod.webhook .tryPop
  rw [settled, settled]
  congr 1
  rw [QueueCall.removal] at kept
  refine kept.trans ?_
  cases state.world.mod.webhook.tryPop.1 <;> rfl

theorem Busy.step (busy : Busy compile config reader reports state) {input : ModeratedInput}
    (quiet : ∀ seen replies, input = .webhook seen replies → seen = false) :
    Busy compile config reader reports (state.step engine config reader input) := by
  have sound : Sound compile config reader (state.step engine config reader input) :=
    busy.sound.step input
  cases input with
  | world input =>
      by_cases pop : input = .webhookPopped
      · rw [pop]
        exact busy
      · rw [step_world pop] at sound ⊢
        refine ⟨sound, busy.started, busy.running, busy.reported.trans ?_⟩
        rw [List.length_append]
        exact Nat.le_add_right _ _
  | webhook stopRequested replies =>
      cases quiet stopRequested replies rfl
      have moved : (state.webhookTurn engine config reader false replies).control ≠ .notStarted ∧
          (state.webhookTurn engine config reader false replies).control ≠ .stopped ∧
          (state.webhookTurn engine config reader false replies).reports = state.reports := by
        have started := busy.started
        have running := busy.running
        unfold ModeratedWorld.webhookTurn
        cases control : state.control with
        | notStarted => exact absurd control started
        | stopped => exact absurd control running
        | sleeping | posting job => simp
        | loopHead => cases state.world.mod.webhook.tryPop.1 <;> simp
      exact ⟨sound, moved.1, moved.2.1, busy.reported.trans (by rw [ModeratedWorld.step, moved.2.2])⟩

theorem Busy.some_left (busy : Busy compile config reader reports state)
    (unsettled : state.settled < reports) :
    0 < state.control.inHand.toList.length + state.waiting.length := by
  have conserved := busy.sound.conserved.2
  have reported := busy.reported
  rw [taken, List.length_append, List.length_map] at conserved
  rw [settled] at unsettled
  omega

theorem Busy.turnsLeft_step (busy : Busy compile config reader reports state)
    {input : ModeratedInput}
    (quiet : ∀ seen replies, input = .webhook seen replies → seen = false) :
    turnsLeft reports (state.step engine config reader input) ≤
      turnsLeft reports state - (if webhookTurns input then 1 else 0) := by
  cases input with
  | world input =>
      by_cases pop : input = .webhookPopped
      · rw [pop]
        exact Nat.le_refl _
      · have grows : state.settled ≤ state.posted.length +
            (state.world.step engine config input).mod.webhook.drops := settled_world pop
        rw [step_world pop, turnsLeft, turnsLeft]
        change (if reports ≤ state.posted.length + _ then 0 else
          3 * (reports - (state.posted.length + _)) + _) ≤ _
        simp only [webhookTurns, Bool.false_eq_true, if_false, Nat.sub_zero]
        split
        · exact Nat.zero_le _
        · rw [if_neg (by omega)]
          omega
  | webhook stopRequested replies =>
      cases quiet stopRequested replies rfl
      change turnsLeft reports (state.webhookTurn engine config reader false replies) ≤
        turnsLeft reports state - 1
      have some_left := busy.some_left
      unfold turnsLeft ModeratedWorld.webhookTurn
      cases control : state.control with
      | notStarted => exact absurd control busy.started
      | stopped => exact absurd control busy.running
      | sleeping =>
          dsimp only
          change (if reports ≤ state.settled then 0 else 3 * (reports - state.settled) + 1) ≤ _
          split <;> omega
      | posting job =>
          dsimp only
          rw [settled_posted]
          split
          · exact Nat.zero_le _
          · rw [if_neg (by omega)]
            omega
      | loopHead =>
          simp only [Bool.false_eq_true, if_false]
          rw [settled_popped]
          split
          · exact Nat.zero_le _
          · rename_i unsettled
            cases popped : state.world.mod.webhook.tryPop.1 with
            | some job =>
                dsimp only
                omega
            | none =>
                have nothing : state.waiting = [] :=
                  BoundedQueue.items_eq_nil_of_tryPop popped
                have left := some_left (Nat.not_le.mp unsettled)
                rw [control, nothing] at left
                exact absurd left (by decide)

theorem Busy.settles (busy : Busy compile config reader reports state)
    {inputs : List ModeratedInput} (quiet : StopToken false inputs)
    (turns : turnsLeft reports state ≤ inputs.countP webhookTurns) :
    reports ≤ (run engine config reader state inputs).settled := by
  have left : turnsLeft reports (run engine config reader state inputs) ≤
      turnsLeft reports state - inputs.countP webhookTurns :=
    Execution.run_countdown (Busy compile config reader reports) (turnsLeft reports) inputs
      (fun state busy input member => busy.step fun seen replies same =>
        quiet seen replies (same ▸ member))
      (fun state busy input member => busy.turnsLeft_step fun seen replies same =>
        quiet seen replies (same ▸ member)) busy
  by_contra unsettled
  rw [turnsLeft, if_neg unsettled] at left
  omega

theorem turnsLeft_le (sound : Sound compile config reader state) :
    turnsLeft state.reports.length state ≤ settleLimit := by
  have conserved := sound.conserved.2
  have bounded : state.waiting.length ≤ kQueueMax := state.world.mod.webhook.deque.bounded
  have one : state.control.inHand.toList.length ≤ 1 := by
    cases state.control.inHand with
    | none => exact Nat.zero_le _
    | some job => exact Nat.le_refl _
  rw [taken, List.length_append, List.length_map] at conserved
  have few : state.reports.length - state.settled ≤ kQueueMax + 1 := by
    rw [settled]
    omega
  unfold turnsLeft
  split
  · exact Nat.zero_le _
  · refine Nat.add_le_add (Nat.mul_le_mul_left 3 few) ?_
    cases state.control <;> simp

end Busy

def turnsToStop (state : ModeratedWorld) : Nat :=
  match state.control with
  | .notStarted | .stopped => 0
  | .loopHead => 1
  | .posting _ | .sleeping => 2

theorem turnsToStop_step {input : ModeratedInput}
    (stop : ∀ seen replies, input = .webhook seen replies → seen = true) :
    turnsToStop (state.step engine config reader input) ≤
        turnsToStop state - (if webhookTurns input then 1 else 0) ∧
      (state.step engine config reader input).taken = state.taken := by
  cases input with
  | world input =>
      by_cases pop : input = .webhookPopped
      · rw [pop]
        exact ⟨Nat.le_refl _, rfl⟩
      · rw [step_world pop]
        exact ⟨Nat.le_refl _, rfl⟩
  | webhook stopRequested replies =>
      cases stop stopRequested replies rfl
      rw [step, ModeratedWorld.webhookTurn, turnsToStop, turnsToStop, taken, taken]
      cases control : state.control with
      | posting job => simp [webhookTurns, WebhookControl.inHand]
      | _ => simp [webhookTurns, WebhookControl.inHand, control]

theorem stops (state : ModeratedWorld) {inputs : List ModeratedInput}
    (requested : StopToken true inputs) (turns : 2 ≤ inputs.countP webhookTurns) :
    let ended := run engine config reader state inputs
    (ended.control = .notStarted ∨ ended.control = .stopped) ∧
      ended.posted.map (·.job) = state.taken := by
  intro ended
  have kept : ended.taken = state.taken :=
    Execution.run_relation_of_mem
      (fun before after : ModeratedWorld => after.taken = before.taken) (fun _ => rfl)
      (fun early late => late.trans early) inputs fun state input member =>
        (turnsToStop_step fun seen replies same => requested seen replies (same ▸ member)).2
  have left : turnsToStop ended ≤ turnsToStop state - inputs.countP webhookTurns :=
    Execution.run_countdown (fun _ => True) turnsToStop inputs (fun _ _ _ _ => trivial)
      (fun state _ input member =>
        (turnsToStop_step fun seen replies same => requested seen replies (same ▸ member)).1)
      trivial
  have most : turnsToStop state ≤ 2 := by
    unfold turnsToStop
    cases state.control <;> simp
  have none : turnsToStop ended = 0 := by omega
  unfold turnsToStop at none
  rw [taken] at kept
  cases control : ended.control with
  | notStarted =>
      rw [control] at kept
      exact ⟨.inl rfl, (List.append_nil _).symm.trans kept⟩
  | stopped =>
      rw [control] at kept
      exact ⟨.inr rfl, (List.append_nil _).symm.trans kept⟩
  | _ =>
      rw [control] at none
      cases none

/-- In every run, whatever the webhook server answers, the reports of blocked lines are
posted to the configured webhook in their order, each at most once, and only those that the
full queue dropped are missing. While the thread keeps turning every report is posted or
dropped after a bounded number of its turns, and after a stop request it posts the job in
hand and ends. The rest of the server takes all its steps when they come; the thread only pops
its queue in between. -/
theorem reports_posted (engine : Engine) (compile : RegexCompiler) (config : Config)
    (reader : UrlReader) (startedAt : Nanoseconds) (players : List PlayerRow)
    (past more : List ModeratedInput) :
    let initial := ModeratedWorld.initial compile config startedAt players
    let before := run engine config reader initial past
    let after := run engine config reader initial (past ++ more)
    (after.taken ++ after.waiting).Sublist after.reports ∧
    after.reports.length = after.taken.length + after.waiting.length +
      after.world.mod.webhook.drops ∧
    (∀ post ∈ after.posted, ∃ replies, (post.calls, post.ok) =
      postDiscordWebhookSync reader config.muteLogWebhook post.job.content replies) ∧
    (before.control ≠ .stopped → StopToken false more →
      settleLimit ≤ more.countP webhookTurns → before.reports.length ≤ after.settled) ∧
    (StopToken true more → 2 ≤ more.countP webhookTurns →
      (after.control = .notStarted ∨ after.control = .stopped) ∧
        after.posted.map (·.job) = before.taken) ∧
    ∃ kept, after.world = World.run engine config initial.world kept ∧
      kept.filter WorldInput.leavesWebhook =
        (past ++ more).filterMap ModeratedInput.server := by
  intro initial before after
  have sound (inputs : List ModeratedInput) :
      Sound compile config reader (run engine config reader initial inputs) :=
    Execution.run_invariant (Sound compile config reader) (fun _ input sound => sound.step input)
      (sound_initial compile config reader startedAt players) inputs
  have onward : after = run engine config reader before more := Execution.run_append past more
  have conserved := (sound (past ++ more)).conserved
  refine ⟨conserved.1, conserved.2, fun post member => ?_, fun running quiet turns => ?_,
    fun requested turns => ?_, world_run initial (past ++ more)⟩
  · have reported : post.job ∈ after.reports := by
      refine conserved.1.subset (List.mem_append_left _ (List.mem_append_left _ ?_))
      exact List.mem_map_of_mem member
    rcases (sound (past ++ more)).requests post member with ⟨replies, request⟩
    rw [(sound (past ++ more)).addressed post.job reported] at request
    exact ⟨replies, request⟩
  · rw [onward]
    by_cases started : before.control = .notStarted
    · rw [((sound past).started started).1]
      exact Nat.zero_le _
    · have busy : Busy compile config reader before.reports.length before :=
        ⟨sound past, started, running, Nat.le_refl _⟩
      exact busy.settles quiet ((turnsLeft_le (sound past)).trans turns)
  · rw [onward]
    exact stops before requested turns

end ModeratedWorld

end PalCrosschat
