import PalCrosschat.RelayDesk

/-! # The two paths of a relayed line

Every line that passes the gates is sent exactly once, at once when its display
name is known and at the next `FlushDeferred` otherwise, unless 64 newer lines
push it out of the pending deque first. Both paths send the same fields. -/

namespace PalCrosschat

open Bytes (ascii)

section Events

variable {engine : Engine} {config : Config} {initial : World} {inputs : List WorldInput}
  {time : Nat}

/-- The submitted lines are those that pass every gate. -/
theorem relayEvents_submit_iff {context : HookContext} {known : Option Bytes} :
    (relayEvents engine config initial inputs)[time]? = some (.submit context known) ↔
      inputs[time]? = some (.hook context) ∧
      (World.run engine config initial (inputs.take time)).mod.hookBranch engine config
        context = .relayed ∧
      known =
        (World.run engine config initial (inputs.take time)).mod.knownName context := by
  rw [relayEvents, Execution.getElem?_trace]
  cases inputs[time]? with
  | none => simp
  | some input =>
      cases input with
      | hook other =>
          simp only [Option.map_some, Option.some.injEq, relayEvent, WorldInput.hook.injEq]
          by_cases branch : (World.run engine config initial (inputs.take time)).mod.hookBranch
              engine config other = .relayed
          · rw [if_pos branch]
            constructor
            · intro submitted
              cases submitted
              exact ⟨rfl, branch, rfl⟩
            · intro given
              rcases given with ⟨rfl, -, rfl⟩
              rfl
          · rw [if_neg branch]
            constructor
            · intro impossible
              cases impossible
            · intro given
              rcases given with ⟨rfl, passed, -⟩
              exact absurd passed branch
      | _ => simp [relayEvent]

/-- The flushes are the calls of `on_update`. -/
theorem relayEvents_flush_iff :
    (∃ names, (relayEvents engine config initial inputs)[time]? = some (.flush names)) ↔
      inputs[time]? = some .update := by
  rw [relayEvents, Execution.getElem?_trace]
  cases inputs[time]? with
  | none => simp
  | some input =>
      cases input with
      | hook context =>
          simp only [Option.map_some, relayEvent]
          split <;> simp
      | _ => simp [relayEvent]

theorem noFlush_relayEvents_iff {first last : Nat} :
    Deferral.NoFlush (relayEvents engine config initial inputs) first last ↔
      ∀ time, first < time → time < last → inputs[time]? ≠ some .update := by
  constructor
  · intro quiet time after before updated
    rcases (relayEvents_flush_iff ).mpr updated with ⟨names, flushed⟩
    exact quiet time names after before flushed
  · intro quiet time names after before flushed
    exact quiet time after before (relayEvents_flush_iff.mp ⟨names, flushed⟩)

end Events

/-! ## Names between two ticks -/

/-- Between two ticks a sender's PlayerName property reads the same. -/
def SteadyNames (inputs : List WorldInput) : Prop :=
  ∀ (first second : HookContext) (earlier later : Nat), earlier < later →
    inputs[earlier]? = some (.hook first) → inputs[later]? = some (.hook second) →
    (∀ time, earlier < time → time < later → inputs[time]? ≠ some .update) →
    first.senderUid = second.senderUid → first.propertyName = second.propertyName

section Names

variable {engine : Engine} {config : Config}

theorem names_handleHook (mod : Mod) (context : HookContext) :
    (mod.handleHook engine config context).1.capture.nameByPlayerUid =
      mod.capture.nameByPlayerUid := by
  have kept : (mod.screened engine context).capture.nameByPlayerUid =
      mod.capture.nameByPlayerUid := by
    rw [Mod.screened_capture]
  rw [Mod.handleHook_eq]
  cases mod.hookBranch engine config context with
  | empty => rfl
  | setDiscord connectCode => rfl
  | muted =>
      rcases Mod.suppressMuted_eq engine (mod.screened engine context) context
        (mod.capture.readSender context) with ⟨filter, moment, inject, -, -, equal⟩
      dsimp only
      rw [equal]
      exact kept
  | filtered hit =>
      rcases Mod.suppressFiltered_eq engine config (mod.screened engine context) context
        (mod.capture.readSender context) (context.line engine.codec) hit with
        ⟨filter, moment, inject, -, -, equal⟩
      dsimp only
      rw [equal, Mod.enqueueWebhook]
      split <;> exact kept
  | relayed =>
      dsimp only
      rw [Mod.relayLine_eq]
      split <;> exact kept
  | _ => exact kept

theorem names_run (world : World) {inputs : List WorldInput}
    (noUpdate : .update ∉ inputs) :
    (World.run engine config world inputs).mod.capture.nameByPlayerUid =
      world.mod.capture.nameByPlayerUid := by
  induction inputs generalizing world with
  | nil => rfl
  | cons input rest induction =>
      rw [World.run, Execution.run_cons]
      refine (induction _ fun member => noUpdate (List.mem_cons_of_mem _ member)).trans ?_
      cases input with
      | hook context => exact names_handleHook world.mod context
      | update => exact absurd List.mem_cons_self noUpdate
      | _ => rfl

/-- Between two ticks the cache stays as it is. -/
theorem names_between (engine : Engine) (config : Config) (initial : World)
    {inputs : List WorldInput} {earlier later : Nat} {context : HookContext} (order : earlier < later)
    (hooked : inputs[earlier]? = some (.hook context))
    (noUpdate : ∀ time, earlier < time → time < later → inputs[time]? ≠ some .update) :
    (World.run engine config initial (inputs.take later)).mod.capture.nameByPlayerUid =
      (World.run engine config initial (inputs.take earlier)).mod.capture.nameByPlayerUid := by
  have split : inputs.take later =
      inputs.take earlier ++ (inputs.take later).drop earlier := by
    have whole := List.take_append_drop earlier (inputs.take later)
    rw [List.take_take, Nat.min_eq_left order.le] at whole
    exact whole.symm
  rw [split, World.run, Execution.run_append]
  refine names_run _ fun updated => ?_
  rcases List.mem_iff_getElem?.mp updated with ⟨offset, found⟩
  rw [List.getElem?_drop, List.getElem?_take] at found
  split at found
  · rename_i before
    rcases Nat.eq_zero_or_pos offset with rfl | positive
    · rw [Nat.add_zero, hooked] at found
      cases found
    · exact noUpdate (earlier + offset) (by omega) before found
  · cases found

/-- The display name depends on the cache, the property and the uid. -/
theorem displayName_congr {first second : ChatCapture} {left right : HookContext}
    (names : first.nameByPlayerUid = second.nameByPlayerUid)
    (property : left.propertyName = right.propertyName)
    (uid : left.senderUid = right.senderUid) :
    first.displayName left = second.displayName right := by
  have senderId : left.senderId = right.senderId := by
    rw [HookContext.senderId, HookContext.senderId, uid]
  rw [ChatCapture.displayName, ChatCapture.displayName, ChatCapture.lookupCachedPlayerName,
    ChatCapture.lookupCachedPlayerName, names, property, senderId]

theorem steady_relayEvents (initial : World) {inputs : List WorldInput}
    (steadyNames : SteadyNames inputs) :
    Deferral.Steady HookContext.senderUid (relayEvents engine config initial inputs) := by
  intro first second firstSubmitted secondSubmitted sameUid unknown order quiet
  rcases relayEvents_submit_iff.mp firstSubmitted with ⟨firstHook, -, firstKnown⟩
  rcases relayEvents_submit_iff.mp secondSubmitted with ⟨secondHook, -, secondKnown⟩
  have noUpdate := noFlush_relayEvents_iff.mp quiet
  have property := steadyNames _ _ _ _ order firstHook secondHook noUpdate sameUid
  have names := names_between engine config initial order firstHook noUpdate
  have same := displayName_congr names property.symm sameUid.symm
  rw [secondKnown, Mod.knownName, same, ← Mod.knownName, ← firstKnown, unknown]

end Names

/-! ## The agreement -/

/-- In every run a line that passes the gates is sent, waits or was overrun, each
line once; what was sent are the pushed messages and the enqueued rebroadcasts,
with the fields of the direct path, and in order for each sender. -/
theorem relayPaths (engine : Engine) (config : Config) (compile : RegexCompiler)
    (startedAt : Nanoseconds) (players : List PlayerRow) (inputs : List WorldInput) :
    let initial := World.initial compile config startedAt players
    let events := relayEvents engine config initial inputs
    let desk := relayDesk engine config initial inputs
    let mod := (World.run engine config initial inputs).mod
    desk.Accounts events ∧
    mod.capture.pendingChatRelays.items =
      desk.waiting.items.map (fun ticket => ticket.item.relay engine config) ∧
    pushedMessages mod.journal = desk.delivered.map (outboundOf engine) ∧
    enqueuedLines mod.world.inject.journal =
      desk.delivered.filterMap (rebroadcastOf engine config) ∧
    (∀ delivery ∈ desk.delivered, ∀ other : Mod,
      let direct := other.relayLine config delivery.ticket.item
        (delivery.ticket.item.senderNamed delivery.name)
        (delivery.ticket.item.line engine.codec)
      pushedMessages direct.journal =
          pushedMessages other.journal ++ [outboundOf engine delivery] ∧
        enqueuedLines direct.world.inject.journal =
          enqueuedLines other.world.inject.journal ++
            (rebroadcastOf engine config delivery).toList) ∧
    (SteadyNames inputs → desk.InOrder HookContext.senderUid) := by
  have describes := describes_run engine config compile startedAt players inputs
  refine ⟨Deferral.accounts_after _, describes.waiting, describes.pushed, describes.enqueued,
    fun delivery _ other => ?_,
    fun steadyNames => Deferral.inOrder_after _ (steady_relayEvents _ steadyNames)⟩
  dsimp only
  rw [Mod.relayLine_senderNamed]
  exact ⟨Mod.relayed_pushed _, Mod.relayed_lines _⟩

/-- A server that finds every player under the name `Zoe`. -/
def namingEngine : Engine :=
  { quietEngine with
    playerState := fun _ _ => some { object := 7 }
    getPlayerName := fun _ _ => .name (ascii "Zoe") }

def namelessLine (text : Bytes) : HookContext :=
  { typed text with
    controller := some 3
    playerState := some { object := 7, playerUId := some { a := 1 } } }

def threeLines : List WorldInput :=
  [.hook (namelessLine (ascii "one")), .hook (namelessLine (ascii "two")), .update,
    .hook (namelessLine (ascii "three"))]

theorem steadyNames_threeLines : SteadyNames threeLines := by
  have empty : ∀ (time : Nat) (context : HookContext),
      threeLines[time]? = some (.hook context) → context.propertyName = [] := by
    intro time context found
    match time, found with
    | 0, rfl => decide
    | 1, rfl => decide
    | 3, rfl => decide
  intro first second earlier later order firstHook secondHook noUpdate sameUid
  rw [empty _ _ firstHook, empty _ _ secondHook]

theorem relayPaths_threeLines :
    (relayDesk namingEngine plainConfig (.initial literalRegex plainConfig 0 [])
        threeLines).InOrder HookContext.senderUid ∧
      (relayDesk namingEngine plainConfig (.initial literalRegex plainConfig 0 [])
        threeLines).delivered.map (fun delivery => (delivery.ticket.time, delivery.time)) =
        [(0, 2), (1, 2), (3, 3)] :=
  ⟨(relayPaths namingEngine plainConfig literalRegex 0 [] threeLines).2.2.2.2.2
    steadyNames_threeLines, by decide⟩

end PalCrosschat
