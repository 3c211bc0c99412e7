import PalCrosschat.ColumnBounds
import PalCrosschat.InboundRuns
import PalCrosschat.OutboundRuns
import PalCrosschat.RelayDesk
import PalCrosschat.RelayNetwork
import PalCrosschat.RelaySoundness

/-! # Where a shown line comes from

A line travels from the hook of one server through its outbound queue into the table,
and from there through the inbound queue of another server to its players. None of
these stages makes lines up or doubles them, whatever fails on the way and however the
servers take turns. -/

namespace PalCrosschat

/-! ## What a step adds -/

section Steps

variable {config : Config} {state after : DbState}

theorem DbWorker.Move.journal_extends (moved : Move config state after) :
    state.worker.journal.IsPrefix after.worker.journal := by
  cases moved with
  | quiet quiet =>
      rcases quiet.journal with ⟨added, grown, -⟩
      rw [grown]
      exact List.prefix_append _ _
  | readMaxId control => exact List.prefix_append _ _
  | armCursor maxId control => exact List.prefix_refl _
  | pop item control popped => exact List.prefix_refl _
  | store item control => exact List.prefix_append _ _
  | requeue item control => exact List.prefix_append _ _
  | select now control => exact List.prefix_append _ _
  | fetch batch row rest beyond control rows => exact List.prefix_append _ _
  | advance id batch control => exact List.prefix_refl _

/-- A row that the thread adds to the table is that of the message it inserts. -/
theorem DbWorker.Move.added_row (moved : Move config state after) {row : Row}
    (present : row ∈ after.database.messages ++ after.database.inFlight) :
    row ∈ state.database.messages ++ state.database.inFlight ∨
      ∃ msg, state.worker.control = .inserting msg ∧
        row = { outboundRow config msg with id := state.database.nextId } := by
  cases moved with
  | quiet quiet => exact .inl (by rwa [quiet.messages, quiet.inFlight] at present)
  | store item control =>
      rcases List.mem_append.mp present with stored | begun
      · rcases List.mem_append.mp stored with old | new
        · exact .inl (List.mem_append_left _ old)
        · exact .inr ⟨item, control, List.mem_singleton.mp new⟩
      · exact .inl (List.mem_append_right _ begun)
  | _ => exact .inl present

/-- Whatever becomes of the statement. -/
theorem DbWorker.added_row_tables (config : Config) (state : DbState) (input : WorkerInput)
    (fate : Fate) {row : Row}
    (present : row ∈ (tables config state input fate).messages ++
      (tables config state input fate).inFlight) :
    row ∈ state.database.messages ++ state.database.inFlight ∨
      ∃ msg, state.worker.control = .inserting msg ∧
        row = { outboundRow config msg with id := state.database.nextId } ∧
        (input.ok = true ∨ fate.replyLost = true) := by
  have moved := step_move config state (if fate.replyLost then input.succeeding else input)
  have inStep : row ∈ (step config state
      (if fate.replyLost then input.succeeding else input)).database.messages ++
      (step config state (if fate.replyLost then input.succeeding else input)).database.inFlight := by
    unfold tables at present
    dsimp only at present
    split at present
    · exact moved.grows.postpone_perm.mem_iff.mp present
    · exact present
  rcases moved.added_row inStep with old | ⟨msg, control, same⟩
  · exact .inl old
  · by_cases effective : input.ok = true ∨ fate.replyLost = true
    · exact .inr ⟨msg, control, same, effective⟩
    · -- The INSERT failed, and so it has added nothing.
      rw [not_or] at effective
      rw [if_neg effective.2] at inStep
      simp only [step, control, if_neg effective.1] at inStep
      exact .inl inStep

theorem Database.added_row_remote {database : Database} {action : RemoteAction} {row : Row}
    (present : row ∈ (database.remote action).messages ++ (database.remote action).inFlight) :
    row ∈ database.messages ++ database.inFlight ∨
      ∃ given, action = .begin given ∧ row = { given with id := row.id } := by
  cases action with
  | begin given =>
      rcases List.mem_append.mp present with stored | begun
      · exact .inl (List.mem_append_left _ stored)
      · rcases List.mem_append.mp begun with old | new
        · exact .inl (List.mem_append_right _ old)
        · rw [List.mem_singleton.mp new]
          exact .inr ⟨given, rfl, rfl⟩
  | commit id =>
      left
      rcases List.mem_append.mp present with stored | begun
      · rcases List.mem_append.mp stored with old | new
        · exact List.mem_append_left _ old
        · exact List.mem_append_right _ (List.mem_of_mem_filter new)
      · exact List.mem_append_right _ (List.mem_of_mem_filter begun)
  | rollback id =>
      left
      rcases List.mem_append.mp present with stored | begun
      · exact List.mem_append_left _ stored
      · exact List.mem_append_right _ (List.mem_of_mem_filter begun)

theorem World.journal_extends_step (engine : Engine) (config : Config) (world : World)
    (input : WorldInput) :
    world.worker.journal.IsPrefix (world.step engine config input).worker.journal := by
  cases input with
  | worker input => exact (DbWorker.step_move config world.dbState input).journal_extends
  | _ => exact List.prefix_refl _

inductive World.NewRow (config : Config) (world : World) (fate : Fate) (row : Row) :
    WorldInput → World → Prop
  | stored {input : WorldInput} {after : World} (msg : OutboundMessage)
      (noted : .inserted msg row ∈ after.worker.journal) : NewRow config world fate row input after
  | unreported {after : World} (input : WorkerInput) (msg : OutboundMessage)
      (control : world.worker.control = .inserting msg) (failed : input.ok = false)
      (lost : fate.replyLost = true)
      (same : row = { DbWorker.outboundRow config msg with id := row.id }) :
      NewRow config world fate row (.worker input) after
  | begun {after : World} (given : Row) (same : row = { given with id := row.id }) :
      NewRow config world fate row (.remote (.begin given)) after

theorem World.added_row (engine : Engine) (config : Config) (world : World) (fate : Fate)
    (input : WorldInput) {row : Row}
    (present : row ∈ (world.stepUnder engine config fate input).database.messages ++
      (world.stepUnder engine config fate input).database.inFlight) :
    row ∈ world.database.messages ++ world.database.inFlight ∨
      NewRow config world fate row input (world.stepUnder engine config fate input) := by
  cases input with
  | worker input =>
      rcases DbWorker.added_row_tables config world.dbState input fate present with
        old | ⟨msg, control, same, effective⟩
      · exact .inl old
      · right
        cases ok : input.ok with
        | true =>
            refine .stored msg ?_
            change _ ∈ (DbWorker.step config world.dbState input).worker.journal
            simp only [DbWorker.step, control, ok, if_true]
            rw [same]
            exact List.mem_append_right _ (List.mem_singleton_self _)
        | false =>
            refine .unreported input msg control ok (effective.resolve_left (by simp [ok])) ?_
            rw [same]
  | remote action =>
      rcases Database.added_row_remote present with old | ⟨given, rfl, same⟩
      · exact .inl old
      · exact .inr (.begun given same)
  | _ => exact .inl present

end Steps

/-! ## The rows of the table -/

namespace RelayNetwork

variable {count : Nat} (servers : Fin count → RelayServer)

def WrittenOutside (inputs : List (NetworkInput count)) (row : Row) : Prop :=
  ∃ input ∈ inputs, ∃ given, input.input = .remote (.begin given) ∧
    row = { given with id := row.id }

/-- The INSERT of this message took effect at this moment, but its server was told that it
failed. -/
structure UnreportedInsert (players : List PlayerRow) (inputs : List (NetworkInput count))
    (moment : Nat) (source : Fin count) (msg : OutboundMessage) : Prop where
  call : ∃ input fate, inputs[moment]? = some { server := source, input := .worker input, fate } ∧
    input.ok = false ∧ fate.replyLost = true
  control : ((run servers players (inputs.take moment)).world source).worker.control =
    .inserting msg

inductive HasWriter (players : List PlayerRow) (inputs : List (NetworkInput count)) (row : Row) :
    Prop
  | stored (source : Fin count) (msg : OutboundMessage)
      (noted : .inserted msg row ∈ ((run servers players inputs).world source).worker.journal)
  | unreported (source : Fin count) (moment : Nat) (msg : OutboundMessage)
      (inserted : UnreportedInsert servers players inputs moment source msg)
      (same : row = { DbWorker.outboundRow (servers source).config msg with id := row.id })
  | outside (written : WrittenOutside inputs row)

variable {servers} {players : List PlayerRow} {past : List (NetworkInput count)}

theorem take_snoc {moment : Nat} {input found : NetworkInput count}
    (call : past[moment]? = some found) :
    (past ++ [input])[moment]? = some found ∧ (past ++ [input]).take moment = past.take moment := by
  rcases List.getElem?_eq_some_iff.mp call with ⟨inside, -⟩
  exact ⟨by rwa [List.getElem?_append_left inside], List.take_append_of_le_length inside.le⟩

theorem UnreportedInsert.step {moment : Nat} {source : Fin count} {msg : OutboundMessage}
    (inserted : UnreportedInsert servers players past moment source msg)
    (input : NetworkInput count) :
    UnreportedInsert servers players (past ++ [input]) moment source msg := by
  rcases inserted.call with ⟨given, fate, call, failed, lost⟩
  rcases @take_snoc _ _ _ input _ call with ⟨found, same⟩
  refine ⟨⟨given, fate, found, failed, lost⟩, ?_⟩
  rw [same]
  exact inserted.control

theorem journal_step (source : Fin count) (input : NetworkInput count) :
    ((run servers players past).world source).worker.journal.IsPrefix
      ((run servers players (past ++ [input])).world source).worker.journal := by
  rw [run_snoc]
  by_cases own : source = input.server
  · subst own
    rw [world_step_self, stepped_eq]
    exact World.journal_extends_step _ _ _ _
  · exact ⟨[], by rw [world_step_other own, List.append_nil]⟩

theorem HasWriter.step {row : Row} (known : HasWriter servers players past row)
    (input : NetworkInput count) : HasWriter servers players (past ++ [input]) row := by
  cases known with
  | stored source msg noted => exact .stored source msg ((journal_step source input).subset noted)
  | unreported source moment msg inserted same =>
      exact .unreported source moment msg (inserted.step input) same
  | outside written =>
      rcases written with ⟨other, member, written⟩
      exact .outside ⟨other, List.mem_append_left _ member, written⟩

variable (servers)

theorem hasWriter_run (players : List PlayerRow) (inputs : List (NetworkInput count)) :
    ∀ row ∈ (run servers players inputs).shared.messages ++
        (run servers players inputs).shared.inFlight,
      HasWriter servers players inputs row := by
  refine Execution.run_history_invariant
    (fun inputs (network : RelayNetwork count) =>
      ∀ row ∈ network.shared.messages ++ network.shared.inFlight,
        HasWriter servers players inputs row)
    (fun row present => absurd present List.not_mem_nil) (fun past input known row present => ?_)
    inputs
  have last : (past ++ [input])[past.length]? = some input := List.getElem?_concat_length
  rcases World.added_row (servers input.server).engine (servers input.server).config
    ((run servers players past).world input.server) input.fate input.input present with old | new
  · exact (known row old).step input
  · rcases input with ⟨server, input, fate⟩
    cases new with
    | stored msg noted =>
        refine .stored server msg ?_
        rw [run_snoc, world_step_self]
        exact noted
    | unreported input msg control failed lost same =>
        refine .unreported server past.length msg ⟨⟨input, fate, last, failed, lost⟩, ?_⟩ same
        rw [List.take_left]
        exact control
    | begun given same =>
        exact .outside ⟨_, List.mem_append_right _ (List.mem_singleton_self _), given, rfl, same⟩

end RelayNetwork

/-! ## From the outbound queue to the table -/

namespace OutboundWorld

theorem Sound.run {config : Config} {past : List OutboundInput} {outbound : OutboundWorld}
    (sound : Sound past outbound) (inputs : List OutboundInput) :
    Sound (past ++ inputs) (Execution.run (OutboundWorld.step config) outbound inputs) := by
  induction inputs generalizing past outbound with
  | nil => rwa [List.append_nil]
  | cons input rest induction =>
      have later := induction (@Sound.step config _ _ sound input)
      rwa [List.append_assoc] at later

theorem RowsInOrder.run {config : Config} {outbound : OutboundWorld}
    (inOrder : RowsInOrder outbound) (inputs : List OutboundInput) :
    RowsInOrder (Execution.run (OutboundWorld.step config) outbound inputs) :=
  Execution.run_invariant RowsInOrder (fun _ input inOrder => inOrder.step input) inOrder inputs

def Tracked (world : World) : Prop :=
  ∃ past outbound, Follows world outbound ∧ Sound past outbound ∧ RowsInOrder outbound

theorem Tracked.initial (compile : RegexCompiler) (config : Config) (startedAt : Nanoseconds)
    (players : List PlayerRow) : Tracked (.initial compile config startedAt players) :=
  ⟨[], OutboundWorld.initial startedAt { players }, ⟨rfl, rfl⟩,
    ⟨rfl, RetryQueue.conserved_empty, rfl⟩, .nil, nofun⟩

variable {world : World}

theorem Tracked.step (tracked : Tracked world) (engine : Engine) (config : Config)
    (input : WorldInput) : Tracked (world.step engine config input) := by
  rcases tracked with ⟨past, outbound, follows, sound, inOrder⟩
  rcases follows_step engine config input follows with ⟨actions, stillFollows⟩
  exact ⟨past ++ actions, _, stillFollows, sound.run actions, inOrder.run actions⟩

theorem Tracked.share (tracked : Tracked world) {database : Database}
    (nextId : world.database.nextId ≤ database.nextId) : Tracked { world with database } := by
  rcases tracked with ⟨past, outbound, follows, sound, inOrder⟩
  refine ⟨past, { outbound with state := { outbound.state with database } }, ⟨?_, ?_⟩,
    ⟨sound.pushed, sound.conserved, sound.drops⟩, ?_⟩
  · change { outbound.state with database } = _
    rw [follows.state]
    rfl
  · exact follows.pushed
  · refine inOrder.later rfl ?_
    rw [follows.state]
    exact nextId

theorem Tracked.located (tracked : Tracked world) :
    ∃ rest, (PalCrosschat.pushedMessages world.mod.journal).Perm
      ((storedMessages world.worker.journal).map Prod.fst ++
        (world.worker.control.heldMessage.toList ++ rest)) := by
  rcases tracked with ⟨past, outbound, follows, sound, -⟩
  have located := sound.located
  rw [← sound.pushed, follows.pushed, follows.state, List.append_assoc, List.append_assoc]
    at located
  exact ⟨_, located⟩

theorem Tracked.distinct (tracked : Tracked world) :
    ((storedMessages world.worker.journal).map fun stored => stored.2.id).Nodup := by
  rcases tracked with ⟨past, outbound, follows, -, inOrder⟩
  have increasing := inOrder.increasing
  rw [follows.state] at increasing
  exact increasing.imp Nat.ne_of_lt

end OutboundWorld

namespace RelayNetwork

variable {count : Nat} (servers : Fin count → RelayServer)

theorem tracked_run (players : List PlayerRow) (inputs : List (NetworkInput count))
    (server : Fin count) : OutboundWorld.Tracked ((run servers players inputs).world server) := by
  refine run_each_of_shares servers players (fun _ _ world => OutboundWorld.Tracked world)
    ?_ ?_ ?_ ?_ inputs server
  · intro server
    exact .initial _ _ _ _
  · intro past input tracked
    exact (tracked input.server).step _ _ input.input
  · exact fun _ _ _ _ tracked => tracked
  · exact fun _ _ _ _ tracked shares => tracked.share shares.nextId

/-! ## From the hook to the outbound queue -/

def relayEvent (server : Fin count) (network : RelayNetwork count) (input : NetworkInput count) :
    RelayEvent :=
  if input.server = server then
    PalCrosschat.relayEvent (servers server).engine (servers server).config
      (network.world server) input.input
  else .idle

def relayEvents (players : List PlayerRow) (server : Fin count)
    (inputs : List (NetworkInput count)) : List RelayEvent :=
  Execution.trace (step servers) (relayEvent servers server) (initial servers players) inputs

def relayDesk (players : List PlayerRow) (server : Fin count)
    (inputs : List (NetworkInput count)) : RelayDesk :=
  .after kMaxPendingChatRelays (relayEvents servers players server inputs)

theorem relayDesk_snoc (players : List PlayerRow) (server : Fin count)
    (past : List (NetworkInput count)) (input : NetworkInput count) :
    relayDesk servers players server (past ++ [input]) =
      (relayDesk servers players server past).step
        (relayEvent servers server (run servers players past) input) := by
  rw [relayDesk, relayEvents, Execution.trace_snoc]
  exact Execution.run_snoc _ _

theorem describes_run (players : List PlayerRow) (inputs : List (NetworkInput count))
    (server : Fin count) :
    Describes (servers server).engine (servers server).config
      (relayDesk servers players server inputs) ((run servers players inputs).world server).mod := by
  refine run_each_of_shares servers players
    (fun inputs server world => Describes (servers server).engine (servers server).config
      (relayDesk servers players server inputs) world.mod) ?_ ?_ ?_ ?_ inputs server
  · exact fun _ => ⟨rfl, rfl, rfl⟩
  · intro past input describes
    rw [relayDesk_snoc, relayEvent, if_pos rfl]
    exact (describes input.server).step input.input
  · intro past input other apart describes
    rw [relayDesk_snoc, relayEvent, if_neg (Ne.symm apart)]
    exact describes.timed _
  · exact fun _ _ _ _ describes _ => describes

theorem exists_subperm_of_map_perm {α β : Type} {image : α → β} {items : List α}
    {images rest : List β} (perm : (items.map image).Perm (images ++ rest)) :
    ∃ used : List α, used.Subperm items ∧ used.map image = images := by
  have composed : Relation.Comp (fun first second => first = second.map image) List.Perm
      (images ++ rest) items := by
    rw [List.eq_map_comp_perm]
    exact perm.symm
  rcases composed with ⟨ordered, split, same⟩
  refine ⟨ordered.take images.length, (List.take_sublist _ _).subperm.trans same.subperm, ?_⟩
  rw [List.map_take, ← split, List.take_left]

theorem exists_injOn_of_nodup {keys values : List Nat} (distinct : keys.Nodup)
    (apart : values.Nodup) (length : keys.length = values.length) :
    ∃ assign : Nat → Nat, Set.InjOn assign { key | key ∈ keys } ∧ keys.map assign = values := by
  have assigned : keys.map (fun key => values.getD (keys.idxOf key) 0) = values := by
    apply List.ext_getElem
    · rw [List.length_map, length]
    · intro position inKeys inValues
      rw [List.getElem_map, distinct.idxOf_getElem, List.getD_eq_getElem?_getD,
        List.getElem?_eq_getElem inValues, Option.getD_some]
  refine ⟨_, ?_, assigned⟩
  rw [← assigned] at apart
  exact List.inj_on_of_nodup_map apart

structure TypedAt (players : List PlayerRow) (inputs : List (NetworkInput count)) (moment : Nat)
    (source : Fin count) (context : HookContext) : Prop where
  call : ∃ fate, inputs[moment]? =
    some { server := source, input := .hook context, fate }
  relayable : Relayable (servers source).engine (servers source).config
    ((run servers players (inputs.take moment)).world source).mod context

theorem soundWorld_run (players : List PlayerRow) (inputs : List (NetworkInput count))
    (server : Fin count) :
    SoundWorld (fun _ => True) (servers server).config
      ((run servers players inputs).world server) := by
  refine run_each_of_shares servers players
    (fun _ server world => SoundWorld (fun _ => True) (servers server).config world) ?_ ?_ ?_ ?_
    inputs server
  · intro server
    exact .initial _ _ _ _
  · intro past input sound
    exact (sound input.server).step_of_stems input.input fun _ _ _ => trivial
  · exact fun _ _ _ _ sound => sound
  · exact fun _ _ _ _ sound _ => ⟨sound.mod, { sound.thread with }⟩

theorem typedAt_of_submitted {players : List PlayerRow} {inputs : List (NetworkInput count)}
    {server : Fin count} {ticket : RelayTicket}
    (submitted : Deferral.Submitted (relayEvents servers players server inputs) ticket) :
    TypedAt servers players inputs ticket.time server ticket.item := by
  unfold Deferral.Submitted at submitted
  rw [relayEvents, Execution.getElem?_trace] at submitted
  rcases Option.map_eq_some_iff.mp submitted with ⟨input, taken, event⟩
  unfold relayEvent at event
  split at event
  · rename_i own
    rcases input with ⟨source, input, fate⟩
    rcases own with rfl
    cases input with
    | hook context =>
        simp only [PalCrosschat.relayEvent] at event
        split at event
        · rename_i branch
          rw [Deferral.Event.submit.injEq] at event
          have sound := soundWorld_run servers players (inputs.take ticket.time) source
          rw [← event.1]
          exact ⟨⟨fate, taken⟩, sound.mod.relayable _ _ branch⟩
        · cases event
    | _ => cases event
  · cases event

def Carries (players : List PlayerRow) (inputs : List (NetworkInput count)) (source : Fin count)
    (moment : Nat) (msg : OutboundMessage) : Prop :=
  ∃ context name, TypedAt servers players inputs moment source context ∧
    msg = context.outboundUnder (servers source).engine name

theorem TypedAt.of_take {players : List PlayerRow} {inputs : List (NetworkInput count)}
    {moment bound : Nat} {source : Fin count} {context : HookContext}
    (typed : TypedAt servers players (inputs.take bound) moment source context) :
    TypedAt servers players inputs moment source context := by
  rcases typed.call with ⟨fate, call⟩
  rcases List.getElem?_eq_some_iff.mp call with ⟨inside, -⟩
  have within : moment < bound := by
    rw [List.length_take] at inside
    omega
  rw [List.getElem?_take_of_lt within] at call
  refine ⟨⟨fate, call⟩, ?_⟩
  have relayable := typed.relayable
  rwa [List.take_take, Nat.min_eq_left within.le] at relayable

theorem carries_of_pushed {players : List PlayerRow} {inputs : List (NetworkInput count)}
    {source : Fin count} {msg : OutboundMessage}
    (pushed : msg ∈ pushedMessages ((run servers players inputs).world source).mod.journal) :
    ∃ moment, Carries servers players inputs source moment msg := by
  rw [(describes_run servers players inputs source).pushed] at pushed
  rcases List.mem_map.mp pushed with ⟨delivery, member, rfl⟩
  have accounts : (relayDesk servers players source inputs).Accounts
      (relayEvents servers players source inputs) := Deferral.accounts_after _
  have ticket : delivery.ticket ∈ (relayDesk servers players source inputs).tickets :=
    List.mem_append_left _ (List.mem_append_left _ (List.mem_map_of_mem member))
  exact ⟨_, _, _, typedAt_of_submitted servers ((accounts.submitted _).mp ticket), rfl⟩

theorem carries_of_unreported {players : List PlayerRow} {inputs : List (NetworkInput count)}
    {later : Nat} {source : Fin count} {msg : OutboundMessage}
    (inserted : UnreportedInsert servers players inputs later source msg) :
    ∃ moment, Carries servers players inputs source moment msg := by
  rcases (tracked_run servers players (inputs.take later) source).located with ⟨rest, located⟩
  have held : msg ∈ ((run servers players (inputs.take later)).world
      source).worker.control.heldMessage.toList := by
    rw [inserted.control]
    exact List.mem_singleton_self msg
  have pushed := located.mem_iff.mpr
    (List.mem_append_right _ (List.mem_append_left rest held))
  rcases carries_of_pushed servers pushed with ⟨moment, context, name, typed, same⟩
  exact ⟨moment, context, name, typed.of_take servers, same⟩

theorem stored_typed (players : List PlayerRow) (inputs : List (NetworkInput count))
    (source : Fin count) :
    let stored := storedMessages ((run servers players inputs).world source).worker.journal
    ∃ typedAt : Nat → Nat, Set.InjOn typedAt { id | id ∈ stored.map fun entry => entry.2.id } ∧
      ∀ entry ∈ stored, Carries servers players inputs source (typedAt entry.2.id) entry.1 := by
  intro stored
  have accounts : (relayDesk servers players source inputs).Accounts
      (relayEvents servers players source inputs) := Deferral.accounts_after _
  have tracked := tracked_run servers players inputs source
  rcases tracked.located with ⟨rest, located⟩
  rw [(describes_run servers players inputs source).pushed] at located
  rcases exists_subperm_of_map_perm located with ⟨used, fewer, aligned⟩
  have apart : (used.map fun delivery => delivery.ticket.time).Nodup := by
    have once := accounts.once
    rw [Deferral.Desk.tickets, List.map_append, List.map_append, List.map_map] at once
    rcases fewer with ⟨ordered, same, inDesk⟩
    have delivered := (inDesk.map _).nodup once.of_append_left.of_append_left
    exact (same.map _).nodup_iff.mp delivered
  have length : (stored.map fun entry => entry.2.id).length =
      (used.map fun delivery => delivery.ticket.time).length := by
    have same := congrArg List.length aligned
    simpa using same.symm
  rcases exists_injOn_of_nodup tracked.distinct apart length with ⟨typedAt, injective, assigned⟩
  refine ⟨typedAt, injective, fun entry member => ?_⟩
  rcases List.getElem_of_mem member with ⟨position, inside, rfl⟩
  have inUsed : position < used.length := by
    rw [List.length_map, List.length_map] at length
    exact length ▸ inside
  have message : outboundOf (servers source).engine used[position] = stored[position].1 := by
    have same := List.getElem_of_eq aligned (by rwa [List.length_map])
    rwa [List.getElem_map, List.getElem_map] at same
  have moment : typedAt stored[position].2.id = used[position].ticket.time := by
    have same := List.getElem_of_eq assigned (by rwa [List.length_map, List.length_map])
    rwa [List.getElem_map, List.getElem_map, List.getElem_map] at same
  have inDesk : used[position].ticket ∈ (relayDesk servers players source inputs).tickets :=
    List.mem_append_left _ (List.mem_append_left _
      (List.mem_map_of_mem (fewer.subset (List.getElem_mem inUsed))))
  have typed := typedAt_of_submitted servers ((accounts.submitted _).mp inDesk)
  rw [← moment] at typed
  exact ⟨_, _, typed, message.symm⟩

end RelayNetwork

/-! ## From the table to the players -/

/-- The message was read from the row, through buffers in which earlier rows may have
left something. -/
def DecodedFrom (row : Row) (msg : InboundMessage) : Prop :=
  ∃ buffers beyond, BoundBuffers buffers ∧ msg = (buffers.fetch row).decode beyond row

structure FitsBuffers (msg : OutboundMessage) : Prop where
  senderName : msg.senderName.length ≤ 63
  senderId : msg.senderId.length ≤ 63
  guildName : msg.guildName.length ≤ 63
  message : msg.message.length ≤ 511

theorem DecodedFrom.sameFields {config : Config} {msg : OutboundMessage} {id : Nat}
    {item : InboundMessage}
    (read : DecodedFrom { DbWorker.outboundRow config msg with id } item)
    (fits : FitsBuffers msg) : SameFields msg item := by
  rcases read with ⟨buffers, beyond, bound, rfl⟩
  have column {limit : Nat} {buffer : Bytes} (good : BoundBuffer limit buffer)
      {text : Bytes} (short : text.length ≤ limit) (after : Bytes) :
      assignColumn (fetchColumn buffer (boundLength buffer) (some text)) after (some text) =
        text := by
    rw [good.boundLength, assignColumn_fetchColumn good, if_pos short]
  rw [sameFields_decode_iff]
  exact ⟨column bound.senderName fits.senderName _, column bound.senderId fits.senderId _,
    column bound.guildName fits.guildName _, column bound.message fits.message _⟩

structure ReadsRows (worker : Worker) : Prop where
  bound : BatchBound worker
  decoded : ∀ row msg, .inboundPushed row msg ∈ worker.journal → DecodedFrom row msg

theorem ReadsRows.step {config : Config} {state : DbState} (reads : ReadsRows state.worker)
    (input : WorkerInput) : ReadsRows (DbWorker.step config state input).worker := by
  refine ⟨DbWorker.batchBound_step config state reads.bound input, fun row msg pushed => ?_⟩
  have move := DbWorker.step_move config state input
  generalize DbWorker.step config state input = after at move pushed
  have other {event : WorkerEvent} (silent : event ≠ .inboundPushed row msg)
      (member : .inboundPushed row msg ∈ state.worker.journal ++ [event]) :
      DecodedFrom row msg := by
    rcases List.mem_append.mp member with old | new
    · exact reads.decoded row msg old
    · exact absurd (List.mem_singleton.mp new).symm silent
  cases move with
  | quiet quiet =>
      rcases quiet.journal with ⟨added, grown, unrelated⟩
      rw [grown] at pushed
      rcases List.mem_append.mp pushed with old | new
      · exact reads.decoded row msg old
      · cases unrelated _ new
  | readMaxId control => exact other (fun same => by cases same) pushed
  | armCursor maxId control => exact reads.decoded row msg pushed
  | pop item control popped => exact reads.decoded row msg pushed
  | store item control => exact other (fun same => by cases same) pushed
  | requeue item control => exact other (fun same => by cases same) pushed
  | select now control => exact other (fun same => by cases same) pushed
  | fetch batch fetched rest beyond control rows =>
      rcases List.mem_append.mp pushed with old | new
      · exact reads.decoded row msg old
      · cases List.mem_singleton.mp new
        exact ⟨batch.buffers, beyond, reads.bound batch (by rw [control]; rfl), rfl⟩
  | advance id batch control => exact reads.decoded row msg pushed

theorem mem_workerRows {journal : List WorkerEvent} {item : InboundMessage} :
    item ∈ workerRows journal ↔ ∃ row, .inboundPushed row item ∈ journal := by
  simp only [workerRows, List.mem_filterMap]
  constructor
  · intro given
    rcases given with ⟨event, member, found⟩
    cases event with
    | inboundPushed row msg =>
        cases found
        exact ⟨row, member⟩
    | _ => cases found
  · intro given
    rcases given with ⟨row, member⟩
    exact ⟨_, member, rfl⟩

theorem map_id_workerRows {journal : List WorkerEvent}
    (decoded : ∀ row msg, .inboundPushed row msg ∈ journal → DecodedFrom row msg) :
    (workerRows journal).map (·.id) = pushedIds journal := by
  rw [workerRows, pushedIds, List.map_filterMap]
  apply List.filterMap_congr
  intro event member
  cases event with
  | inboundPushed row msg =>
      rcases decoded row msg member with ⟨buffers, beyond, -, rfl⟩
      rfl
  | _ => rfl

namespace RelayNetwork

variable {count : Nat} (servers : Fin count → RelayServer)

theorem readsRows_run (players : List PlayerRow) (inputs : List (NetworkInput count))
    (server : Fin count) : ReadsRows ((run servers players inputs).world server).worker := by
  refine run_each_of_shares servers players (fun _ _ world => ReadsRows world.worker) ?_ ?_ ?_ ?_
    inputs server
  · exact fun _ => ⟨batchBound_of_free rfl, nofun⟩
  · intro past input reads
    cases input.input with
    | worker input => exact (reads _).step input
    | _ => exact reads _
  · exact fun _ _ _ _ reads => reads
  · exact fun _ _ _ _ reads _ => reads

/-- Inject of a server is a run of inject in small steps. -/
theorem drainFollows_run (players : List PlayerRow) (inputs : List (NetworkInput count))
    (server : Fin count) :
    ∃ steps, DrainWorld.Follows ((run servers players inputs).world server)
      (DrainWorld.run (servers server).engine (servers server).config steps) := by
  refine run_each_of_shares servers players
    (fun _ server world => ∃ steps, DrainWorld.Follows world
      (DrainWorld.run (servers server).engine (servers server).config steps)) ?_ ?_ ?_ ?_
    inputs server
  · exact fun _ => ⟨[], rfl, rfl, rfl⟩
  · intro past input followed
    rcases followed input.server with ⟨steps, follows⟩
    rcases DrainWorld.follows_step _ _ input.input follows with ⟨more, stillFollows⟩
    refine ⟨steps ++ more, ?_⟩
    rw [DrainWorld.run, Execution.run_append]
    exact stillFollows
  · exact fun _ _ _ _ followed => followed
  · intro past server world database followed shares
    rcases followed with ⟨steps, follows⟩
    exact ⟨steps, follows.agrees, follows.idle, follows.pushed⟩

def attempts (network : RelayNetwork count) (server : Fin count) : List (InboundMessage × Bool) :=
  injectedRows (network.world server).mod.world.inject.journal

def completedRows (network : RelayNetwork count) (server : Fin count) : List InboundMessage :=
  broadcastRows (network.world server).mod.world.inject.journal

structure IsLineOf (source receiver : Fin count) (msg : OutboundMessage) (item : InboundMessage) :
    Prop where
  foreign : (servers source).config.serverOrigin ≠ (servers receiver).config.serverOrigin
  read : DecodedFrom { DbWorker.outboundRow (servers source).config msg with id := item.id } item
  same : FitsBuffers msg → SameFields msg item

/-- Where a row that was broadcast comes from: from a call of the hook of a server with another
origin, which is known by its moment if the server knows that it stored the line, or from
nobody in the network. -/
inductive ComesFrom (players : List PlayerRow) (inputs : List (NetworkInput count))
    (receiver : Fin count) (item : InboundMessage) : Option Nat → Prop
  | stored (source : Fin count) (moment : Nat) (msg : OutboundMessage)
      (typed : Carries servers players inputs source moment msg)
      (line : IsLineOf servers source receiver msg item) :
      ComesFrom players inputs receiver item (some moment)
  | unreported (source : Fin count) (moment later : Nat) (msg : OutboundMessage)
      (typed : Carries servers players inputs source moment msg)
      (inserted : UnreportedInsert servers players inputs later source msg)
      (line : IsLineOf servers source receiver msg item) :
      ComesFrom players inputs receiver item none
  | outside (row : Row) (written : WrittenOutside inputs row)
      (foreign : row.origin ≠ some (servers receiver).config.serverOrigin)
      (read : DecodedFrom row item) : ComesFrom players inputs receiver item none

section Attempts

variable {servers} {players : List PlayerRow} {inputs : List (NetworkInput count)}
  {receiver : Fin count}

def storedIds (network : RelayNetwork count) (source : Fin count) : List Nat :=
  (storedMessages (network.world source).worker.journal).map fun entry => entry.2.id

theorem mem_storedMessages {journal : List WorkerEvent} {msg : OutboundMessage} {row : Row}
    (stored : .inserted msg row ∈ journal) : (msg, row) ∈ storedMessages journal :=
  List.mem_filterMap.mpr ⟨_, stored, rfl⟩

theorem nodup_pushedRows :
    ((workerRows ((run servers players inputs).world receiver).worker.journal).map (·.id)).Nodup := by
  rw [map_id_workerRows (readsRows_run servers players inputs receiver).decoded]
  exact (cursorInvariant servers players inputs receiver).increasing.imp Nat.ne_of_lt

theorem pushed_of_attempt {attempt : InboundMessage × Bool}
    (tried : attempt ∈ attempts (run servers players inputs) receiver) :
    ∃ row, .inboundPushed row attempt.1 ∈
      ((run servers players inputs).world receiver).worker.journal := by
  rcases drainFollows_run servers players inputs receiver with ⟨steps, follows⟩
  exact mem_workerRows.mp ((DrainWorld.attempts_of_follows follows nodup_pushedRows).1 _ tried)

theorem mem_attempts_of_completed {item : InboundMessage}
    (completed : item ∈ completedRows (run servers players inputs) receiver) :
    (item, true) ∈ attempts (run servers players inputs) receiver := by
  rw [completedRows, broadcastRows_eq, List.mem_map] at completed
  rcases completed with ⟨⟨item, sent⟩, member, rfl⟩
  rcases List.mem_filter.mp member with ⟨tried, rfl⟩
  exact tried

theorem pairwise_attempts :
    (attempts (run servers players inputs) receiver).Pairwise fun earlier later =>
      earlier.1.id = later.1.id → earlier.1 = later.1 ∧ earlier.2 = false := by
  rcases drainFollows_run servers players inputs receiver with ⟨steps, follows⟩
  have distinct := @nodup_pushedRows _ servers players inputs receiver
  rcases DrainWorld.attempts_of_follows follows distinct with ⟨pushed, notAgain⟩
  refine notAgain.imp_of_mem fun {earlier later} first second failed same => ⟨?_, failed same⟩
  exact List.inj_on_of_nodup_map distinct (pushed _ first) (pushed _ second) same

theorem Carries.call {source : Fin count} {moment : Nat} {msg : OutboundMessage}
    (carries : Carries servers players inputs source moment msg) :
    ∃ call, inputs[moment]? = some call ∧ call.server = source := by
  rcases carries with ⟨context, name, typed, -⟩
  rcases typed.call with ⟨fate, call⟩
  exact ⟨_, call, rfl⟩

theorem isLineOf {source : Fin count} {msg : OutboundMessage} {row : Row} {item : InboundMessage}
    (written : row = { DbWorker.outboundRow (servers source).config msg with id := row.id })
    (foreign : row.origin ≠ some (servers receiver).config.serverOrigin)
    (read : DecodedFrom row item) (id : item.id = row.id) :
    IsLineOf servers source receiver msg item := by
  rw [written, ← id] at read
  rw [written] at foreign
  exact ⟨fun same => foreign (congrArg some same), read, read.sameFields⟩

/-- The origin of a row, with the moments that `typedAt` gives the stored ones. -/
theorem comesFrom_of_attempt {typedAt : Fin count → Nat → Nat}
    (typed : ∀ source, ∀ entry ∈ storedMessages
        ((run servers players inputs).world source).worker.journal,
      Carries servers players inputs source (typedAt source entry.2.id) entry.1)
    {attempt : InboundMessage × Bool}
    (tried : attempt ∈ attempts (run servers players inputs) receiver) :
    ∃ origin, ComesFrom servers players inputs receiver attempt.1 origin ∧
      ∀ moment ∈ origin, ∃ source,
        attempt.1.id ∈ storedIds (run servers players inputs) source ∧
          moment = typedAt source attempt.1.id := by
  rcases pushed_of_attempt tried with ⟨row, pushed⟩
  have cursor := cursorInvariant servers players inputs receiver
  have read := (readsRows_run servers players inputs receiver).decoded row attempt.1 pushed
  have id : attempt.1.id = row.id := by
    rcases read with ⟨buffers, beyond, -, decoded⟩
    rw [decoded]
    rfl
  have foreign := cursor.foreign row attempt.1 pushed
  have present := List.mem_append_left (run servers players inputs).shared.inFlight
    (cursor.stored row attempt.1 pushed)
  cases hasWriter_run servers players inputs row present with
  | stored source msg noted =>
      have entry := mem_storedMessages noted
      have row_eq := ((soundWorld_run servers players inputs source).thread.inserted _ _ noted).2
      refine ⟨_, .stored source (typedAt source row.id) msg (typed source _ entry)
        (isLineOf row_eq foreign read id), ?_⟩
      intro moment given
      cases given
      rw [id]
      exact ⟨source, List.mem_map_of_mem (f := fun entry => entry.2.id) entry, rfl⟩
  | unreported source moment msg inserted same =>
      rcases carries_of_unreported servers inserted with ⟨earlier, carries⟩
      exact ⟨none, .unreported source earlier moment msg carries inserted
        (isLineOf same foreign read id), nofun⟩
  | outside written => exact ⟨none, .outside row written foreign read, nofun⟩

/-- A moment belongs to one server. -/
theorem source_unique {typedAt : Fin count → Nat → Nat}
    (typed : ∀ source, ∀ entry ∈ storedMessages
        ((run servers players inputs).world source).worker.journal,
      Carries servers players inputs source (typedAt source entry.2.id) entry.1)
    {first second : Fin count} {firstId secondId : Nat}
    (firstStored : firstId ∈ storedIds (run servers players inputs) first)
    (secondStored : secondId ∈ storedIds (run servers players inputs) second)
    (same : typedAt first firstId = typedAt second secondId) : first = second := by
  rcases List.mem_map.mp firstStored with ⟨firstEntry, firstMember, rfl⟩
  rcases List.mem_map.mp secondStored with ⟨secondEntry, secondMember, rfl⟩
  rcases (typed first firstEntry firstMember).call with ⟨call, taken, rfl⟩
  rcases (typed second secondEntry secondMember).call with ⟨other, otherTaken, rfl⟩
  rw [same, otherTaken] at taken
  rw [Option.some.inj taken]

variable (servers players inputs)

/-- Whatever the servers try to broadcast has an origin, and what stems from one call is one
row. -/
theorem origins_of_attempts :
    ∃ origin : Fin count → InboundMessage → Option Nat,
      (∀ receiver, ∀ attempt ∈ attempts (run servers players inputs) receiver,
        ComesFrom servers players inputs receiver attempt.1 (origin receiver attempt.1)) ∧
      ∀ first, ∀ early ∈ attempts (run servers players inputs) first,
        ∀ second, ∀ late ∈ attempts (run servers players inputs) second,
          ∀ moment ∈ origin first early.1, moment ∈ origin second late.1 →
            early.1.id = late.1.id := by
  choose typedAt injective typed using stored_typed servers players inputs
  have found : ∀ receiver item, ∃ origin, ∀ sent,
      (item, sent) ∈ attempts (run servers players inputs) receiver →
      ComesFrom servers players inputs receiver item origin ∧
        ∀ moment ∈ origin, ∃ source,
          item.id ∈ storedIds (run servers players inputs) source ∧
            moment = typedAt source item.id := by
    intro receiver item
    by_cases tried : ∃ sent, (item, sent) ∈ attempts (run servers players inputs) receiver
    · rcases tried with ⟨sent, member⟩
      rcases comesFrom_of_attempt typed member with ⟨origin, spec⟩
      exact ⟨origin, fun _ _ => spec⟩
    · exact ⟨none, fun sent member => absurd ⟨sent, member⟩ tried⟩
  choose origin spec using found
  refine ⟨origin, fun receiver attempt member => (spec receiver attempt.1 attempt.2 member).1, ?_⟩
  intro first early firstTried second late secondTried moment atFirst atSecond
  rcases (spec first early.1 early.2 firstTried).2 moment atFirst with
    ⟨source, firstStored, rfl⟩
  rcases (spec second late.1 late.2 secondTried).2 _ atSecond with
    ⟨otherSource, secondStored, same⟩
  rcases source_unique typed firstStored secondStored same with rfl
  exact injective source firstStored secondStored same

end Attempts

/-- In every run of the network each row a server tries to broadcast is the line of a call of
the hook of another server, or was written by somebody else. A row whose broadcast was
completed is not broadcast again, and two rows are the line of one call only if the server of
the call was not told that it had stored one of them. -/
theorem broadcasts_traceable (players : List PlayerRow) (inputs : List (NetworkInput count))
    (receiver : Fin count) :
    let tried := attempts (run servers players inputs) receiver
    (tried.Pairwise fun earlier later =>
      earlier.1.id = later.1.id → earlier.1 = later.1 ∧ earlier.2 = false) ∧
      ∃ origin : InboundMessage → Option Nat,
        (∀ attempt ∈ tried, ComesFrom servers players inputs receiver attempt.1
          (origin attempt.1)) ∧
        ∀ first ∈ tried, ∀ second ∈ tried, ∀ moment ∈ origin first.1,
          moment ∈ origin second.1 → first.1.id = second.1.id := by
  intro tried
  rcases origins_of_attempts servers players inputs with ⟨origin, comes, apart⟩
  exact ⟨pairwise_attempts, origin receiver, comes receiver,
    fun first early second late => apart receiver first early receiver second late⟩

end RelayNetwork

end PalCrosschat
