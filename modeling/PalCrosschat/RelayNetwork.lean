import PalCrosschat.Foundation.Interleaving
import PalCrosschat.InboundCursor

/-! # Servers around one `crosschat_messages`

Any number of servers run the mod on the same database. A step is a step of one
server; an action of a writer outside the network comes in as a `remote` input of
whichever server. What one server relies on has to survive the statements of the
others.

The statements of a server are not atomic here: its INSERT has its id before its row is
visible, so that the commits of two servers may cross, and a statement may take effect
although its reply is lost and the thread takes it for failed. -/

namespace PalCrosschat

/-- The process of a server, as it is started. -/
structure RelayServer where
  engine : Engine
  config : Config
  compile : RegexCompiler
  startedAt : Nanoseconds

/-- What becomes of the statement of a step, apart from what the step is told. -/
structure Fate where
  /-- The statement takes effect even if the step is told that it failed. -/
  replyLost : Bool := false
  /-- The row of an INSERT is in flight, and becomes visible when it is committed. -/
  delayed : Bool := false
deriving DecidableEq, Repr

/-! ## The tables after a step -/

/-- The rows that are new in `after` are still in flight. -/
def Database.postpone (before after : Database) : Database :=
  { after with
    messages := before.messages
    inFlight := after.inFlight ++ after.messages.drop before.messages.length }

def WorkerInput.succeeding (input : WorkerInput) : WorkerInput :=
  { input with ok := true, link := .none }

/-- The tables after a step of the thread, as the other servers find them. -/
def DbWorker.tables (config : Config) (state : DbState) (input : WorkerInput) (fate : Fate) :
    Database :=
  let after := (step config state (if fate.replyLost then input.succeeding else input)).database
  if fate.delayed then state.database.postpone after else after

def World.stepUnder (engine : Engine) (config : Config) (world : World) (fate : Fate) :
    WorldInput → World
  | .worker input =>
      { world.step engine config (.worker input) with
        database := DbWorker.tables config world.dbState input fate }
  | input => world.step engine config input

abbrev RelayNetwork (count : Nat) := Interleaving count World Database

/-- An input of one of the servers, with what becomes of its statement. -/
structure NetworkInput (count : Nat) where
  server : Fin count
  input : WorldInput
  fate : Fate := {}

abbrev NetworkInput.plain {count : Nat} (server : Fin count) (input : WorldInput) :
    NetworkInput count :=
  { server, input }

namespace RelayNetwork

variable {count : Nat} (servers : Fin count → RelayServer)

def initial (players : List PlayerRow) : RelayNetwork count where
  parties server := .initial (servers server).compile (servers server).config
    (servers server).startedAt players
  shared := { players }

def world (network : RelayNetwork count) (server : Fin count) : World :=
  { network.parties server with database := network.shared }

def stepped (network : RelayNetwork count) (input : NetworkInput count) : World :=
  (network.world input.server).stepUnder (servers input.server).engine
    (servers input.server).config input.fate input.input

def step (network : RelayNetwork count) (input : NetworkInput count) : RelayNetwork count :=
  network.act input.server
    (stepped servers network input, (stepped servers network input).database)

abbrev run (players : List PlayerRow) (inputs : List (NetworkInput count)) :
    RelayNetwork count :=
  Execution.run (step servers) (initial servers players) inputs

section World

variable {servers} {network : RelayNetwork count} {input : NetworkInput count}

theorem run_snoc {players : List PlayerRow} {past : List (NetworkInput count)} :
    run servers players (past ++ [input]) = step servers (run servers players past) input :=
  Execution.run_snoc past input

theorem world_step_self :
    (step servers network input).world input.server = stepped servers network input := by
  rw [world, step, Interleaving.act_self]
  rfl

theorem world_step_other {server : Fin count} (apart : server ≠ input.server) :
    (step servers network input).world server =
      { network.world server with database := (stepped servers network input).database } := by
  rw [world, step, Interleaving.act_other apart]
  rfl

/-- The process itself takes the step as if it were alone. -/
theorem stepped_eq :
    stepped servers network input =
      { (network.world input.server).step (servers input.server).engine
          (servers input.server).config input.input with
        database := (stepped servers network input).database } := by
  rcases input with ⟨server, input, fate⟩
  cases input <;> rfl

end World

/-! ## The rule of the network -/

/-- What holds of each server at first, is kept by its own steps and does not mind
those of the others, holds of each server after every run. -/
theorem run_each (players : List PlayerRow)
    (Holds : List (NetworkInput count) → Fin count → World → Prop)
    (initially : ∀ server, Holds [] server ((initial servers players).world server))
    (own : ∀ past input,
      (∀ other, Holds past other ((run servers players past).world other)) →
      Holds (past ++ [input]) input.server (stepped servers (run servers players past) input))
    (stable : ∀ past input other, other ≠ input.server →
      (∀ other, Holds past other ((run servers players past).world other)) →
      Holds (past ++ [input]) other
        { (run servers players past).world other with
          database := (stepped servers (run servers players past) input).database })
    (inputs : List (NetworkInput count)) (server : Fin count) :
    Holds inputs server ((run servers players inputs).world server) := by
  refine Execution.run_history_invariant
    (fun inputs network => ∀ server, Holds inputs server (world network server)) initially
    (fun past input holds other => ?_) inputs server
  by_cases same : other = input.server
  · rw [same, world_step_self]
    exact own past input holds
  · rw [world_step_other same]
    exact stable past input other same holds

end RelayNetwork

/-! ## What a server does to the tables -/

structure Database.Grows (before after : Database) : Prop where
  wellFormed : before.WellFormed → after.WellFormed
  messages : before.messages.IsPrefix after.messages
  nextId : before.nextId ≤ after.nextId

/-- What a server with this origin has seen of the tables is still there. -/
structure Database.Shares (origin : Bytes) (before after : Database) : Prop where
  wellFormed : before.WellFormed → after.WellFormed
  foreign : ∀ row ∈ before.messages, row.origin ≠ some origin → row ∈ after.messages
  nextId : before.nextId ≤ after.nextId

namespace Database.Grows

variable {before after : Database}

theorem refl (database : Database) : database.Grows database :=
  ⟨id, List.prefix_refl _, Nat.le_refl _⟩

theorem of_same (messages : after.messages = before.messages)
    (inFlight : after.inFlight = before.inFlight) (nextId : after.nextId = before.nextId) :
    before.Grows after where
  wellFormed wellFormed := by
    constructor
    · rw [messages, inFlight, nextId]
      exact wellFormed.fresh
    · rw [messages, inFlight]
      exact wellFormed.unique
  messages := messages ▸ List.prefix_refl _
  nextId := nextId.ge

theorem insert (database : Database) (row : Row) : database.Grows (database.insert row) :=
  ⟨fun wellFormed => wellFormed.insert row, List.prefix_append _ _, Nat.le_succ _⟩

theorem remote (database : Database) (action : RemoteAction) :
    database.Grows (database.remote action) where
  wellFormed wellFormed := wellFormed.remote action
  messages := messages_prefix_remote action
  nextId := by
    cases action with
    | begin row => exact Nat.le_succ _
    | commit id => exact Nat.le_refl _
    | rollback id => exact Nat.le_refl _

theorem shares (grows : before.Grows after) (origin : Bytes) : before.Shares origin after :=
  ⟨grows.wellFormed, fun _ member _ => grows.messages.subset member, grows.nextId⟩

theorem postpone_perm (grows : before.Grows after) :
    ((before.postpone after).messages ++ (before.postpone after).inFlight).Perm
      (after.messages ++ after.inFlight) := by
  rcases grows.messages with ⟨added, messages⟩
  rw [postpone, ← messages, List.drop_left, List.append_assoc]
  exact List.perm_append_comm.append_left _

theorem postpone_wellFormed (grows : before.Grows after) (wellFormed : after.WellFormed) :
    (before.postpone after).WellFormed :=
  wellFormed.shrink rfl grows.postpone_perm.subperm

theorem postpone (grows : before.Grows after) : before.Grows (before.postpone after) where
  wellFormed wellFormed := grows.postpone_wellFormed (grows.wellFormed wellFormed)
  messages := List.prefix_rfl
  nextId := grows.nextId

end Database.Grows

namespace Database.Shares

variable {origin : Bytes} {before after later : Database}

theorem refl (database : Database) : database.Shares origin database :=
  (Grows.refl database).shares origin

theorem trans (left : before.Shares origin after) (right : after.Shares origin later) :
    before.Shares origin later where
  wellFormed wellFormed := right.wellFormed (left.wellFormed wellFormed)
  foreign row member apart := right.foreign row (left.foreign row member apart) apart
  nextId := left.nextId.trans right.nextId

theorem postpone (grows : before.Grows after)
    (own : ∀ row ∈ after.messages, row ∈ before.messages ∨ row.origin = some origin) :
    after.Shares origin (before.postpone after) where
  wellFormed := grows.postpone_wellFormed
  foreign row member apart := (own row member).resolve_right apart
  nextId := Nat.le_refl _

end Database.Shares

namespace DbWorker

theorem Move.grows {config : Config} {state after : DbState}
    (moved : Move config state after) : state.database.Grows after.database := by
  cases moved with
  | quiet quiet => exact .of_same quiet.messages quiet.inFlight quiet.nextId
  | readMaxId control => exact .refl _
  | armCursor maxId control => exact .of_same rfl rfl rfl
  | pop item control popped => exact .refl _
  | store item control => exact .insert _ _
  | requeue item control => exact .refl _
  | select now control => exact .refl _
  | fetch batch row rest beyond control rows => exact .refl _
  | advance id batch control => exact .of_same rfl rfl rfl

theorem Move.own_row {config : Config} {state after : DbState} (moved : Move config state after)
    {row : Row} (member : row ∈ after.database.messages) :
    row ∈ state.database.messages ∨ row.origin = some config.serverOrigin := by
  cases moved with
  | quiet quiet => exact .inl (by rwa [quiet.messages] at member)
  | store item control =>
      refine (List.mem_append.mp member).imp_right fun new => ?_
      rw [List.mem_singleton.mp new]
      rfl
  | _ => exact .inl member

section Tables

variable (config : Config) (state : DbState) (input : WorkerInput)

theorem database_linkComplete (job : LinkJob) :
    (linkComplete state job input.link).database = state.database ∨
      (linkComplete state job input.link).database =
        (linkComplete state job .none).database := by
  by_cases fault : input.link = .none
  · exact .inr (by rw [fault])
  · left
    rw [linkComplete, if_pos fault]
    rfl

theorem database_step :
    (step config state input).database = state.database ∨
      (step config state input).database = (step config state input.succeeding).database := by
  cases control : state.worker.control with
  | linkConflict job =>
      left
      simp only [step, control, linkConflict]
      repeat' split
      all_goals rfl
  | linkLookup job =>
      left
      simp only [step, control, linkLookup]
      repeat' split
      all_goals rfl
  | linkComplete job =>
      simp only [step, control]
      exact database_linkComplete state input job
  | upsertCursor maxId =>
      simp only [step, control]
      split
      · exact .inr rfl
      · exact .inl rfl
  | inserting item =>
      simp only [step, control]
      split
      · exact .inr rfl
      · exact .inl rfl
  | updatingCursor id batch =>
      simp only [step, control]
      split
      · exact .inr rfl
      · exact .inl rfl
  | readMaxId =>
      left
      simp only [step, control]
      split <;> rfl
  | selecting now =>
      left
      simp only [step, control]
      split <;> rfl
  | fetching batch =>
      left
      simp only [step, control]
      split
      · split <;> rfl
      · rfl
  | stopped =>
      left
      simp only [step, control]
  | _ =>
      right
      simp only [step, control]
      rfl

theorem grows_tables (fate : Fate) : state.database.Grows (tables config state input fate) := by
  have grows := (step_move config state
    (if fate.replyLost then input.succeeding else input)).grows
  unfold tables
  dsimp only
  split
  · exact grows.postpone
  · exact grows

theorem own_row_tables (fate : Fate) {row : Row}
    (member : row ∈ (tables config state input fate).messages) :
    row ∈ state.database.messages ∨ row.origin = some config.serverOrigin := by
  unfold tables at member
  dsimp only at member
  split at member
  · exact .inl member
  · exact (step_move config state _).own_row member

theorem shares_tables (fate : Fate) :
    (step config state input).database.Shares config.serverOrigin
      (tables config state input fate) := by
  let effective := if fate.replyLost then input.succeeding else input
  have moved := step_move config state effective
  have reached : (step config state input).database.Grows
      (step config state effective).database := by
    cases lost : fate.replyLost with
    | false =>
        simp only [effective, lost, Bool.false_eq_true, if_false]
        exact .refl _
    | true =>
        simp only [effective, lost, if_true] at moved ⊢
        rcases database_step config state input with unchanged | same
        · rw [unchanged]
          exact moved.grows
        · rw [same]
          exact .refl _
  refine (reached.shares _).trans ?_
  change Database.Shares _ _ (if fate.delayed then _ else _)
  split
  · exact .postpone moved.grows fun _ member => moved.own_row member
  · exact .refl _

end Tables

end DbWorker

namespace World

variable (engine : Engine) (config : Config) (world : World) (fate : Fate) (input : WorldInput)

theorem grows_step : world.database.Grows (world.step engine config input).database := by
  cases input with
  | worker input => exact (DbWorker.step_move config world.dbState input).grows
  | remote action => exact .remote world.database action
  | _ => exact .refl _

theorem grows_stepUnder :
    world.database.Grows (world.stepUnder engine config fate input).database := by
  cases input with
  | worker input => exact DbWorker.grows_tables config world.dbState input fate
  | _ => exact grows_step engine config world _

theorem shares_stepUnder : (world.step engine config input).database.Shares config.serverOrigin
    (world.stepUnder engine config fate input).database := by
  cases input with
  | worker input => exact DbWorker.shares_tables config world.dbState input fate
  | _ => exact .refl _

end World

namespace RelayNetwork

variable {count : Nat} (servers : Fin count → RelayServer)

theorem grows_stepped (network : RelayNetwork count) (input : NetworkInput count) :
    network.shared.Grows (stepped servers network input).database :=
  World.grows_stepUnder _ _ (network.world input.server) input.fate input.input

/-- The rule for what a server makes of its inputs, whatever becomes of its statements: it
may depend on the tables as far as the others leave them to the server. -/
theorem run_each_of_shares (players : List PlayerRow)
    (Holds : List (NetworkInput count) → Fin count → World → Prop)
    (initially : ∀ server, Holds [] server ((initial servers players).world server))
    (own : ∀ past input,
      (∀ other, Holds past other ((run servers players past).world other)) →
      Holds (past ++ [input]) input.server
        (((run servers players past).world input.server).step (servers input.server).engine
          (servers input.server).config input.input))
    (idle : ∀ past input other, other ≠ input.server →
      Holds past other ((run servers players past).world other) →
      Holds (past ++ [input]) other ((run servers players past).world other))
    (share : ∀ inputs server world database, Holds inputs server world →
      world.database.Shares (servers server).config.serverOrigin database →
      Holds inputs server { world with database })
    (inputs : List (NetworkInput count)) (server : Fin count) :
    Holds inputs server ((run servers players inputs).world server) := by
  refine run_each servers players Holds initially (fun past input holds => ?_)
    (fun past input other apart holds => ?_) inputs server
  · rw [stepped_eq]
    exact share _ _ _ _ (own past input holds) (World.shares_stepUnder _ _ _ _ _)
  · exact share _ _ _ _ (idle past input other apart (holds other))
      ((grows_stepped servers _ input).shares _)

end RelayNetwork

/-! ## The cursors of the network -/

namespace CursorInvariant

variable {config : Config}

theorem share {worker : Worker} {before after : Database}
    (invariant : CursorInvariant config worker before)
    (shares : before.Shares config.serverOrigin after) : CursorInvariant config worker after :=
  { invariant with
    wellFormed := shares.wellFormed invariant.wellFormed
    stored := fun row msg member =>
      shares.foreign row (invariant.stored row msg member) (invariant.foreign row msg member)
    rows := fun row member => by
      rcases invariant.rows row member with ⟨newer, visible, other⟩
      refine ⟨newer, shares.foreign row visible fun same => ?_, other⟩
      rw [Database.otherOrigin, same] at other
      simp at other }

theorem step {world : World} (engine : Engine)
    (invariant : CursorInvariant config world.worker world.database) (input : WorldInput) :
    CursorInvariant config (world.step engine config input).worker
      (world.step engine config input).database := by
  cases input with
  | worker input => exact invariant.move (DbWorker.step_move config world.dbState input)
  | remote action =>
      exact invariant.grow (invariant.wellFormed.remote action)
        (Database.messages_prefix_remote action).subset
  | _ => exact invariant

end CursorInvariant

namespace RelayNetwork

variable {count : Nat} (servers : Fin count → RelayServer)

theorem cursorInvariant (players : List PlayerRow) (inputs : List (NetworkInput count))
    (server : Fin count) :
    CursorInvariant (servers server).config ((run servers players inputs).world server).worker
      (run servers players inputs).shared := by
  refine run_each_of_shares servers players
    (fun _ server world => CursorInvariant (servers server).config world.worker world.database)
    ?_ ?_ ?_ ?_ inputs server
  · intro server
    exact cursorInvariant_run (servers server).engine (servers server).config
      (servers server).compile (servers server).startedAt players []
  · intro past input holds
    exact (holds input.server).step (servers input.server).engine input.input
  · exact fun _ _ _ _ holds => holds
  · exact fun _ _ _ _ holds shares => holds.share shares

end RelayNetwork

end PalCrosschat
