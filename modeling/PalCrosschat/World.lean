import PalCrosschat.ChatCapture
import PalCrosschat.DbWorker
import PalCrosschat.Foundation.Execution

/-! # The running mod

One server process with its shared database. A step is one callback of the game
thread, one step of the database thread, one action of another writer of the
database, or one pop of the webhook thread; the game thread's callbacks touch
the other threads only through locked queues, so each of them is one step. -/

namespace PalCrosschat

structure World where
  mod : Mod
  worker : Worker := {}
  database : Database := {}

inductive WorldInput
  /-- The pre-hook on `EnterChat_Receive`. -/
  | hook (context : HookContext)
  /-- `on_update`. -/
  | update
  /-- The join hook. -/
  | join (playerState : Option ObjectRef)
  | worker (input : WorkerInput)
  | remote (action : RemoteAction)
  | webhookPopped

/-- `std::regex` as the filter's constructor uses it. -/
abbrev RegexCompiler := Bytes → Option (Bytes → Option Bool)

/-- The compiler on patterns without special characters or letters whose case
varies: a search for the pattern's text. -/
def literalRegex : RegexCompiler := fun pattern =>
  some fun text => some (Bytes.find text pattern 0).isSome

def Mod.initial (compile : RegexCompiler) (config : Config) : Mod where
  filter := .ofConfig compile config

/-- The locals of `ThreadMain` before its main loop. The last poll counts as an
hour old. -/
def Worker.initial (startedAt : Nanoseconds) : Worker where
  lastPoll := startedAt - 3600 * nanosecondsPerSecond

namespace World

/-- A process that starts on an empty message table. What other writers stored
before is a run of remote actions. -/
def initial (compile : RegexCompiler) (config : Config) (startedAt : Nanoseconds)
    (players : List PlayerRow) : World where
  mod := .initial compile config
  worker := .initial startedAt
  database := { players }

def dbState (world : World) : DbState where
  outbound := world.mod.outbound
  inbound := world.mod.world.inbound
  linkJobs := world.mod.linkJobs
  linkResults := world.mod.linkResults
  worker := world.worker
  database := world.database

def setDbState (world : World) (state : DbState) : World where
  mod :=
    { world.mod with
      world := { world.mod.world with inbound := state.inbound }
      outbound := state.outbound
      linkJobs := state.linkJobs
      linkResults := state.linkResults }
  worker := state.worker
  database := state.database

variable (engine : Engine) (config : Config)

def step (world : World) : WorldInput → World
  | .hook context => { world with mod := (world.mod.handleHook engine config context).1 }
  | .update => { world with mod := world.mod.onUpdate engine config }
  | .join playerState =>
      { world with mod := world.mod.onRequestJoinPlayer engine playerState }
  | .worker input => world.setDbState (DbWorker.step config world.dbState input)
  | .remote action => { world with database := world.database.remote action }
  | .webhookPopped =>
      { world with mod := { world.mod with webhook := world.mod.webhook.tryPop.2 } }

abbrev run (initial : World) (inputs : List WorldInput) : World :=
  Execution.run (step engine config) initial inputs

end World

/-- An endless run of a fresh process. -/
structure EndlessRun where
  engine : Engine
  config : Config
  compile : RegexCompiler
  startedAt : Nanoseconds
  players : List PlayerRow
  inputs : Nat → WorldInput

def EndlessRun.world (run : EndlessRun) : Nat → World :=
  Execution.stateAt (World.step run.engine run.config)
    (.initial run.compile run.config run.startedAt run.players) run.inputs

end PalCrosschat
