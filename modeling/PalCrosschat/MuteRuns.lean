import PalCrosschat.MuteSteps

/-! # Who is muted

The mute table knows a player by a key that depends on what could be read at each line.
Here every hook call comes with the player who really typed the line, and the mutes of
the table are compared with the mutes of the players. -/

namespace PalCrosschat

open Bytes (ascii)

/-- An input, and who typed the line when it is a hook call. -/
structure PlayerInput (Player : Type) where
  player : Player
  input : WorldInput

section Runs

variable {Player : Type} (engine : Engine) (config : Config) (initial : World)

def World.playerStep (world : World) (item : PlayerInput Player) : World :=
  world.step engine config item.input

abbrev World.playerRun (inputs : List (PlayerInput Player)) : World :=
  Execution.run (World.playerStep engine config) initial inputs

def muteLine (world : World) (item : PlayerInput Player) :
    Option (TimedLock.Attempt (Player × Bytes) Nanoseconds) :=
  (item.input.hookCall.filter (HookContext.checked engine.codec)).map fun context =>
    world.mod.muteAttempt engine context (item.player, context.muteKey)

def muteLines (inputs : List (PlayerInput Player)) :
    List (TimedLock.Attempt (Player × Bytes) Nanoseconds) :=
  ((Execution.trace (World.playerStep engine config) (muteLine engine) initial
    inputs).filterMap id).reverse

/-- The next line of the run comes to the mute check under the key of a running mute
exactly when it is a line of the muted player, and the mute that it starts has an end. -/
def ToldApart (past : List (PlayerInput Player)) (item : PlayerInput Player) : Prop :=
  ∀ context, item.input.hookCall = some context →
    tryParseSetDiscord (context.line engine.codec) = none →
    let mod := (initial.playerRun engine config past).mod
    (∀ holder, TimedLock.Holds Prod.fst (muteLines engine config initial past) holder
        (mod.reading engine 0) →
      (context.line engine.codec ≠ [] ∧ holder.key.2 = context.muteKey ↔
        holder.key.1 = item.player)) ∧
    mod.LockFits engine context

structure MuteInvariant (history : List (TimedLock.Attempt (Player × Bytes) Nanoseconds))
    (mod : Mod) : Prop where
  tracks : TimedLock.Tracks (history.map (.rename Prod.snd)) mod.filter.deadlines
    (mod.reading engine 0)
  alike : TimedLock.Alike Prod.snd Prod.fst history
  inactive : mod.filter.active = false → ∀ key, mod.filter.mutes key = none

end Runs

section Invariant

variable {Player : Type} {engine : Engine} {config : Config} {initial : World}

theorem muteLines_snoc (past : List (PlayerInput Player)) (item : PlayerInput Player) :
    muteLines engine config initial (past ++ [item]) =
      (muteLine engine (initial.playerRun engine config past) item).toList ++
        muteLines engine config initial past := by
  unfold muteLines
  rw [Execution.trace_snoc, List.filterMap_append, List.reverse_append]
  cases muteLine engine (initial.playerRun engine config past) item <;> rfl

theorem muteLine_of_checked {world : World} {item : PlayerInput Player}
    {context : HookContext} (call : item.input.hookCall = some context)
    (checked : context.checked engine.codec = true) :
    muteLine engine world item =
      some (world.mod.muteAttempt engine context (item.player, context.muteKey)) := by
  simp [muteLine, call, checked]

theorem muteLine_of_unchecked {world : World} {item : PlayerInput Player}
    (unchecked : ∀ context, item.input.hookCall = some context →
      context.checked engine.codec = false) : muteLine engine world item = none := by
  unfold muteLine
  cases call : item.input.hookCall with
  | none => rfl
  | some context => simp [unchecked context call]

theorem MuteInvariant.elapse {history : List (TimedLock.Attempt (Player × Bytes) Nanoseconds)}
    {mod after : Mod} (clock : engine.SteadyClock) (invariant : MuteInvariant engine history mod)
    (elapses : Mod.Elapses mod after) : MuteInvariant engine history after where
  tracks := by
    rw [elapses.filter]
    exact invariant.tracks.mono (clock.monotone elapses.moment)
  alike := invariant.alike
  inactive := by
    rw [elapses.filter]
    exact invariant.inactive

/-- A line that comes to the mute check. -/
theorem MuteInvariant.check {history : List (TimedLock.Attempt (Player × Bytes) Nanoseconds)}
    {mod : Mod} {context : HookContext} {player : Player} (clock : engine.SteadyClock)
    (invariant : MuteInvariant engine history mod)
    (checked : context.checked engine.codec = true) (fits : mod.LockFits engine context)
    (told : ∀ holder, TimedLock.Holds Prod.fst history holder (mod.reading engine 0) →
      (holder.key.2 = context.muteKey ↔ holder.key.1 = player)) :
    MuteInvariant engine (mod.muteAttempt engine context (player, context.muteKey) :: history)
      (mod.handleHook engine config context).1 where
  tracks := invariant.tracks.step (Mod.handleHook_settles clock checked fits) (Int.le_refl _)
    (Mod.reading_handleHook clock)
  alike := ⟨told, invariant.alike⟩
  inactive := by
    rw [(Mod.handleHook_filter engine config mod context).1, WordFilter.setMute_active]
    intro inactive key
    rw [Mod.muteAfter_of_inactive inactive, WordFilter.setMute_mutes]
    exact invariant.inactive inactive key

/-- The mute check, by the lines of the run. -/
theorem MuteInvariant.muted_iff
    {history : List (TimedLock.Attempt (Player × Bytes) Nanoseconds)} {mod : Mod}
    {context : HookContext} (invariant : MuteInvariant engine history mod)
    (checked : context.checked engine.codec = true) :
    mod.hookBranch engine config context = .muted ↔
      TimedLock.Locked (history.map (.rename Prod.snd)) context.muteKey
        (mod.reading engine 0) := by
  rw [Mod.hookBranch_eq_muted_iff checked, ← invariant.tracks _ _ (Int.le_refl _)]
  constructor
  · exact fun muted => muted.2
  · intro inForce
    refine ⟨?_, inForce⟩
    by_contra inactive
    have noMutes := invariant.inactive (by simpa using inactive) context.muteKey
    rcases inForce with ⟨ends, held, -⟩
    rw [WordFilter.deadlines, noMutes] at held
    cases held

/-- The invariant of a run whose lines tell the players apart. -/
theorem muteInvariant_run (clock : engine.SteadyClock)
    (fresh : ∀ key, initial.mod.filter.mutes key = none) (past : List (PlayerInput Player))
    (told : ∀ earlier next, earlier ++ [next] <+: past →
      ToldApart engine config initial earlier next) :
    MuteInvariant engine (muteLines engine config initial past)
      (initial.playerRun engine config past).mod := by
  induction past using List.reverseRecOn with
  | nil =>
      have empty : initial.mod.filter.deadlines = fun _ => none := by
        funext key
        simp [WordFilter.deadlines, fresh]
      refine ⟨?_, trivial, fun _ => fresh⟩
      change TimedLock.Tracks [] initial.mod.filter.deadlines _
      rw [empty]
      exact .initial _
  | append_singleton past item induction =>
      have invariant := induction fun earlier next before =>
        told earlier next (before.trans (List.prefix_append _ _))
      have toldNow := told past item (List.prefix_refl _)
      have run : initial.playerRun engine config (past ++ [item]) =
          (initial.playerRun engine config past).playerStep engine config item :=
        Execution.run_snoc past item
      rw [muteLines_snoc, run]
      cases call : item.input.hookCall with
      | none =>
          rw [muteLine_of_unchecked (by simp [call])]
          exact invariant.elapse clock (World.step_elapses call)
      | some context =>
          rw [World.playerStep, World.step_hook call]
          cases checked : context.checked engine.codec with
          | true =>
              rcases Mod.checked_iff.mp checked with ⟨nonempty, noCode⟩
              rcases toldNow context call noCode with ⟨apart, fits⟩
              rw [muteLine_of_checked call checked]
              apply invariant.check clock checked fits
              intro holder holds
              rw [← apart holder holds]
              simp [nonempty]
          | false =>
              rw [muteLine_of_unchecked (by simp [call, checked])]
              have kept : Mod.Elapses (initial.playerRun engine config past).mod
                  ((initial.playerRun engine config past).mod.handleHook engine config
                    context).1 :=
                ⟨(Mod.handleHook_of_unchecked checked).1,
                  Nat.le_of_eq (Mod.handleHook_of_unchecked checked).2.symm⟩
              exact invariant.elapse clock kept

end Invariant

/-- In a run whose lines tell the players apart, a line is suppressed exactly when an
earlier line of its player started a mute that has not ended. -/
theorem mutes_hit_player {Player : Type} (engine : Engine) (clock : engine.SteadyClock)
    (config : Config) (compile : RegexCompiler) (startedAt : Nanoseconds)
    (players : List PlayerRow) (past : List (PlayerInput Player)) (item : PlayerInput Player)
    (context : HookContext) (call : item.input.hookCall = some context)
    (noCode : tryParseSetDiscord (context.line engine.codec) = none)
    (told : ∀ earlier next, earlier ++ [next] <+: past ++ [item] →
      ToldApart engine config (.initial compile config startedAt players) earlier next) :
    let initial : World := .initial compile config startedAt players
    let mod := (initial.playerRun engine config past).mod
    mod.hookBranch engine config context = .muted ↔
      TimedLock.Locked ((muteLines engine config initial past).map (.rename Prod.fst))
        item.player (mod.reading engine 0) := by
  intro initial mod
  have invariant : MuteInvariant engine (muteLines engine config initial past) mod :=
    muteInvariant_run clock (fun _ => rfl) past fun earlier next before =>
      told earlier next (before.trans (List.prefix_append _ _))
  rcases told past item (List.prefix_refl _) context call noCode with ⟨apart, -⟩
  by_cases empty : context.line engine.codec = []
  · have branch : mod.hookBranch engine config context = .empty := by
      simp [Mod.hookBranch, empty]
    rw [branch, TimedLock.locked_iff_holds]
    constructor
    · exact fun impossible => absurd impossible (by decide)
    · intro given
      rcases given with ⟨holder, holds, same⟩
      exact absurd empty ((apart holder holds).mpr same).1
  · have checked : context.checked engine.codec = true := Mod.checked_iff.mpr ⟨empty, noCode⟩
    let attempt := mod.muteAttempt engine context (item.player, context.muteKey)
    have alike : TimedLock.Alike Prod.snd Prod.fst
        (attempt :: muteLines engine config initial past) := by
      refine ⟨?_, invariant.alike⟩
      intro holder holds
      change holder.key.2 = context.muteKey ↔ holder.key.1 = item.player
      rw [← apart holder holds]
      simp [empty]
    rw [invariant.muted_iff checked]
    exact TimedLock.locked_rename alike

/-- A server that mutes players for the word `spam`. -/
def mutingConfig : Config :=
  { plainConfig with filterPatterns := [{ pattern := ascii "spam" }] }

def typedBy (uid : UInt32) (text : Bytes) : HookContext :=
  { typed text with playerState := some { object := 0, playerUId := some ⟨uid, 0, 0, 0⟩ } }

/-- One player is muted, and another one chats. -/
theorem mutes_hit_player_twoPlayers :
    let past : List (PlayerInput Nat) := [⟨1, .hook (typedBy 1 (ascii "spam"))⟩]
    let context := typedBy 2 (ascii "hello")
    let initial : World := .initial literalRegex mutingConfig 0 []
    let mod := (initial.playerRun quietEngine mutingConfig past).mod
    mod.hookBranch quietEngine mutingConfig context = .muted ↔
      TimedLock.Locked
        ((muteLines quietEngine mutingConfig initial past).map (.rename Prod.fst)) 2
        (mod.reading quietEngine 0) := by
  intro past context
  apply mutes_hit_player quietEngine quietEngine_steadyClock mutingConfig literalRegex 0 [] past
    ⟨2, .hook context⟩ context rfl (by decide +kernel)
  intro earlier next before
  rcases List.prefix_concat_iff.mp before with whole | first
  · rcases List.append_inj' whole rfl with ⟨rfl, equal⟩
    cases equal
    intro other call noCode
    cases call
    refine ⟨fun holder holds => ?_, by decide +kernel⟩
    have apart : ∀ holder ∈ muteLines quietEngine mutingConfig
        (.initial literalRegex mutingConfig 0 []) past,
        (context.line quietEngine.codec ≠ [] ∧ holder.key.2 = context.muteKey ↔
          holder.key.1 = 2) := by
      decide +kernel
    exact apart holder holds.mem
  · have alone : earlier ++ [next] <+: [] ++ past := first
    rcases List.prefix_concat_iff.mp alone with whole | none
    · rcases List.append_inj' whole rfl with ⟨rfl, equal⟩
      cases equal
      intro other call noCode
      cases call
      exact ⟨fun holder holds => absurd holds.mem List.not_mem_nil, by decide +kernel⟩
    · exact absurd (List.prefix_nil.mp none) (by simp)

/-- Without a readable uid or name, both players are "Unknown" to the mute table. -/
theorem silenced_by_stranger :
    let past : List (PlayerInput Nat) := [⟨1, .hook (typed (ascii "spam"))⟩]
    let context := typed (ascii "hello")
    let initial : World := .initial literalRegex mutingConfig 0 []
    let mod := (initial.playerRun quietEngine mutingConfig past).mod
    mod.hookBranch quietEngine mutingConfig context = .muted ∧
      ¬TimedLock.Locked
        ((muteLines quietEngine mutingConfig initial past).map (.rename Prod.fst)) 2
        (mod.reading quietEngine 0) := by
  refine ⟨by decide +kernel, fun locked => ?_⟩
  rcases TimedLock.locked_iff_holds.mp locked with ⟨holder, holds, same⟩
  have others : ∀ holder ∈ muteLines quietEngine mutingConfig
      (.initial literalRegex mutingConfig 0 [])
      [⟨1, .hook (typed (ascii "spam"))⟩], holder.key.1 ≠ 2 := by
    decide +kernel
  exact others holder holds.mem same

end PalCrosschat
