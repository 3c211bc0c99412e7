import PalCrosschat.Identity
import PalCrosschat.WordFilter

/-! # The engine as an oracle

Everything the mod asks of Unreal, UE4SS and the clock on the game thread. The
code behind these calls is not part of the repository, so an `Engine` is an
arbitrary oracle: the answer to a call may depend on the number of calls made
before it (its moment), which makes every sequence of answers, of faults and of
clock readings one engine. -/

namespace PalCrosschat

/-- A `TCHAR` text: UTF-16 code units. -/
abbrev WideText := List UInt16

/-- An object slot. A weak pointer to it may die, the slot is not reused. -/
abbrev ObjectRef := Nat

/-- `RC::to_utf8_string` and `RC::ensure_str`. -/
structure TextCodec where
  toUtf8 : WideText → Bytes
  ensureStr : Bytes → WideText
  toUtf8_nil : toUtf8 [] = []

/-- What `FWeakObjectPtr::Get` does under structured exception handling. -/
inductive WeakAnswer
  | live
  | dead
  | faulted
deriving DecidableEq, Repr

/-- What `FindGameStateSeh` reports. -/
inductive FindAnswer
  | faulted
  | missing
  | found (object : ObjectRef)
deriving DecidableEq, Repr

/-- What calling `GetPlayerName` through `SafeProcessEvent` gives. -/
inductive PlayerNameAnswer
  | noFunction
  | faulted
  | noReturnValue
  | name (text : Bytes)
deriving DecidableEq, Repr

/-- The reflected properties of a `PalPlayerState` that the mod reads. A missing
text property reads as the empty text. -/
structure PlayerState where
  object : ObjectRef
  playerName : Bytes := []
  playerUId : Option Guid := none
  guildName : Bytes := []
  accountName : Bytes := []

/-- The two properties `TryReadJoinIdentity` reads. -/
structure JoinReading where
  playerUId : Option Guid := none
  accountName : Option Bytes := none

structure Engine where
  codec : TextCodec
  /-- `std::chrono::steady_clock::now()`. -/
  now : Nat → Nanoseconds
  weakGet : Nat → ObjectRef → WeakAnswer
  findGameState : Nat → FindAnswer
  /-- `CacheWeakSeh` ends without a fault and the cached pointer resolves. -/
  cacheWeak : Nat → Bool
  /-- Every lookup of `EnsureBroadcastFunction` succeeds. -/
  findBroadcastFunction : Nat → Bool
  findServerNoticeFunction : Nat → Bool
  findScreenLogFunction : Nat → ObjectRef → Bool
  /-- `SafeProcessEvent` returns without a fault. -/
  processEvent : Nat → Bool
  gameMalloc : Nat → Bool
  /-- `GetPlayerState(controller)` with the properties read through it. -/
  playerState : Nat → ObjectRef → Option PlayerState
  getPlayerName : Nat → ObjectRef → PlayerNameAnswer
  /-- `ResolveViaUniqueNetId`; `none` when it faults. -/
  uniqueNetId : Nat → ObjectRef → Option Bytes
  /-- The property reads of `TryReadJoinIdentity`; `none` when they fault. -/
  joinReading : Nat → ObjectRef → Option JoinReading
  /-- `FindAllOf(PalPlayerState)`; `none` when it faults. -/
  findAllPlayerStates : Nat → Option (List ObjectRef)

/-- A clock that is positive and never runs backwards. -/
structure Engine.SteadyClock (engine : Engine) : Prop where
  positive : ∀ moment, 0 < engine.now moment
  monotone : ∀ {earlier later}, earlier ≤ later →
    engine.now earlier ≤ engine.now later

/-- A codec for texts of ASCII characters, on which it agrees with UTF-8. -/
def asciiCodec : TextCodec where
  toUtf8 wide := wide.map UInt16.toUInt8
  ensureStr text := text.map UInt8.toUInt16
  toUtf8_nil := rfl

/-- A server on which every call succeeds and nobody is online. Its clock
advances by a second with each call. -/
def quietEngine : Engine where
  codec := asciiCodec
  now moment := (moment + 1) * nanosecondsPerSecond
  weakGet _ _ := .live
  findGameState _ := .found 0
  cacheWeak _ := true
  findBroadcastFunction _ := true
  findServerNoticeFunction _ := true
  findScreenLogFunction _ _ := true
  processEvent _ := true
  gameMalloc _ := true
  playerState _ _ := none
  getPlayerName _ _ := .noFunction
  uniqueNetId _ _ := some []
  joinReading _ _ := some {}
  findAllPlayerStates _ := some []

theorem quietEngine_steadyClock : quietEngine.SteadyClock where
  positive moment := by
    change (0 : Int) < ((moment : Int) + 1) * 1000000000
    omega
  monotone {earlier later} order := by
    change ((earlier : Int) + 1) * 1000000000 ≤ ((later : Int) + 1) * 1000000000
    omega

/-- `SafeWeakGet`: the object, and the pointer afterwards. A fault resets it. -/
def safeWeakGet (engine : Engine) (moment : Nat) (weak : Option ObjectRef) :
    Option ObjectRef × Option ObjectRef :=
  match weak with
  | none => (none, none)
  | some object =>
      match engine.weakGet moment object with
      | .live => (some object, weak)
      | .dead => (none, weak)
      | .faulted => (none, none)

theorem eq_of_safeWeakGet {engine : Engine} {moment : Nat} {weak : Option ObjectRef}
    {object : ObjectRef} (resolved : (safeWeakGet engine moment weak).1 = some object) :
    weak = some object := by
  unfold safeWeakGet at resolved
  cases weak with
  | none => cases resolved
  | some other =>
      dsimp only at resolved
      split at resolved
      · exact resolved
      · cases resolved
      · cases resolved

end PalCrosschat
