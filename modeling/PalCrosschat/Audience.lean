import Mathlib.Data.List.AList
import PalCrosschat.Engine

/-! # The online audience

`AudienceTracker`: who is online and who of them plays on Xbox. Players enter
through the join hook, the one-shot bootstrap and chat; they leave when their
`PlayerState` dies. Each operation runs under one lock on the game thread, so
the liveness of weak pointers is a function that is fixed during it. -/

namespace PalCrosschat

structure RosterEntry where
  uid : Guid := .nil
  platform : Bytes := []
  playerState : Option ObjectRef := none
  hasWeak : Bool := false
deriving DecidableEq, Repr

structure PendingJoin where
  playerState : Option ObjectRef
  frames : Nat := 0
deriving DecidableEq, Repr

structure AudienceTracker where
  /-- `m_roster`, keyed by the text of the player uid. -/
  roster : AList fun _ : Bytes => RosterEntry := ∅
  pendingJoins : List PendingJoin := []
  xbox : List Guid := []
  others : List Guid := []
  bootstrapped : Bool := false

def kJoinMaxWaitFrames : Nat := 180
def kJoinSoftReadyFrames : Nat := 30

namespace AudienceTracker

/-- `RebuildListsUnlocked`. The iteration order of the hash map is unspecified;
the model's is that of the association list. -/
def rebuildLists (audience : AudienceTracker) : AudienceTracker :=
  let entries := audience.roster.entries.map Sigma.snd
  { audience with
    xbox := (entries.filter fun entry => isXboxPlatform entry.platform).map (·.uid)
    others := (entries.filter fun entry => !isXboxPlatform entry.platform).map (·.uid) }

def upsert (audience : AudienceTracker) (playerUid : Guid)
    (platformUserId : Bytes) (playerState : Option ObjectRef) : AudienceTracker :=
  if playerUid = .nil then audience
  else
    let platform := normalizePlatformUserId platformUserId
    let key := formatGuid playerUid
    let entry := (audience.roster.lookup key).getD {}
    let entry :=
      { entry with
        uid := playerUid
        platform := if platform.isEmpty then entry.platform else platform
        playerState := playerState <|> entry.playerState
        hasWeak := entry.hasWeak || playerState.isSome }
    { audience with roster := audience.roster.insert key entry }.rebuildLists

def forget (audience : AudienceTracker) (playerUid : Guid) : AudienceTracker :=
  if playerUid = .nil then audience
  else
    let key := formatGuid playerUid
    if key ∈ audience.roster then
      { audience with roster := audience.roster.erase key }.rebuildLists
    else audience

def forgetMany (audience : AudienceTracker) (playerUids : List Guid) :
    AudienceTracker :=
  let keys := (playerUids.filter fun uid => uid ≠ .nil).map formatGuid
  if keys.any fun key => decide (key ∈ audience.roster) then
    { audience with
      roster := keys.foldl (fun roster key => roster.erase key) audience.roster
    }.rebuildLists
  else audience

/-- The keys whose weak `PlayerState` no longer resolves. -/
def deadKeys (audience : AudienceTracker) (alive : ObjectRef → Bool) : List Bytes :=
  (audience.roster.entries.filter fun entry =>
    entry.2.hasWeak && !(entry.2.playerState.any alive)).map Sigma.fst

def pruneDead (audience : AudienceTracker) (alive : ObjectRef → Bool) :
    AudienceTracker :=
  { audience with
    roster := (audience.deadKeys alive).foldl
      (fun roster key => roster.erase key) audience.roster }

/-- The roster after pruning, with the Xbox list and the list of the others. -/
def snapshot (audience : AudienceTracker) (alive : ObjectRef → Bool) :
    AudienceTracker × List Guid × List Guid :=
  let pruned := audience.pruneDead alive
  let pruned :=
    if (audience.deadKeys alive).isEmpty then pruned else pruned.rebuildLists
  (pruned, pruned.xbox, pruned.others)

def isOnlinePlayerUid (audience : AudienceTracker) (playerUid : Guid) : Bool :=
  playerUid ≠ .nil && decide (formatGuid playerUid ∈ audience.roster)

/-- `EnqueueJoin`: a player state is pending once. A weak pointer that faults
under the comparison is reset. -/
def enqueueJoin (audience : AudienceTracker) (weakGet : ObjectRef → WeakAnswer)
    (playerState : Option ObjectRef) : AudienceTracker :=
  match playerState with
  | none => audience
  | some object =>
      let rec scan : List PendingJoin → List PendingJoin
        | [] => [{ playerState := some object }]
        | pending :: rest =>
            match pending.playerState with
            | none => pending :: scan rest
            | some held =>
                match weakGet held with
                | .live => if held = object then pending :: rest else pending :: scan rest
                | .dead => pending :: scan rest
                | .faulted => { pending with playerState := none } :: scan rest
      { audience with pendingJoins := scan audience.pendingJoins }

/-- `TryReadJoinIdentity`, from the two property reads. -/
def tryReadJoinIdentity (reading : Option JoinReading) : Option (Guid × Bytes) :=
  match reading with
  | none => none
  | some reading =>
      match reading.playerUId with
      | none => none
      | some uid =>
          if uid = .nil then none
          else
            let norm := normalizePlatformUserId (reading.accountName.getD [])
            let platform :=
              if norm.isEmpty || decide (256 ≤ norm.length) then []
              else norm.takeWhile (· ≠ 0)
            some (uid, platform)

/-- One round of the loop of `ProcessPendingJoins`: the entry that stays
pending, if any, and the roster after a possible `Upsert`. -/
def processPendingJoin (alive : ObjectRef → Bool)
    (joinReading : ObjectRef → Option JoinReading)
    (audience : AudienceTracker) (item : PendingJoin) :
    Option PendingJoin × AudienceTracker :=
  let item := { item with frames := item.frames + 1 }
  match item.playerState.filter alive with
  | none => (none, audience)
  | some state =>
      let timedOut := decide (kJoinMaxWaitFrames ≤ item.frames)
      match tryReadJoinIdentity (joinReading state) with
      | some (uid, platform) =>
          if decide (kJoinSoftReadyFrames ≤ item.frames) || timedOut then
            (none, audience.upsert uid platform (some state))
          else (some item, audience)
      | none => (if timedOut then none else some item, audience)

def processPendingJoinsLoop (alive : ObjectRef → Bool)
    (joinReading : ObjectRef → Option JoinReading) :
    List PendingJoin → AudienceTracker → List PendingJoin × AudienceTracker
  | [], audience => ([], audience)
  | item :: rest, audience =>
      let (still, audience) := processPendingJoin alive joinReading audience item
      let (stillRest, audience) :=
        processPendingJoinsLoop alive joinReading rest audience
      (still.toList ++ stillRest, audience)

def processPendingJoins (audience : AudienceTracker) (alive : ObjectRef → Bool)
    (joinReading : ObjectRef → Option JoinReading) : AudienceTracker :=
  let (still, updated) := processPendingJoinsLoop alive joinReading
    audience.pendingJoins { audience with pendingJoins := [] }
  { updated with pendingJoins := updated.pendingJoins ++ still }

def tick (audience : AudienceTracker) (alive : ObjectRef → Bool)
    (joinReading : ObjectRef → Option JoinReading) : AudienceTracker :=
  ((audience.processPendingJoins alive joinReading).pruneDead alive).rebuildLists

/-- `TryBootstrapOnce`. -/
def tryBootstrapOnce (audience : AudienceTracker)
    (findAll : Option (List ObjectRef))
    (joinReading : ObjectRef → Option JoinReading) : AudienceTracker :=
  if audience.bootstrapped then audience
  else
    let audience := { audience with bootstrapped := true }
    match findAll with
    | none => audience
    | some states =>
        states.foldl (fun audience state =>
          match tryReadJoinIdentity (joinReading state) with
          | none => audience
          | some (uid, platform) => audience.upsert uid platform (some state)) audience

end AudienceTracker

end PalCrosschat
