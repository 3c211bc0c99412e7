import PalCrosschat.Config
import PalCrosschat.Foundation.Json

/-! # Reading `config.json`

`LoadConfig` takes any parsed document. Its sections are read with
`json::value`, the keys of a section with `GetOr`, which answers a value of the
wrong type with the default. -/

namespace PalCrosschat

open Bytes (ascii)

/-- All fields of `Config`, with the defaults of `Config.h`. -/
structure LoadedConfig extends Config where
  serverOrigin := []
  enabled : Bool := false
  debugVerbose : Bool := false
  mysqlHost : Bytes := []
  mysqlPort : Int := 3306
  mysqlUser : Bytes := []
  mysqlPassword : Bytes := []
  mysqlDatabase : Bytes := []
  injectCategoryName : Bytes := ascii "global"
  preserveSenderUid : Bool := false
  enableAudienceScan : Bool := false

/-! ## The readers -/

/-- `GetOr`: a missing key, a `null` and a value of the wrong type give the
fallback. -/
def getOr {α : Type} (get : Json → Except JsonError α) (object : Json) (key : String)
    (fallback : α) : α :=
  match object.member? (ascii key) with
  | none => fallback
  | some .null => fallback
  | some value =>
      match get value with
      | .ok result => result
      | .error _ => fallback

/-- `ApplyInjectCategory`: the category and its name. -/
def applyInjectCategory (value : Bytes) : Category × Bytes :=
  if value.map Bytes.toLower = ascii "discord" then
    (chatCategoryDiscord, ascii "discord")
  else
    (chatCategoryGlobal, ascii "global")

section Patterns

variable (outOfRange : Rat → Int32)

/-- One entry of `FilteredPatterns`. -/
def readFilteredPattern (entry : Json) : Option FilterPatternConfig :=
  if entry.isObject then
    let pattern := getOr Json.getString entry "Pattern" []
    let muteMinutes := getOr (Json.getInt outOfRange) entry "MuteMinutes" 5
    let muteMessage := getOr Json.getString entry "MuteMessage" []
    let muteMinutes := if muteMinutes < 0 then 0 else muteMinutes
    if pattern.isEmpty then none else some { pattern, muteMinutes, muteMessage }
  else
    none

/-- One entry of the legacy `BlockedWords`. -/
def readBlockedWord (legacyMinutes : Int) : Json → Option FilterPatternConfig
  | .string pattern =>
      if pattern.isEmpty then none
      else some {
        pattern
        muteMinutes := if legacyMinutes < 0 then 0 else legacyMinutes
        muteMessage := ascii "blocked word or phrase (chat filter)" }
  | _ => none

/-- The patterns of either schema; the legacy one is read when the other is
absent or no array. -/
def readPatterns (chatFilter : Json) : List FilterPatternConfig :=
  match chatFilter.member? (ascii "FilteredPatterns") with
  | some (.array entries) => entries.filterMap (readFilteredPattern outOfRange)
  | _ =>
      match chatFilter.member? (ascii "BlockedWords") with
      | some (.array entries) =>
          entries.filterMap (readBlockedWord
            (getOr (Json.getInt outOfRange) chatFilter "AutoMuteMinutes" 5))
      | _ => []

end Patterns

/-! ## `LoadConfig` -/

/-- What `LoadConfig` finds where the file should be. -/
inductive ConfigFile
  | noModDirectory
  | missing (path : Bytes)
  | notOpened
  | malformed (what : Bytes)
  | parsed (root : Json)

/-- The configuration and the line in the log that says why it is disabled. -/
structure Loaded where
  config : LoadedConfig := {}
  error : Option Bytes := none

section Load

variable (outOfRange : Rat → Int32)

def readSections (general mysql format chatFilter : Json) : LoadedConfig :=
  let defaults : LoadedConfig := {}
  let category := applyInjectCategory
    (getOr Json.getString format "InjectCategory" (ascii "global"))
  { serverOrigin := getOr Json.getString general "ServerOrigin" []
    pollIntervalMs :=
      getOr (Json.getInt outOfRange) general "PollIntervalMs" defaults.pollIntervalMs
    maxBatch := getOr (Json.getInt outOfRange) general "MaxBatch" defaults.maxBatch
    maxBroadcastsPerTick :=
      getOr (Json.getInt outOfRange) general "MaxBroadcastsPerTick" defaults.maxBroadcastsPerTick
    debugVerbose := getOr Json.getBool general "DebugVerbose" defaults.debugVerbose
    mysqlHost := getOr Json.getString mysql "Host" []
    mysqlPort := getOr (Json.getInt outOfRange) mysql "Port" defaults.mysqlPort
    mysqlUser := getOr Json.getString mysql "User" []
    mysqlPassword := getOr Json.getString mysql "Password" []
    mysqlDatabase := getOr Json.getString mysql "Database" []
    reconnectBackoffMaxSec :=
      getOr (Json.getInt outOfRange) mysql "ReconnectBackoffMaxSec" defaults.reconnectBackoffMaxSec
    prefixNa := getOr Json.getString format "PrefixNA" defaults.prefixNa
    prefixEu := getOr Json.getString format "PrefixEU" defaults.prefixEu
    prefixDiscord := getOr Json.getString format "PrefixDiscord" defaults.prefixDiscord
    chatFormat := getOr Json.getString format "ChatFormat" defaults.chatFormat
    injectCategory := category.1
    injectCategoryName := category.2
    showLocalServerTag :=
      getOr Json.getBool format "ShowLocalServerTag" defaults.showLocalServerTag
    preserveSenderUid := getOr Json.getBool format "PreserveSenderUId" defaults.preserveSenderUid
    enableAudienceScan :=
      getOr Json.getBool format "EnableAudienceScan" defaults.enableAudienceScan
    muteLogWebhook := getOr Json.getString chatFilter "LogWebhookUrl"
      (getOr Json.getString chatFilter "MuteLogWebhook" [])
    initialMuteNotification := getOr Json.getString chatFilter "InitialMuteNotification"
      defaults.initialMuteNotification
    activeMuteNotification := getOr Json.getString chatFilter "ActiveMuteNotification"
      defaults.activeMuteNotification
    filterPatterns := readPatterns outOfRange chatFilter }

/-- The checks and bounds at the end of `LoadConfig`. -/
def checkSections (config : LoadedConfig) : Loaded :=
  if config.serverOrigin ≠ ascii "pal-na" ∧ config.serverOrigin ≠ ascii "pal-eu" then
    { error := some (ascii "[PalCrosschat] ServerOrigin must be 'pal-na' or 'pal-eu' (got '" ++
        config.serverOrigin ++ ascii "'); mod disabled\n") }
  else if config.mysqlHost.isEmpty || config.mysqlUser.isEmpty || config.mysqlDatabase.isEmpty then
    { error := some (ascii
        "[PalCrosschat] MySQL Host/User/Database must be set in config.json; mod disabled\n") }
  else
    { config := { config with
        pollIntervalMs := if config.pollIntervalMs < 100 then 100 else config.pollIntervalMs
        maxBatch := if config.maxBatch < 1 then 1 else config.maxBatch
        maxBroadcastsPerTick :=
          if config.maxBroadcastsPerTick < 1 then 1 else config.maxBroadcastsPerTick
        reconnectBackoffMaxSec :=
          if config.reconnectBackoffMaxSec < 1 then 1 else config.reconnectBackoffMaxSec
        mysqlPort :=
          if config.mysqlPort ≤ 0 ∨ 65535 < config.mysqlPort then 3306 else config.mysqlPort
        enabled := true } }

/-- The sections are read outside of the `try` block that parses the file. -/
def loadConfig : ConfigFile → Except JsonError Loaded
  | .noModDirectory => .ok {
      error := some (ascii "[PalCrosschat] Could not resolve mod directory; mod disabled\n") }
  | .missing path => .ok {
      error := some (ascii "[PalCrosschat] Missing config.json at " ++ path ++ ascii
        "; copy config.json.example and fill MySQL settings. Mod disabled.\n") }
  | .notOpened => .ok {
      error := some (ascii "[PalCrosschat] Failed to open config.json; mod disabled\n") }
  | .malformed what => .ok {
      error := some (ascii "[PalCrosschat] Failed to parse config.json: " ++ what ++
        ascii "; mod disabled\n") }
  | .parsed root => do
      let general ← root.value (ascii "General") (.object [])
      let mysql ← root.value (ascii "MySQL") (.object [])
      let format ← root.value (ascii "Format") (.object [])
      let chatFilter ←
        if root.contains (ascii "ChatFilter") then root.value (ascii "ChatFilter") (.object [])
        else root.value (ascii "WordBlacklist") (.object [])
      return checkSections (readSections outOfRange general mysql format chatFilter)

/-- The constructor of the mod, up to where it starts its parts: `none` when the
mod is disabled. It catches no exception. -/
def startMod (file : ConfigFile) : Except JsonError (Option LoadedConfig) := do
  let loaded ← loadConfig outOfRange file
  return if loaded.config.enabled then some loaded.config else none

end Load

/-! ## Valid configurations -/

structure ValidConfig (config : LoadedConfig) : Prop where
  origin : config.serverOrigin = ascii "pal-na" ∨ config.serverOrigin = ascii "pal-eu"
  host : config.mysqlHost ≠ []
  user : config.mysqlUser ≠ []
  database : config.mysqlDatabase ≠ []
  poll : 100 ≤ config.pollIntervalMs
  batch : 1 ≤ config.maxBatch
  broadcasts : 1 ≤ config.maxBroadcastsPerTick
  backoff : 1 ≤ config.reconnectBackoffMaxSec
  port : 1 ≤ config.mysqlPort ∧ config.mysqlPort ≤ 65535
  patterns : ∀ entry ∈ config.filterPatterns, entry.pattern ≠ [] ∧ 0 ≤ entry.muteMinutes

section Validity

variable (outOfRange : Rat → Int32)

theorem readFilteredPattern_valid {entry : Json} {read : FilterPatternConfig}
    (found : readFilteredPattern outOfRange entry = some read) :
    read.pattern ≠ [] ∧ 0 ≤ read.muteMinutes := by
  unfold readFilteredPattern at found
  dsimp only at found
  split at found
  · split at found
    · cases found
    · rename_i nonempty
      cases found
      refine ⟨by simpa using nonempty, ?_⟩
      dsimp only
      split <;> omega
  · cases found

theorem readBlockedWord_valid {legacyMinutes : Int} {entry : Json} {read : FilterPatternConfig}
    (found : readBlockedWord legacyMinutes entry = some read) :
    read.pattern ≠ [] ∧ 0 ≤ read.muteMinutes := by
  cases entry with
  | string pattern =>
      rw [readBlockedWord] at found
      split at found
      · cases found
      · rename_i nonempty
        cases found
        refine ⟨by simpa using nonempty, ?_⟩
        dsimp only
        split <;> omega
  | _ => cases found

theorem readPatterns_valid {chatFilter : Json} {entry : FilterPatternConfig}
    (member : entry ∈ readPatterns outOfRange chatFilter) :
    entry.pattern ≠ [] ∧ 0 ≤ entry.muteMinutes := by
  unfold readPatterns at member
  split at member
  · rcases List.mem_filterMap.mp member with ⟨document, -, found⟩
    exact readFilteredPattern_valid outOfRange found
  · split at member
    · rcases List.mem_filterMap.mp member with ⟨document, -, found⟩
      exact readBlockedWord_valid found
    · cases member

theorem checkSections_valid {config : LoadedConfig}
    (patterns : ∀ entry ∈ config.filterPatterns, entry.pattern ≠ [] ∧ 0 ≤ entry.muteMinutes)
    (enabled : (checkSections config).config.enabled = true) :
    ValidConfig (checkSections config).config := by
  unfold checkSections at enabled ⊢
  split at enabled
  · cases enabled
  · rename_i knownOrigin
    split at enabled
    · cases enabled
    · rename_i complete
      rw [if_neg knownOrigin, if_neg complete]
      simp only [Bool.or_eq_true, List.isEmpty_iff, not_or] at complete
      exact {
        origin := by
          by_contra neither
          exact knownOrigin (not_or.mp neither)
        host := complete.1.1
        user := complete.1.2
        database := complete.2
        poll := by dsimp only; split <;> omega
        batch := by dsimp only; split <;> omega
        broadcasts := by dsimp only; split <;> omega
        backoff := by dsimp only; split <;> omega
        port := by dsimp only; split <;> omega
        patterns }

theorem checkSections_error (config : LoadedConfig) :
    (checkSections config).error.isSome = !(checkSections config).config.enabled := by
  unfold checkSections
  split
  · rfl
  · split <;> rfl

def sectionOf (root : Json) (key : String) : Json :=
  (root.member? (ascii key)).getD (.object [])

def chatFilterOf (root : Json) : Json :=
  if root.contains (ascii "ChatFilter") then sectionOf root "ChatFilter"
  else sectionOf root "WordBlacklist"

theorem loadConfig_of_isObject {root : Json} (isObject : root.isObject = true) :
    loadConfig outOfRange (.parsed root) =
      .ok (checkSections (readSections outOfRange (sectionOf root "General")
        (sectionOf root "MySQL") (sectionOf root "Format") (chatFilterOf root))) := by
  simp only [loadConfig, Json.value_of_isObject isObject, chatFilterOf]
  split <;> rfl

theorem loadConfig_of_not_isObject {root : Json} (other : root.isObject = false) :
    loadConfig outOfRange (.parsed root) = .error .valueOfNonObject := by
  simp only [loadConfig, Json.value_of_not_isObject other]
  rfl

/-- `LoadConfig` returns; what it enables is valid, and otherwise the mod is
disabled and says so. -/
def LoadsSafely (file : ConfigFile) : Prop :=
  ∃ loaded, loadConfig outOfRange file = .ok loaded ∧
    (loaded.config.enabled = true → ValidConfig loaded.config) ∧
    (loaded.config.enabled = false →
      loaded.error.isSome = true ∧ startMod outOfRange file = .ok none)

theorem loadsSafely_of_disabled {file : ConfigFile} {loaded : Loaded}
    (loads : loadConfig outOfRange file = .ok loaded)
    (disabled : loaded.config.enabled = false) (error : loaded.error.isSome = true) :
    LoadsSafely outOfRange file := by
  refine ⟨loaded, loads, ?_, fun _ => ⟨error, ?_⟩⟩
  · intro enabled
    rw [disabled] at enabled
    cases enabled
  · rw [startMod, loads]
    change Except.ok (if loaded.config.enabled = true then some loaded.config else none) = _
    rw [disabled]
    rfl

theorem loadsSafely_iff (file : ConfigFile) :
    LoadsSafely outOfRange file ↔
      ∀ root, file = .parsed root → root.isObject = true := by
  constructor
  · rintro ⟨loaded, loads, -⟩ root rfl
    cases isObject : root.isObject with
    | true => rfl
    | false =>
        rw [loadConfig_of_not_isObject outOfRange isObject] at loads
        cases loads
  · intro objects
    cases file with
    | noModDirectory => exact loadsSafely_of_disabled outOfRange rfl rfl rfl
    | missing path => exact loadsSafely_of_disabled outOfRange rfl rfl rfl
    | notOpened => exact loadsSafely_of_disabled outOfRange rfl rfl rfl
    | malformed what => exact loadsSafely_of_disabled outOfRange rfl rfl rfl
    | parsed root =>
        have loads := loadConfig_of_isObject outOfRange (objects root rfl)
        have patterns := fun entry (member : entry ∈ (readSections outOfRange
          (sectionOf root "General") (sectionOf root "MySQL") (sectionOf root "Format")
          (chatFilterOf root)).filterPatterns) => readPatterns_valid outOfRange member
        generalize readSections outOfRange (sectionOf root "General") (sectionOf root "MySQL")
          (sectionOf root "Format") (chatFilterOf root) = config at loads patterns
        cases enabled : (checkSections config).config.enabled with
        | true =>
            refine ⟨_, loads, checkSections_valid patterns, fun disabled => ?_⟩
            rw [enabled] at disabled
            cases disabled
        | false =>
            have error := checkSections_error config
            rw [enabled] at error
            exact loadsSafely_of_disabled outOfRange loads enabled error

end Validity

/-- A file that only says `null` takes the server down. -/
theorem loadsSafely_fails : ¬LoadsSafely (fun _ => Int32.minValue) (.parsed .null) := by
  rintro ⟨loaded, loads, -⟩
  cases loads

end PalCrosschat
