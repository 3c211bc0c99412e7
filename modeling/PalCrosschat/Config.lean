import PalCrosschat.Foundation.Bytes

/-! # Configuration and the Palworld chat API surface

The fields of `Config` that some modelled function reads, with the defaults of
`Config.h`, and the constants of `PalChatApi.h`. -/

namespace PalCrosschat

open Bytes (ascii)

/-! ## `EPalChatCategory` -/

abbrev Category := UInt8

def chatCategoryNone : Category := 0
def chatCategoryGlobal : Category := 1
def chatCategoryDiscord : Category := 4

/-- The categories this mod relays from local players into the shared database. -/
def relayedCategories : List Category := [chatCategoryGlobal]

def isRelayedCategory (category : Category) : Bool :=
  relayedCategories.any fun relayed => relayed == category

@[simp] theorem isRelayedCategory_iff (category : Category) :
    isRelayedCategory category = true ↔ category = chatCategoryGlobal := by
  simp only [isRelayedCategory, relayedCategories, List.any_cons, List.any_nil,
    Bool.or_false, beq_iff_eq]
  exact eq_comm

/-! ## `Config` -/

structure FilterPatternConfig where
  pattern : Bytes
  muteMinutes : Int := 5
  muteMessage : Bytes := []

structure Config where
  serverOrigin : Bytes
  pollIntervalMs : Int := 750
  maxBatch : Int := 50
  maxBroadcastsPerTick : Int := 5
  reconnectBackoffMaxSec : Int := 30
  prefixNa : Bytes := ascii "NA"
  prefixEu : Bytes := ascii "EU"
  prefixDiscord : Bytes := ascii "Discord"
  chatFormat : Bytes := ascii "[\x7bprefix\x7d] [\x7bguild\x7d] \x7bplayer\x7d: \x7bmessage\x7d"
  injectCategory : Category := chatCategoryGlobal
  showLocalServerTag : Bool := false
  muteLogWebhook : Bytes := []
  initialMuteNotification : Bytes :=
    ascii "You have been muted for \x7bmutetime\x7d!"
  activeMuteNotification : Bytes :=
    ascii "You are muted! Time remaining: \x7bremainingtime\x7d"
  filterPatterns : List FilterPatternConfig := []

namespace Config

def prefixes (config : Config) : List Bytes :=
  [config.prefixNa, config.prefixEu, config.prefixDiscord]

end Config

/-- The defaults, for a server called `pal-na`. -/
def plainConfig : Config where
  serverOrigin := ascii "pal-na"

def taggingConfig : Config :=
  { plainConfig with showLocalServerTag := true }

end PalCrosschat
