import PalCrosschat.Engine
import PalCrosschat.Foundation.Monitor
import PalCrosschat.WebhookBody

/-! # One webhook request

`PostDiscordWebhookSync` with the outcome of every WinHTTP call as an input. Three handles
are opened inside each other, and every way out has to close what was opened. -/

namespace PalCrosschat

open Bytes (ascii)

/-! ## The URL -/

/-- The parts that `WinHttpCrackUrl` finds. A part that is missing is empty. -/
structure UrlComponents where
  https : Bool
  host : WideText
  port : Nat
  urlPath : WideText
  extraInfo : WideText
deriving DecidableEq, Repr

/-- `MultiByteToWideChar` and `WinHttpCrackUrl`. -/
structure UrlReader where
  toWide : Bytes → WideText
  crackUrl : WideText → Option UrlComponents

structure ParsedUrl where
  https : Bool
  host : WideText
  port : Nat
  path : WideText
deriving DecidableEq, Repr

/-- `ParseUrl`; `none` is a result that is not valid. -/
def parseUrl (reader : UrlReader) (url : Bytes) : Option ParsedUrl :=
  let wide := reader.toWide url
  if wide.isEmpty then none
  else
    match reader.crackUrl wide with
    | none => none
    | some components =>
        let path := components.urlPath ++ components.extraInfo
        if components.host.isEmpty then none
        else some
          { https := components.https
            host := components.host
            port := components.port
            path := if path.isEmpty then [0x2F] else path }

/-! ## The calls -/

inductive HttpHandle
  | session
  | connection
  | request
deriving DecidableEq, Repr

/-- The calls of WinHTTP, with the arguments that vary. -/
inductive HttpCall
  | open
  | setTimeouts (resolve connect send receive : Nat)
  | connect (host : WideText) (port : Nat)
  | openRequest (verb : Bytes) (path : WideText) (secure : Bool)
  | sendRequest (headers body : Bytes)
  | receiveResponse
  | queryStatus
  | closeHandle (handle : HttpHandle)
deriving DecidableEq, Repr

/-- What the calls report. -/
structure HttpReplies where
  opened : Bool := true
  /-- Nobody looks at what `WinHttpSetTimeouts` reports. -/
  timeoutsSet : Bool := true
  connected : Bool := true
  requestOpened : Bool := true
  sent : Bool := true
  received : Bool := true
  /-- The status code, when it can be read. -/
  status : Option Nat := some 204
deriving DecidableEq, Repr

def webhookHeaders : Bytes := ascii "Content-Type: application/json\r\n"

/-- `static_cast<DWORD>(body.size())` bytes of the body. -/
def sentBody (body : Bytes) : Bytes := body.take (body.length % 2 ^ 32)

/-- Everything with an open request: the calls, and `ok`. -/
def exchange (body : Bytes) (replies : HttpReplies) : List HttpCall × Bool :=
  if !replies.sent then ([.sendRequest webhookHeaders (sentBody body)], false)
  else if !replies.received then
    ([.sendRequest webhookHeaders (sentBody body), .receiveResponse], false)
  else
    ([.sendRequest webhookHeaders (sentBody body), .receiveResponse, .queryStatus],
      replies.status.any fun status => 200 ≤ status && status < 300)

def withConnection (url : ParsedUrl) (body : Bytes) (replies : HttpReplies) :
    List HttpCall × Bool :=
  let opening := HttpCall.openRequest (ascii "POST") url.path url.https
  if !replies.requestOpened then ([opening], false)
  else
    let outcome := exchange body replies
    (opening :: outcome.1 ++ [.closeHandle .request], outcome.2)

def withSession (url : ParsedUrl) (body : Bytes) (replies : HttpReplies) :
    List HttpCall × Bool :=
  let opening := [HttpCall.setTimeouts 3000 3000 3000 5000, .connect url.host url.port]
  if !replies.connected then (opening, false)
  else
    let outcome := withConnection url body replies
    (opening ++ outcome.1 ++ [.closeHandle .connection], outcome.2)

/-- `PostDiscordWebhookSync`: the calls in order, and the result. -/
def postDiscordWebhookSync (reader : UrlReader) (webhookUrl content : Bytes)
    (replies : HttpReplies) : List HttpCall × Bool :=
  if webhookUrl.isEmpty || content.isEmpty then ([], false)
  else
    match parseUrl reader webhookUrl with
    | none => ([], false)
    | some url =>
        if !replies.opened then ([.open], false)
        else
          let outcome := withSession url (webhookBody content) replies
          (.open :: outcome.1 ++ [.closeHandle .session], outcome.2)

/-! ## Handles -/

/-- The handles that are open after a call, the innermost first. A call on a handle that is
not open is rejected. Whether an opening call succeeds is told by its reply. -/
def HttpCall.next (replies : HttpReplies) (handles : List HttpHandle) :
    HttpCall → Option (List HttpHandle)
  | .open =>
      if handles = [] then some (if replies.opened then [.session] else []) else none
  | .setTimeouts _ _ _ _ => if handles = [.session] then some handles else none
  | .connect _ _ =>
      if handles = [.session] then
        some (if replies.connected then .connection :: handles else handles)
      else none
  | .openRequest _ _ _ =>
      if handles = [.connection, .session] then
        some (if replies.requestOpened then .request :: handles else handles)
      else none
  | .sendRequest _ _ | .receiveResponse | .queryStatus =>
      if handles = [.request, .connection, .session] then some handles else none
  | .closeHandle handle => if handles.head? = some handle then some handles.tail else none

section Handles

variable {replies : HttpReplies} {url : ParsedUrl} {body : Bytes}

theorem exchange_handles :
    Monitor.follow (HttpCall.next replies) [.request, .connection, .session]
      (exchange body replies).1 = some [.request, .connection, .session] := by
  unfold exchange
  split
  · rfl
  · split <;> rfl

theorem withConnection_handles :
    Monitor.follow (HttpCall.next replies) [.connection, .session]
      (withConnection url body replies).1 = some [.connection, .session] := by
  unfold withConnection
  cases opened : replies.requestOpened with
  | false => simp [HttpCall.next, opened]
  | true =>
      simp only [Bool.not_true, Bool.false_eq_true, if_false]
      rw [List.cons_append, Monitor.follow_cons]
      have entered : HttpCall.next replies [.connection, .session]
          (.openRequest (ascii "POST") url.path url.https) =
            some [.request, .connection, .session] := by
        simp [HttpCall.next, opened]
      rw [entered]
      exact Monitor.follow_trans exchange_handles rfl

theorem withSession_handles :
    Monitor.follow (HttpCall.next replies) [.session] (withSession url body replies).1 =
      some [.session] := by
  unfold withSession
  cases connected : replies.connected with
  | false => simp [HttpCall.next, connected]
  | true =>
      simp only [Bool.not_true, Bool.false_eq_true, if_false]
      have entered : Monitor.follow (HttpCall.next replies) [.session]
          [.setTimeouts 3000 3000 3000 5000, .connect url.host url.port] =
            some [.connection, .session] := by
        simp [HttpCall.next, connected]
      exact Monitor.follow_trans (Monitor.follow_trans entered withConnection_handles) rfl

end Handles

/-! ## The request -/

def sentBodies (calls : List HttpCall) : List Bytes :=
  calls.filterMap fun
    | .sendRequest _ body => some body
    | _ => none

/-- Every call whose result is looked at succeeds, and the server accepts the request. -/
structure HttpReplies.Accepted (replies : HttpReplies) : Prop where
  opened : replies.opened = true
  connected : replies.connected = true
  requestOpened : replies.requestOpened = true
  sent : replies.sent = true
  received : replies.received = true
  status : ∃ status, replies.status = some status ∧ 200 ≤ status ∧ status < 300

section Outcome

variable {replies : HttpReplies} {url : ParsedUrl} {body : Bytes}

theorem exchange_ok_iff :
    (exchange body replies).2 = true ↔ replies.sent = true ∧ replies.received = true ∧
      ∃ status, replies.status = some status ∧ 200 ≤ status ∧ status < 300 := by
  unfold exchange
  cases replies.sent with
  | false => simp
  | true =>
      cases replies.received with
      | false => simp
      | true => simp [Option.any_eq_true]

theorem withSession_ok_iff (opened : replies.opened = true) :
    (withSession url body replies).2 = true ↔ replies.Accepted := by
  have parts : (withSession url body replies).2 = true ↔ replies.connected = true ∧
      replies.requestOpened = true ∧ (exchange body replies).2 = true := by
    unfold withSession withConnection
    cases replies.connected with
    | false => simp
    | true => cases replies.requestOpened <;> simp
  rw [parts, exchange_ok_iff]
  constructor
  · rintro ⟨connected, requestOpened, sent, received, status⟩
    exact ⟨opened, connected, requestOpened, sent, received, status⟩
  · intro accepted
    exact ⟨accepted.connected, accepted.requestOpened, accepted.sent, accepted.received,
      accepted.status⟩

/-- A body that is not cut is the JSON of a content without control characters other than line
breaks and tabs. -/
theorem parse_sentBody {content : Bytes} (short : (webhookBody content).length < 2 ^ 32)
    (noneBare : ∀ byte ∈ content, isBareControl byte = false) :
    JsonText.parse (sentBody (webhookBody content)) =
      some (.object [(ascii "content", .string content)]) := by
  rw [sentBody, Nat.mod_eq_of_lt short, List.take_length]
  exact parse_webhookBody noneBare

theorem sentBodies_withSession :
    sentBodies (withSession url body replies).1 =
      if replies.connected && replies.requestOpened then [sentBody body] else [] := by
  unfold withSession withConnection exchange sentBodies
  cases replies.connected with
  | false => rfl
  | true =>
      cases replies.requestOpened with
      | false => rfl
      | true =>
          cases replies.sent with
          | false => rfl
          | true => cases replies.received <;> rfl

end Outcome

/-- The three cases of the function. -/
theorem postDiscordWebhookSync_cases (reader : UrlReader) (webhookUrl content : Bytes)
    (replies : HttpReplies) :
    (postDiscordWebhookSync reader webhookUrl content replies = ([], false) ∧
        ¬(webhookUrl ≠ [] ∧ content ≠ [] ∧ (parseUrl reader webhookUrl).isSome)) ∨
      (webhookUrl ≠ [] ∧ content ≠ [] ∧ ∃ url, parseUrl reader webhookUrl = some url ∧
        postDiscordWebhookSync reader webhookUrl content replies =
          if replies.opened then
            (.open :: (withSession url (webhookBody content) replies).1 ++
              [.closeHandle .session], (withSession url (webhookBody content) replies).2)
          else ([.open], false)) := by
  unfold postDiscordWebhookSync
  cases webhookUrl with
  | nil => exact .inl ⟨rfl, fun usable => usable.1 rfl⟩
  | cons head tail =>
      cases content with
      | nil => exact .inl ⟨rfl, fun usable => usable.2.1 rfl⟩
      | cons first rest =>
          cases parsed : parseUrl reader (head :: tail) with
          | none => exact .inl ⟨rfl, fun usable => by cases usable.2.2⟩
          | some url =>
              refine .inr ⟨List.cons_ne_nil _ _, List.cons_ne_nil _ _, url, rfl, ?_⟩
              cases replies.opened <;> rfl

end PalCrosschat
