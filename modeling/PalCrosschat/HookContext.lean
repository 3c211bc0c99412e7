import PalCrosschat.Engine
import PalCrosschat.Sanitize

/-! # The parameters of the chat hook

`EnterChat_Receive(const FString& Message, uint8 Category)` as the pre-hook sees
it: where the Message string lives, how it is read, and the in-place writes the
mod performs on it. -/

namespace PalCrosschat

/-! ## `FString` memory -/

/-- `{Data, Num, Max}` of an `FString`. `data` is the allocated buffer, `none`
for a null pointer; `num` counts the terminator. -/
structure RawFString where
  data : Option WideText
  num : Int
  max : Int
deriving DecidableEq, Repr

namespace RawFString

/-- `*str`, read up to its terminator. An `FString` with `Num = 0` reads as the
empty text whatever its buffer holds. -/
def text (raw : RawFString) : WideText :=
  match raw.data with
  | none => []
  | some buffer => if raw.num = 0 then [] else buffer.takeWhile (· ≠ 0)

def saneLayout (raw : RawFString) : Bool :=
  0 ≤ raw.num && 0 ≤ raw.max && raw.num ≤ raw.max && raw.max ≤ 0x100000

end RawFString

/-- `TruncateMessageInPlace`: success, and the string afterwards. -/
def truncateMessageInPlace (raw : RawFString) : Bool × RawFString :=
  if !raw.saneLayout then (false, raw)
  else
    match raw.data with
    | none => (true, { raw with num := 0 })
    | some buffer =>
        if raw.max = 0 then (true, { raw with num := 0 })
        else (true, { raw with data := some (buffer.set 0 0), num := 1 })

/-- How the hook reaches the Message parameter: through `OutParms`, through a
pointer in `Locals` that may be null, as a value in `Locals`, or not at all. -/
inductive MessageParam
  | outParms (raw : RawFString)
  | byReference (pointed : Option RawFString)
  | byValue (raw : RawFString)
  | missing
deriving DecidableEq, Repr

namespace MessageParam

def fstring : MessageParam → Option RawFString
  | .outParms raw => some raw
  | .byReference pointed => pointed
  | .byValue raw => some raw
  | .missing => none

/-- `ReadMessageUtf8`. -/
def readUtf8 (codec : TextCodec) (param : MessageParam) : Option Bytes :=
  param.fstring.map fun raw => codec.toUtf8 raw.text

/-- `TryClearMessage`: success, and the parameter afterwards. -/
def tryClear : MessageParam → Bool × MessageParam
  | .outParms raw =>
      ((truncateMessageInPlace raw).1, .outParms (truncateMessageInPlace raw).2)
  | .byReference none => (false, .byReference none)
  | .byReference (some raw) =>
      ((truncateMessageInPlace raw).1,
        .byReference (some (truncateMessageInPlace raw).2))
  | .byValue raw =>
      ((truncateMessageInPlace raw).1, .byValue (truncateMessageInPlace raw).2)
  | .missing => (false, .missing)

def clearable (param : MessageParam) : Bool :=
  param.fstring.any RawFString.saneLayout

end MessageParam

/-! ## The hook call -/

/-- One call of the pre-hook: its parameters, the hooked controller, and the
player state found through it. -/
structure HookContext where
  message : MessageParam
  /-- The `Category` byte in `Locals`, when it is found. -/
  category : Option Category
  controller : Option ObjectRef
  playerState : Option PlayerState

namespace HookContext

/-- The category `ReadHookParams` reports, zero when it is not found. -/
def categoryByte (context : HookContext) : Category := context.category.getD 0

/-- The text `ReadHookParams` copies out, as `HandleHook` reads it back. -/
def rawMessage (codec : TextCodec) (context : HookContext) : Bytes :=
  let utf8 := (context.message.readUtf8 codec).getD []
  codec.toUtf8
    (if utf8.isEmpty then [] else (codec.ensureStr utf8).takeWhile (· ≠ 0))

def line (codec : TextCodec) (context : HookContext) : Bytes :=
  sanitizeMessage (context.rawMessage codec)

def clearMessage (context : HookContext) : HookContext :=
  { context with message := context.message.tryClear.2 }

/-- `TrySetCategory`. -/
def setCategory (context : HookContext) (category : Category) : HookContext :=
  { context with category := context.category.map fun _ => category }

end HookContext

/-- An ASCII text in the Global channel from a controller without a player state. -/
def typed (text : Bytes) : HookContext where
  message := .outParms
    { data := some (text.map UInt8.toUInt16 ++ [0])
      num := text.length + 1
      max := text.length + 1 }
  category := some chatCategoryGlobal
  controller := none
  playerState := none

/-! ## What clearing does -/

theorem text_truncateMessageInPlace {raw : RawFString}
    (sane : raw.saneLayout = true) : (truncateMessageInPlace raw).2.text = [] := by
  unfold truncateMessageInPlace
  cases held : raw.data with
  | none => simp [sane, RawFString.text]
  | some buffer =>
      by_cases unallocated : raw.max = 0
      · simp [sane, unallocated, RawFString.text]
      · cases buffer <;> simp [sane, unallocated, RawFString.text]

theorem truncateMessageInPlace_ne {raw : RawFString}
    (sane : raw.saneLayout = true) (nonempty : raw.text ≠ []) :
    (truncateMessageInPlace raw).2 ≠ raw := by
  intro same
  apply nonempty
  rw [← same]
  exact text_truncateMessageInPlace sane

theorem truncateMessageInPlace_of_insane {raw : RawFString}
    (insane : raw.saneLayout = false) : truncateMessageInPlace raw = (false, raw) := by
  simp [truncateMessageInPlace, insane]

namespace MessageParam

theorem tryClear_of_not_clearable {param : MessageParam}
    (stuck : param.clearable = false) : param.tryClear.2 = param := by
  cases param with
  | outParms raw =>
      have insane : raw.saneLayout = false := by simpa [clearable, fstring] using stuck
      simp [tryClear, truncateMessageInPlace_of_insane insane]
  | byReference pointed =>
      cases pointed with
      | none => rfl
      | some raw =>
          have insane : raw.saneLayout = false := by
            simpa [clearable, fstring] using stuck
          simp [tryClear, truncateMessageInPlace_of_insane insane]
  | byValue raw =>
      have insane : raw.saneLayout = false := by simpa [clearable, fstring] using stuck
      simp [tryClear, truncateMessageInPlace_of_insane insane]
  | missing => rfl

theorem tryClear_fst (param : MessageParam) : param.tryClear.1 = param.clearable := by
  have succeeds (raw : RawFString) : (truncateMessageInPlace raw).1 = raw.saneLayout := by
    cases sane : raw.saneLayout with
    | false => rw [truncateMessageInPlace_of_insane sane]
    | true =>
        cases held : raw.data with
        | none => simp [truncateMessageInPlace, sane, held]
        | some buffer =>
            by_cases unallocated : raw.max = 0
            · simp [truncateMessageInPlace, sane, held, unallocated]
            · simp [truncateMessageInPlace, sane, held, unallocated]
  cases param with
  | outParms raw => exact succeeds raw
  | byReference pointed =>
      cases pointed with
      | none => rfl
      | some raw => exact succeeds raw
  | byValue raw => exact succeeds raw
  | missing => rfl

theorem fstring_tryClear (param : MessageParam) :
    param.tryClear.2.fstring =
      param.fstring.map fun raw => (truncateMessageInPlace raw).2 := by
  cases param with
  | outParms raw => rfl
  | byReference pointed => cases pointed <;> rfl
  | byValue raw => rfl
  | missing => rfl

end MessageParam

namespace HookContext

theorem fstring_of_line_ne_nil {codec : TextCodec} {context : HookContext}
    (nonempty : context.line codec ≠ []) :
    ∃ raw, context.message.fstring = some raw ∧ raw.text ≠ [] := by
  have rawNonempty : context.rawMessage codec ≠ [] := by
    intro isEmpty
    apply nonempty
    simp [line, isEmpty, sanitizeMessage, stripControlAndTrim, Bytes.trimBoth]
  cases found : context.message.fstring with
  | none =>
      exfalso
      apply rawNonempty
      simp [rawMessage, MessageParam.readUtf8, found, codec.toUtf8_nil]
  | some raw =>
      refine ⟨raw, rfl, ?_⟩
      intro isEmpty
      apply rawNonempty
      simp [rawMessage, MessageParam.readUtf8, found, isEmpty, codec.toUtf8_nil]

/-- Clearing changes a context whose line is not empty exactly when the layout
of the Message string allows it. -/
theorem clearMessage_message_eq_iff {codec : TextCodec} {context : HookContext}
    (nonempty : context.line codec ≠ []) :
    context.clearMessage.message = context.message ↔
      context.message.clearable = false := by
  constructor
  · intro unchanged
    rcases fstring_of_line_ne_nil nonempty with ⟨raw, found, hasText⟩
    cases sane : raw.saneLayout with
    | false => simp [MessageParam.clearable, found, sane]
    | true =>
        exfalso
        have after := MessageParam.fstring_tryClear context.message
        rw [show context.message.tryClear.2 = context.message from unchanged,
          found] at after
        exact truncateMessageInPlace_ne sane hasText (by simpa using after.symm)
  · exact MessageParam.tryClear_of_not_clearable

end HookContext

end PalCrosschat
