import PalCrosschat.HookContext

/-! # The stack frame of the chat hook

Reading and clearing the Message parameter each search the frame on their own:
the records of `OutParms` first, then the property of the function in `Locals`,
by reference or by value. Both searches end at the same string, so a frame is one
`HookContext`, and what the hook does to the frame it does to the context. -/

namespace PalCrosschat

open Bytes (ascii)

/-! ## Frames -/

abbrev Address := Nat

/-- A reflected property, by the spelling of its `FName`. -/
structure FProperty where
  name : Bytes
  /-- `HasAnyPropertyFlags(CPF_ReferenceParm | CPF_OutParm)`. -/
  referenceOrOutParm : Bool := false
  /-- `ContainerPtrToValuePtr`. -/
  valuePtr : Address → Option Address

structure FOutParmRec where
  property : Option FProperty
  propAddr : Option Address

structure UFunction where
  properties : List FProperty

def UFunction.findProperty (fn : UFunction) (name : Bytes) : Option FProperty :=
  fn.properties.find? fun property => property.name = name

/-- `context.TheStack`. -/
structure FFrame where
  outParms : List FOutParmRec := []
  node : Option UFunction := none
  locals : Option Address := none

/-- What lies behind the pointers of a frame, by the type it is read with. -/
structure FrameMemory where
  fstring : Address → RawFString
  pointer : Address → Option Address
  byte : Address → UInt8

namespace FrameMemory

variable (memory : FrameMemory) (address : Address)

/-- `TruncateMessageInPlace` on a pointer. -/
def truncateAt : Bool × FrameMemory :=
  let (cleared, raw) := truncateMessageInPlace (memory.fstring address)
  (cleared, { memory with
    fstring := fun other => if other = address then raw else memory.fstring other })

def writeByte (value : UInt8) : FrameMemory :=
  { memory with byte := fun other => if other = address then value else memory.byte other }

end FrameMemory

/-- A call of the hook with its frame as the engine lays it out. -/
structure HookCall where
  stack : FFrame
  memory : FrameMemory
  controller : Option ObjectRef := none
  playerState : Option PlayerState := none

/-- `FindMessageViaOutParms`. -/
def findMessageViaOutParms : List FOutParmRec → Option Address
  | [] => none
  | record :: rest =>
      match record.property, record.propAddr with
      | some property, some address =>
          if property.name = ascii "Message" then some address
          else findMessageViaOutParms rest
      | _, _ => findMessageViaOutParms rest

namespace HookCall

/-! ## The two searches -/

def readMessageUtf8 (codec : TextCodec) (call : HookCall) : Option Bytes :=
  match findMessageViaOutParms call.stack.outParms with
  | some msg => some (codec.toUtf8 (call.memory.fstring msg).text)
  | none => do
      let fn ← call.stack.node
      let locals ← call.stack.locals
      let msgProp ← fn.findProperty (ascii "Message")
      if msgProp.referenceOrOutParm then
        let slot ← msgProp.valuePtr locals
        let pointed ← call.memory.pointer slot
        some (codec.toUtf8 (call.memory.fstring pointed).text)
      else
        let msg ← msgProp.valuePtr locals
        some (codec.toUtf8 (call.memory.fstring msg).text)

def truncateAt (call : HookCall) (address : Address) : Bool × HookCall :=
  ((call.memory.truncateAt address).1,
    { call with memory := (call.memory.truncateAt address).2 })

/-- `TryClearMessage`: success, and the frame afterwards. -/
def tryClearMessage (call : HookCall) : Bool × HookCall :=
  match findMessageViaOutParms call.stack.outParms with
  | some msg => call.truncateAt msg
  | none =>
      match call.stack.node, call.stack.locals with
      | some fn, some locals =>
          match fn.findProperty (ascii "Message") with
          | none => (false, call)
          | some msgProp =>
              if msgProp.referenceOrOutParm then
                match (msgProp.valuePtr locals).bind call.memory.pointer with
                | some pointed => call.truncateAt pointed
                | none => (false, call)
              else
                match msgProp.valuePtr locals with
                | some msg => call.truncateAt msg
                | none => (false, call)
      | _, _ => (false, call)

/-- The address of the `Category` byte. -/
def categoryPtr (call : HookCall) : Option Address := do
  let fn ← call.stack.node
  let locals ← call.stack.locals
  let catProp ← fn.findProperty (ascii "Category")
  catProp.valuePtr locals

/-- `ReadHookParams`: the message copied out, and the category. -/
def readHookParams (codec : TextCodec) (call : HookCall) : WideText × Category :=
  let utf8 := (call.readMessageUtf8 codec).getD []
  (if utf8.isEmpty then [] else (codec.ensureStr utf8).takeWhile (· ≠ 0),
    (call.categoryPtr.map call.memory.byte).getD 0)

def trySetCategory (call : HookCall) (newCategory : Category) : Bool × HookCall :=
  match call.categoryPtr with
  | some cat => (true, { call with memory := call.memory.writeByte cat newCategory })
  | none => (false, call)

/-! ## The frame as a context -/

end HookCall

inductive MessageSpot
  | outParms (msg : Address)
  | byReference (pointed : Option Address)
  | byValue (msg : Address)
  | missing

namespace MessageSpot

def pointer : MessageSpot → Option Address
  | outParms msg => some msg
  | byReference pointed => pointed
  | byValue msg => some msg
  | missing => none

def read (memory : FrameMemory) : MessageSpot → MessageParam
  | outParms msg => .outParms (memory.fstring msg)
  | byReference pointed => .byReference (pointed.map memory.fstring)
  | byValue msg => .byValue (memory.fstring msg)
  | missing => .missing

end MessageSpot

namespace HookCall

def messageSpot (call : HookCall) : MessageSpot :=
  match findMessageViaOutParms call.stack.outParms with
  | some msg => .outParms msg
  | none =>
      match call.stack.node, call.stack.locals with
      | some fn, some locals =>
          match fn.findProperty (ascii "Message") with
          | none => .missing
          | some msgProp =>
              if msgProp.referenceOrOutParm then
                .byReference ((msgProp.valuePtr locals).bind call.memory.pointer)
              else ((msgProp.valuePtr locals).map .byValue).getD .missing
      | _, _ => .missing

def context (call : HookCall) : HookContext where
  message := call.messageSpot.read call.memory
  category := call.categoryPtr.map call.memory.byte
  controller := call.controller
  playerState := call.playerState

/-- The search of `ReadMessageUtf8`. -/
theorem readMessageUtf8_spot (codec : TextCodec) (call : HookCall) :
    call.readMessageUtf8 codec =
      call.messageSpot.pointer.map fun msg => codec.toUtf8 (call.memory.fstring msg).text := by
  unfold readMessageUtf8 messageSpot
  cases findMessageViaOutParms call.stack.outParms with
  | some msg => rfl
  | none =>
      cases call.stack.node with
      | none => rfl
      | some fn =>
          cases call.stack.locals with
          | none => rfl
          | some locals =>
              cases found : fn.findProperty (ascii "Message") with
              | none => simp [found, MessageSpot.pointer]
              | some msgProp =>
                  cases slot : msgProp.valuePtr locals with
                  | none =>
                      cases reference : msgProp.referenceOrOutParm <;>
                        simp [found, reference, slot, MessageSpot.pointer]
                  | some value =>
                      cases reference : msgProp.referenceOrOutParm with
                      | false => simp [found, reference, slot, MessageSpot.pointer]
                      | true =>
                          cases pointed : call.memory.pointer value <;>
                            simp [found, reference, slot, pointed, MessageSpot.pointer]

/-- The search of `TryClearMessage`. -/
theorem tryClearMessage_spot (call : HookCall) :
    call.tryClearMessage =
      (call.messageSpot.pointer.map call.truncateAt).getD (false, call) := by
  unfold tryClearMessage messageSpot
  cases findMessageViaOutParms call.stack.outParms with
  | some msg => rfl
  | none =>
      cases call.stack.node with
      | none => rfl
      | some fn =>
          cases call.stack.locals with
          | none => rfl
          | some locals =>
              dsimp only
              cases fn.findProperty (ascii "Message") with
              | none => rfl
              | some msgProp =>
                  cases reference : msgProp.referenceOrOutParm with
                  | true =>
                      cases slot : (msgProp.valuePtr locals).bind call.memory.pointer <;>
                        simp only [reference, slot, if_true] <;> rfl
                  | false =>
                      cases slot : msgProp.valuePtr locals <;>
                        simp only [reference, slot, Bool.false_eq_true, if_false] <;> rfl

theorem fstring_read (memory : FrameMemory) (spot : MessageSpot) :
    (spot.read memory).fstring = spot.pointer.map memory.fstring := by
  cases spot <;> rfl

theorem readHookParams_eq (codec : TextCodec) (call : HookCall) :
    codec.toUtf8 (call.readHookParams codec).1 = call.context.rawMessage codec ∧
      (call.readHookParams codec).2 = call.context.categoryByte := by
  have same : call.readMessageUtf8 codec = call.context.message.readUtf8 codec := by
    rw [readMessageUtf8_spot, MessageParam.readUtf8, context, fstring_read, Option.map_map]
    rfl
  unfold readHookParams
  rw [same]
  exact ⟨rfl, rfl⟩

theorem read_truncateAt {memory : FrameMemory} {spot : MessageSpot} {msg : Address}
    (found : spot.pointer = some msg) :
    ((memory.truncateAt msg).1, spot.read (memory.truncateAt msg).2) =
      (spot.read memory).tryClear := by
  cases spot with
  | outParms other =>
      cases found
      simp [FrameMemory.truncateAt, MessageSpot.read, MessageParam.tryClear]
  | byReference pointed =>
      cases found
      simp [FrameMemory.truncateAt, MessageSpot.read, MessageParam.tryClear]
  | byValue other =>
      cases found
      simp [FrameMemory.truncateAt, MessageSpot.read, MessageParam.tryClear]
  | missing => cases found

theorem tryClear_of_not_found {memory : FrameMemory} {spot : MessageSpot}
    (missed : spot.pointer = none) :
    (spot.read memory).tryClear = (false, spot.read memory) := by
  cases spot with
  | byReference pointed =>
      cases missed
      rfl
  | missing => rfl
  | _ => cases missed

theorem tryClearMessage_eq (call : HookCall) :
    call.tryClearMessage.1 = call.context.message.tryClear.1 ∧
      call.tryClearMessage.2.context = call.context.clearMessage := by
  rw [tryClearMessage_spot]
  cases found : call.messageSpot.pointer with
  | none =>
      have stuck : call.context.message.tryClear = (false, call.context.message) :=
        tryClear_of_not_found found
      simp [HookContext.clearMessage, stuck]
  | some msg =>
      have truncated : ((call.memory.truncateAt msg).1,
          call.messageSpot.read (call.memory.truncateAt msg).2) =
            call.context.message.tryClear := read_truncateAt found
      constructor
      · exact congrArg Prod.fst truncated
      · exact congrArg (fun cleared => { call.context with message := cleared.2 }) truncated

theorem trySetCategory_eq (call : HookCall) (newCategory : Category) :
    (call.trySetCategory newCategory).2.context = call.context.setCategory newCategory := by
  unfold trySetCategory
  cases found : call.categoryPtr with
  | none => simp [context, HookContext.setCategory, found]
  | some cat =>
      have kept : { call with memory := call.memory.writeByte cat newCategory }.categoryPtr =
          some cat := found
      simp only [context, HookContext.setCategory, found, kept]
      simp [FrameMemory.writeByte]
      rfl

/-- Nothing of the memory is written but the two parameters of the call. -/
structure WritesParameters (call : HookCall) (after : FrameMemory) : Prop where
  strings : ∀ address, call.messageSpot.pointer ≠ some address →
    after.fstring address = call.memory.fstring address
  bytes : ∀ address, call.categoryPtr ≠ some address →
    after.byte address = call.memory.byte address
  pointers : after.pointer = call.memory.pointer

theorem writesParameters_refl (call : HookCall) : call.WritesParameters call.memory :=
  ⟨fun _ _ => rfl, fun _ _ => rfl, rfl⟩

theorem writesParameters_tryClearMessage (call : HookCall) :
    call.WritesParameters call.tryClearMessage.2.memory := by
  rw [tryClearMessage_spot]
  cases found : call.messageSpot.pointer with
  | none => exact call.writesParameters_refl
  | some msg =>
      refine ⟨fun address other => if_neg fun same => ?_, fun _ _ => rfl, rfl⟩
      rw [found, same] at other
      exact other rfl

theorem writesParameters_trySetCategory (call : HookCall) (newCategory : Category) :
    call.WritesParameters (call.trySetCategory newCategory).2.memory := by
  unfold trySetCategory
  cases found : call.categoryPtr with
  | none => exact call.writesParameters_refl
  | some cat =>
      refine ⟨fun _ _ => rfl, fun address other => if_neg fun same => ?_, rfl⟩
      rw [found, same] at other
      exact other rfl

end HookCall

end PalCrosschat
