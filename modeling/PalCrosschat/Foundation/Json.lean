import PalCrosschat.Foundation.Bytes

/-! # JSON documents

A parsed document, and the readers of `nlohmann::json` on it. A reader answers a
document of the wrong type with an exception. -/

namespace PalCrosschat

/-- A parsed document. Members of an object have different keys; a number without
a fraction is signed when it is written with a minus sign. -/
inductive Json
  | null
  | boolean (value : Bool)
  | integer (value : Int64)
  | unsigned (value : UInt64)
  | float (value : Rat)
  | string (text : Bytes)
  | array (elements : List Json)
  | object (members : List (Bytes × Json))

inductive JsonError
  | notOfType (expected : Bytes)
  | valueOfNonObject
deriving DecidableEq, Repr

namespace Json

def isObject : Json → Bool
  | object _ => true
  | _ => false

def member? (key : Bytes) : Json → Option Json
  | object members => members.lookup key
  | _ => none

def contains (key : Bytes) (document : Json) : Bool := (document.member? key).isSome

/-- `value(key, fallback)`, on objects only. -/
def value (document : Json) (key : Bytes) (fallback : Json) : Except JsonError Json :=
  if document.isObject then
    .ok ((document.member? key).getD fallback)
  else
    .error .valueOfNonObject

/-- `get<std::string>()`. -/
def getString : Json → Except JsonError Bytes
  | string text => .ok text
  | _ => .error (.notOfType (Bytes.ascii "string"))

/-- `get<bool>()`. -/
def getBool : Json → Except JsonError Bool
  | boolean value => .ok value
  | _ => .error (.notOfType (Bytes.ascii "boolean"))

/-- `static_cast<int>` of a `double`. What the cast makes of a number whose
integral part is no `int` is left to the compiler. -/
def truncate (outOfRange : Rat → Int32) (value : Rat) : Int32 :=
  let whole := value.num.tdiv value.den
  if Int32.minValue.toInt ≤ whole ∧ whole ≤ Int32.maxValue.toInt then .ofInt whole
  else outOfRange value

/-- `get<int>()`, which also takes a boolean. -/
def getInt (outOfRange : Rat → Int32) : Json → Except JsonError Int
  | boolean value => .ok (if value then 1 else 0)
  | integer value => .ok value.toInt32.toInt
  | unsigned value => .ok value.toInt64.toInt32.toInt
  | float value => .ok (truncate outOfRange value).toInt
  | _ => .error (.notOfType (Bytes.ascii "number"))

theorem value_of_isObject {document : Json} (isObject : document.isObject = true)
    (key : Bytes) (fallback : Json) :
    document.value key fallback = .ok ((document.member? key).getD fallback) :=
  if_pos isObject

theorem value_of_not_isObject {document : Json} (other : document.isObject = false)
    (key : Bytes) (fallback : Json) :
    document.value key fallback = .error .valueOfNonObject := by
  rw [value, other]
  rfl

end Json

end PalCrosschat
