-- SUMMARY: JSON values with integers and doubles kept apart, their equality, and the ways of looking into them.

import Appliance.Keyed

namespace Appliance

/-! ## Values

Integers and doubles are different values here: `1` and `1.0` are not equal.
The fields of an object are a list of pairs. In every object that the reader
makes, the names ascend and each occurs once. -/

/-- A JSON value. -/
inductive Json where
  | null
  | bool (b : Bool)
  | int (i : Int)
  | float (x : Float)
  | str (s : String)
  | arr (items : List Json)
  | obj (fields : List (String × Json))
deriving Inhabited

namespace Json

/-! ## Equality

Doubles are compared as numbers: the two zeros are equal, and a value that is
not a number differs from itself. -/

mutual

/-- Equality of values. -/
def beq : Json → Json → Bool
  | .null, .null => true
  | .bool b, .bool b' => b == b'
  | .int i, .int i' => i == i'
  | .float x, .float x' => x == x'
  | .str s, .str s' => s == s'
  | .arr js, .arr js' => beqItems js js'
  | .obj fs, .obj fs' => beqFields fs fs'
  | _, _ => false

/-- Equality of lists of values. -/
def beqItems : List Json → List Json → Bool
  | [], [] => true
  | j :: js, j' :: js' => beq j j' && beqItems js js'
  | _, _ => false

/-- Equality of lists of fields. -/
def beqFields : List (String × Json) → List (String × Json) → Bool
  | [], [] => true
  | (k, j) :: fs, (k', j') :: fs' => k == k' && beq j j' && beqFields fs fs'
  | _, _ => false

end

instance : BEq Json := ⟨beq⟩

/-! ## Looking into a value -/

/-- The least integer of 64 bits. -/
def minInt64 : Int := -0x8000000000000000

/-- The number one above the largest integer of 64 bits. -/
def boundInt64 : Int := 0x8000000000000000

/-- The number one above the largest natural number of 64 bits. -/
def boundUInt64 : Int := 0x10000000000000000

/-- The field of an object. -/
def get? (key : String) : Json → Option Json
  | .obj fields => fields.lookup key
  | _ => none

/-- The value at the end of a path of field names. -/
def descend? : List String → Json → Option Json
  | [], j => some j
  | key :: path, j => (j.get? key).bind (descend? path)

/-- The integer, if it has 64 bits. -/
def asInt64? : Json → Option Int64
  | .int i => if minInt64 ≤ i ∧ i < boundInt64 then some (Int64.ofInt i) else none
  | _ => none

/-- The double nearest to the number. -/
def asFloat? : Json → Option Float
  | .int i => some (Float.ofInt i)
  | .float x => some x
  | _ => none

def asString? : Json → Option String
  | .str s => some s
  | _ => none

def asItems? : Json → Option (List Json)
  | .arr items => some items
  | _ => none

def asFields? : Json → Option (List (String × Json))
  | .obj fields => some fields
  | _ => none

def isObject (j : Json) : Bool := j.asFields?.isSome

/-- A flag is a boolean or an integer of 64 bits, zero for off. -/
def asFlag? : Json → Option Bool
  | .bool b => some b
  | j => j.asInt64?.map (· != 0)

/-- The integer in a field. -/
def int64At? (key : String) (j : Json) : Option Int64 := (j.get? key).bind asInt64?

/-- The number in a field. -/
def floatAt? (key : String) (j : Json) : Option Float := (j.get? key).bind asFloat?

/-- The flag in a field. -/
def flagAt? (key : String) (j : Json) : Option Bool := (j.get? key).bind asFlag?

/-! ## Making values -/

/-- An object with the fields of a list; of two fields of one name the later counts. -/
def ofFields (fields : List (String × Json)) : Json :=
  .obj (fields.foldl (fun fs f => Keyed.put f.1 f.2 fs) [])

def ofInt64 (i : Int64) : Json := .int i.toInt

/-- A double that is no finite number has no JSON form and becomes `null`. -/
def ofFloat (x : Float) : Json := if x.isFinite then .float x else .null

@[simp] theorem get?_obj (key : String) (fields : List (String × Json)) :
    (obj fields).get? key = fields.lookup key := rfl

theorem asInt64?_ofInt64 (i : Int64) : (ofInt64 i).asInt64? = some i := by
  have hrange : minInt64 ≤ i.toInt ∧ i.toInt < boundInt64 := ⟨Int64.le_toInt i, Int64.toInt_lt i⟩
  simp only [ofInt64, asInt64?, if_pos hrange, Int64.ofInt_toInt]

theorem asFlag?_ofInt64 (i : Int64) : (ofInt64 i).asFlag? = some (i != 0) := by
  have hflag : (ofInt64 i).asFlag? = (ofInt64 i).asInt64?.map (· != 0) := rfl
  rw [hflag, asInt64?_ofInt64, Option.map_some]

/-- The fields of an ascending list stay as they are. -/
theorem ofFields_of_ascending {fields : List (String × Json)} (h : Keyed.Ascending fields) :
    ofFields fields = .obj fields :=
  congrArg obj (Keyed.foldl_put (l := []) h)

@[simp] theorem descend?_nil (j : Json) : j.descend? [] = some j := rfl

@[simp] theorem descend?_cons (key : String) (path : List String) (j : Json) :
    j.descend? (key :: path) = (j.get? key).bind (descend? path) := rfl

end Json

end Appliance
