-- SUMMARY: Decoding records from the named fields of an object.

import Appliance.Json.Tree

namespace Appliance

/-! ## Records

A record is decoded from a list of named fields. A field it does not know is
passed over; one that it knows may not occur twice. An array stands for the
first fields of the record in their order. -/

namespace Record

variable {α : Type}

/-- The values that a list of fields has for a name. -/
def occurrences (name : String) (fields : List (String × Json)) : List Json :=
  (fields.filter (·.1 == name)).map (·.2)

/-- A field that must be there. -/
def required? (name : String) (decode : Json → Option α) (fields : List (String × Json)) :
    Option α :=
  match occurrences name fields with
  | [j] => decode j
  | _ => none

/-- A field that has a value when it is left out. -/
def defaulted? (name : String) (default : α) (decode : Json → Option α)
    (fields : List (String × Json)) : Option α :=
  match occurrences name fields with
  | [] => some default
  | [j] => decode j
  | _ => none

/-- The parts of a tree by their names in a record. -/
def parts? (names : List String) : Tree → Option (List (String × Tree))
  | .arr items => if items.length ≤ names.length then some (names.zip items) else none
  | t => t.parts?

/-- The values of a tree's fields that a record with the given names looks
    at. The record is one of the `room` levels that the tree may open; of the
    fields passed over nothing but grammar is asked. -/
def fields? (room : Nat) (names : List String) (t : Tree) : Option (List (String × Json)) := do
  let parts ← parts? names t
  (parts.filter fun p => names.contains p.1).mapM fun (name, t) =>
    (t.listed? (room - 1)).map (name, ·)

/-- The fields of a record in a value that has been read already. -/
def ofJson? (names : List String) : Json → Option (List (String × Json))
  | .obj fields => some fields
  | .arr items => if items.length ≤ names.length then some (names.zip items) else none
  | _ => none

/-- An integer that an unsigned word of 32 bits holds. -/
def uint32? : Json → Option UInt32
  | .int i => if 0 ≤ i ∧ i < 0x100000000 then some (UInt32.ofNat i.toNat) else none
  | _ => none

/-- An integer that an unsigned word of 64 bits holds. -/
def uint64? : Json → Option UInt64
  | .int i => if 0 ≤ i ∧ i < Json.boundUInt64 then some (UInt64.ofNat i.toNat) else none
  | _ => none

/-- The name of a case that holds nothing: a string, or the one name of an
    object that has `null` under it. -/
def case? : Json → Option String
  | .str s => some s
  | .obj [(s, .null)] => some s
  | _ => none

/-- A string, or nothing where `null` stands for it. -/
def nullableString? : Json → Option (Option String)
  | .null => some none
  | .str s => some (some s)
  | _ => none

end Record

end Appliance
