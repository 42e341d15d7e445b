-- SUMMARY: Channels and the ids of entities, with their texts and their order.

import Appliance.Json

namespace Appliance

/-! ## Channels -/

/-- A number or a name that a device gives to one of its features. -/
inductive Channel where
  | int (i : Int64)
  | str (s : String)
deriving DecidableEq, Repr, Inhabited

namespace Channel

/-- Integers of 64 bits and strings name channels. -/
def ofJson? : Json → Option Channel
  | .str s => some (.str s)
  | j => j.asInt64?.map .int

def toJson : Channel → Json
  | .int i => .ofInt64 i
  | .str s => .str s

def text : Channel → String
  | .int i => toString i.toInt
  | .str s => s

/-- The number that a channel is. -/
def number? : Channel → Option Int64
  | .int i => some i
  | .str _ => none

/-- The name that a channel is. -/
def label? : Channel → Option String
  | .int _ => none
  | .str s => some s

/-- Numbers come before names, as nothing comes before something. -/
instance : Ord Channel := ⟨compareLex (compareOn label?) (compareOn number?)⟩

instance : Std.TransOrd Channel :=
  inferInstanceAs (Std.TransCmp (compareLex (compareOn label?) (compareOn number?)))

instance : Std.LawfulEqOrd Channel where
  eq_of_compare {c c'} h := by
    obtain ⟨hl, hn⟩ := compareLex_eq_eq.1 h
    replace hl : c.label? = c'.label? := Std.LawfulEqOrd.eq_of_compare hl
    replace hn : c.number? = c'.number? := Std.LawfulEqOrd.eq_of_compare hn
    cases c <;> cases c' <;> simp_all [label?, number?]

end Channel

/-! ## Entity ids -/

/-- The identity of an entity within its device: a channel, a key or both. -/
inductive EntityId where
  | key (k : String)
  | channel (c : Channel)
  | keyed (c : Channel) (k : String)
deriving DecidableEq, Repr, Inhabited

namespace EntityId

def channel? : EntityId → Option Channel
  | .key _ => none
  | .channel c | .keyed c _ => some c

def key? : EntityId → Option String
  | .channel _ => none
  | .key k | .keyed _ k => some k

def text : EntityId → String
  | .key k => k
  | .channel c => c.text
  | .keyed c k => c.text ++ "_" ++ k

/-- Ids are ordered by channel, then by key; an absent part comes first. -/
instance : Ord EntityId := ⟨compareLex (compareOn channel?) (compareOn key?)⟩

instance : Std.TransOrd EntityId :=
  inferInstanceAs (Std.TransCmp (compareLex (compareOn channel?) (compareOn key?)))

theorem eq_of_parts {id id' : EntityId} (hc : id.channel? = id'.channel?)
    (hk : id.key? = id'.key?) : id = id' := by
  cases id <;> cases id' <;> simp_all [channel?, key?]

instance : Std.LawfulEqOrd EntityId where
  eq_of_compare h := by
    obtain ⟨hc, hk⟩ := compareLex_eq_eq.1 h
    exact eq_of_parts (Std.LawfulEqOrd.eq_of_compare hc) (Std.LawfulEqOrd.eq_of_compare hk)

/-- Sorts ids and leaves out repetitions. -/
def sortUnique (ids : List EntityId) : List EntityId :=
  (Table.ofKeys ids).keys

end EntityId

end Appliance
