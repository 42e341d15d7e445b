-- SUMMARY: Messages that survive the wire: reading the text of a message gives the message back.

import Appliance.Message
import Appliance.Proofs.Sameness
import Appliance.Proofs.Spelling

namespace Appliance

/-! ## Values that are read back

A value is read back from its tree when its numbers are exact, its objects are
in order and it is not too deep. -/

namespace Json

mutual

/-- How many arrays and objects stand inside one another. -/
def depth : Json → Nat
  | .arr items => itemsDepth items + 1
  | .obj fields => fieldsDepth fields + 1
  | _ => 0

def itemsDepth : List Json → Nat
  | [] => 0
  | j :: js => max j.depth (itemsDepth js)

def fieldsDepth : List (String × Json) → Nat
  | [] => 0
  | (_, j) :: fs => max j.depth (fieldsDepth fs)

end

theorem exactFields_iff {fs : List (String × Json)} :
    ExactFields fs ↔ ∀ f ∈ fs, f.2.Exact := by
  induction fs with
  | nil => simp [ExactFields]
  | cons f fs ih => simp [ExactFields, ih]

mutual

theorem toJson?_tree : ∀ {j : Json} {room : Nat}, j.WellFormed → j.Exact → j.depth ≤ room →
    j.tree.toJson? room = some j
  | .null, _, _, _, _ => rfl
  | .bool true, _, _, _, _ => rfl
  | .bool false, _, _, _, _ => rfl
  | .int _, _, _, hexact, _ => toJson?_numeral hexact.1 hexact.2
  | .str s, _, _, _, _ => by
    rw [tree, Tree.toJson?, string?_pieces]
    rfl
  | .arr _, 0, _, _, hdepth => absurd hdepth (Nat.not_succ_le_zero _)
  | .obj _, 0, _, _, hdepth => absurd hdepth (Nat.not_succ_le_zero _)
  | .arr _, room + 1, hform, hexact, hdepth => by
    have hitems := itemsToJson?_itemTrees hform hexact (Nat.le_of_succ_le_succ hdepth)
    rw [tree, Tree.toJson?, hitems]
    rfl
  | .obj _, room + 1, hform, hexact, hdepth => by
    have hfields := fieldsToJson?_fieldTrees hform.2 hexact (Nat.le_of_succ_le_succ hdepth)
    rw [tree, Tree.toJson?, hfields, Option.map_some, ofFields_of_ascending hform.1]

theorem itemsToJson?_itemTrees : ∀ {js : List Json} {room : Nat}, WellFormedItems js →
    ExactItems js → itemsDepth js ≤ room → Tree.itemsToJson? room (itemTrees js) = some js
  | [], _, _, _, _ => rfl
  | _ :: _, room, hform, hexact, hdepth => by
    obtain ⟨hhead, htail⟩ := Nat.max_le.1 hdepth
    have hitem := toJson?_tree hform.1 hexact.1 hhead
    have hitems := itemsToJson?_itemTrees hform.2 hexact.2 htail
    simp [itemTrees, Tree.itemsToJson?, hitem, hitems]

theorem fieldsToJson?_fieldTrees : ∀ {fs : List (String × Json)} {room : Nat},
    WellFormedFields fs → ExactFields fs → fieldsDepth fs ≤ room →
    Tree.fieldsToJson? room (fieldTrees fs) = some fs
  | [], _, _, _, _ => rfl
  | (_, _) :: _, room, hform, hexact, hdepth => by
    obtain ⟨hhead, htail⟩ := Nat.max_le.1 hdepth
    have hfield := toJson?_tree hform.1 hexact.1 hhead
    have hfields := fieldsToJson?_fieldTrees hform.2 hexact.2 htail
    simp [fieldTrees, Tree.fieldsToJson?, string?_pieces, hfield, hfields]

end

/-- What is no array and no object has no fields that might be listed. -/
theorem listed?_tree {j : Json} {room : Nat} (hdepth : j.depth = 0) :
    j.tree.listed? room = j.tree.toJson? room := by
  cases j with
  | bool b => cases b <;> rfl
  | float x =>
    rw [tree]
    cases Numeral.ofChars? (writeFloat x) <;> rfl
  | obj fields => cases hdepth
  | null | int i | str s | arr items => rfl

/-- The named parts of an object's tree are the trees of its fields. -/
theorem parts?_tree (names : List String) (fs : List (String × Json)) :
    Record.parts? names (Json.obj fs).tree = some (fs.map fun f => (f.1, f.2.tree)) := by
  rw [tree]
  simp only [Record.parts?, Tree.parts?]
  induction fs with
  | nil => rfl
  | cons f fs ih =>
    obtain ⟨name, j⟩ := f
    simp [fieldTrees, string?_pieces, ih]

end Json

/-- A record reads back the fields that it knows. -/
theorem Record.fields?_tree {names : List String} {fs : List (String × Json)} {room : Nat}
    (hnames : ∀ f ∈ fs, f.1 ∈ names)
    (hread : ∀ f ∈ fs, f.2.tree.listed? (room - 1) = some f.2) :
    Record.fields? room names (Json.obj fs).tree = some fs := by
  have hknown : ∀ p ∈ fs.map fun f => (f.1, f.2.tree), names.contains p.1 = true := by
    intro p hp
    obtain ⟨f, hf, rfl⟩ := List.mem_map.1 hp
    exact List.contains_iff_mem.2 (hnames f hf)
  rw [Record.fields?, Json.parts?_tree, Option.bind_eq_bind, Option.bind_some,
    List.filter_eq_self.2 hknown]
  clear hknown hnames
  induction fs with
  | nil => rfl
  | cons f fs ih =>
    obtain ⟨hfield, hfields⟩ := List.forall_mem_cons.1 hread
    simp [hfield, ih hfields]

/-! ## Headers -/

namespace Header

/-- The values of a header: strings and integers of at most 64 bits. -/
def Plain (j : Json) : Prop := j.WellFormed ∧ j.Exact ∧ j.depth = 0

theorem plain_str (s : String) : Plain (.str s) := ⟨trivial, trivial, rfl⟩

theorem plain_int {i : Int} (hmin : Json.minInt64 ≤ i) (hbound : i < Json.boundUInt64) :
    Plain (.int i) :=
  ⟨trivial, ⟨hmin, hbound⟩, rfl⟩

theorem plain_ofInt64 (i : Int64) : Plain (.ofInt64 i) := by
  have hbound := Int64.toInt_lt i
  apply plain_int (Int64.le_toInt i)
  unfold Json.boundUInt64
  omega

theorem plain_ofNat (n : UInt32) : Plain (.int n.toNat) := by
  have hbound := n.toNat_lt
  apply plain_int
  · unfold Json.minInt64
    omega
  · unfold Json.boundUInt64
    omega

theorem plain_of_mem_toFields {h : Header} {f : String × Json} (hf : f ∈ h.toFields) :
    f.1 ∈ fieldNames ∧ Plain f.2 := by
  rcases List.mem_append.1 hf with hf | hf
  · simp only [List.mem_cons, List.not_mem_nil, or_false] at hf
    rcases hf with rfl | rfl | rfl | rfl | rfl | rfl | rfl | rfl <;>
      refine ⟨by simp [fieldNames], ?_⟩
    all_goals first | apply plain_str | apply plain_ofInt64 | apply plain_ofNat
  · simp only [Option.mem_toList, Option.map_eq_some_iff] at hf
    obtain ⟨s, -, rfl⟩ := hf
    exact ⟨by simp [fieldNames], plain_str s⟩

theorem uint32?_ofNat (n : UInt32) : Record.uint32? (.int n.toNat) = some n := by
  have hbound := n.toNat_lt
  have hrange : 0 ≤ (n.toNat : Int) ∧ (n.toNat : Int) < 0x100000000 := by omega
  rw [Record.uint32?, if_pos hrange, Int.toNat_natCast, UInt32.ofNat_toNat]

theorem method?_name (m : Method) : method? (.str m.name) = some m := Method.ofName?_name m

theorem ofFields?_toFields (h : Header) : ofFields? h.toFields = some h := by
  obtain ⟨messageId, ns, method, version, sender, timestamp, timestampMs, sign, triggerSrc⟩ := h
  cases triggerSrc <;>
    simp [ofFields?, toFields, Record.required?, Record.defaulted?, Record.occurrences,
      Json.asString?, Json.asInt64?_ofInt64, Record.nullableString?, uint32?_ofNat, method?_name]

theorem ofTree?_tree (h : Header) (room : Nat) :
    ofTree? room (Json.obj h.toFields).tree = some h := by
  have hread : ∀ f ∈ h.toFields, f.2.tree.listed? (room - 1) = some f.2 := by
    intro f hf
    obtain ⟨-, hform, hexact, hdepth⟩ := plain_of_mem_toFields hf
    rw [Json.listed?_tree hdepth]
    apply Json.toJson?_tree hform hexact
    rw [hdepth]
    apply Nat.zero_le
  rw [ofTree?, Record.fields?_tree (fun f hf => (plain_of_mem_toFields hf).1) hread]
  exact ofFields?_toFields h

end Header

/-! ## Messages -/

namespace Message

/-- The text of a message is read as the message, whatever its header holds and
    whatever its payload, as long as the payload has no doubles and leaves room
    for the message around it. -/
theorem parse_render (m : Message) (hform : m.payload.WellFormed) (hexact : m.payload.Exact)
    (hdepth : m.payload.depth ≤ 126) : parse m.render = .ok m := by
  obtain ⟨h, payload⟩ := m
  have hheader : (Json.obj h.toFields).Exact :=
    Json.exactFields_iff.2 fun f hf => (Header.plain_of_mem_toFields hf).2.2.1
  have htree : Tree.parse? (render ⟨h, payload⟩) = some (toJson ⟨h, payload⟩).tree :=
    Json.parse?_render ⟨hheader, hexact, trivial⟩
  have hpayload : payload.tree.toJson? (Json.maxDepth - 1) = some payload :=
    Json.toJson?_tree hform hexact hdepth
  have hmessage : ofTree? Json.maxDepth (toJson ⟨h, payload⟩).tree = some ⟨h, payload⟩ := by
    simp [ofTree?, toJson, Json.parts?_tree, Header.ofTree?_tree, hpayload]
  rw [parse, htree, Option.bind_some, hmessage]

/-- A push with quotes, control characters and characters beyond 16 bits in its
    texts, and with the integers at the ends of their ranges. -/
def unusual : Message where
  header :=
    { messageId := "a\"\\\x01"
      ns := "é/\x7f"
      method := .push
      payloadVersion := 4294967295
      sender := "\t\r\n"
      timestamp := -9223372036854775808
      timestampMs := 9223372036854775807
      sign := ""
      triggerSrc := some "😀" }
  payload :=
    .obj [("", .arr [.int Json.minInt64, .int (Json.boundUInt64 - 1), .arr []]),
      ("\x1f", .obj [("on", .bool true), ("song", .null)])]

theorem parse_render_unusual :
    unusual.payload.WellFormed ∧ unusual.payload.Exact ∧ unusual.payload.depth ≤ 126 ∧
      parse unusual.render = .ok unusual := by
  have hform : unusual.payload.WellFormed := by
    simp [unusual, Json.WellFormed, Json.WellFormedItems, Json.WellFormedFields, Keyed.Ascending]
    decide
  have hexact : unusual.payload.Exact := by
    simp [unusual, Json.Exact, Json.ExactItems, Json.ExactFields, Json.minInt64,
      Json.boundUInt64]
  have hdepth : unusual.payload.depth ≤ 126 := by decide
  exact ⟨hform, hexact, hdepth, parse_render unusual hform hexact hdepth⟩

end Message

end Appliance
