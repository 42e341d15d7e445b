-- SUMMARY: The grammar of headers: which fields they are read from, and that nothing else about the fields counts.

import Appliance.Proofs.Codec

namespace Appliance

/-! ## Names in a list of fields -/

namespace Record

variable {α : Type} {name : String} {j : Json} {fields fields' : List (String × Json)}

/-- How often a name occurs. -/
def count (name : String) (fields : List (String × Json)) : Nat := (fields.map (·.1)).count name

/-- The name occurs once, and it has the value. -/
def Once (name : String) (j : Json) (fields : List (String × Json)) : Prop :=
  count name fields = 1 ∧ (name, j) ∈ fields

theorem length_occurrences (name : String) (fields : List (String × Json)) :
    (occurrences name fields).length = count name fields := by
  rw [occurrences, count, List.length_map, List.count, List.countP_map,
    List.countP_eq_length_filter]
  rfl

theorem mem_occurrences : j ∈ occurrences name fields ↔ (name, j) ∈ fields := by
  simp [occurrences]

theorem occurrences_cons_self :
    occurrences name ((name, j) :: fields) = j :: occurrences name fields := by
  simp [occurrences]

theorem occurrences_cons_of_ne {name' : String} (h : name' ≠ name) :
    occurrences name ((name', j) :: fields) = occurrences name fields := by
  simp [occurrences, h]

theorem occurrences_eq_nil : occurrences name fields = [] ↔ count name fields = 0 := by
  rw [← length_occurrences, List.length_eq_zero_iff]

theorem occurrences_eq_singleton : occurrences name fields = [j] ↔ Once name j fields := by
  rw [Once, ← length_occurrences, ← mem_occurrences, List.length_eq_one_iff]
  constructor
  · intro h
    exact ⟨⟨j, h⟩, h ▸ List.mem_singleton_self j⟩
  · rintro ⟨⟨j', h⟩, hmem⟩
    rw [h, List.mem_singleton] at hmem
    rw [h, hmem]

theorem required?_eq_some {decode : Json → Option α} {a : α} :
    required? name decode fields = some a ↔ ∃ j, Once name j fields ∧ decode j = some a := by
  simp only [← occurrences_eq_singleton]
  unfold required?
  split
  · rename_i h
    simp [h]
  · rename_i h
    simp only [reduceCtorEq, false_iff]
    rintro ⟨j, hj, -⟩
    exact h j hj

theorem defaulted?_eq_some {default : α} {decode : Json → Option α} {a : α} :
    defaulted? name default decode fields = some a ↔
      (∃ j, Once name j fields ∧ decode j = some a) ∨
        count name fields = 0 ∧ a = default := by
  simp only [← occurrences_eq_singleton, ← occurrences_eq_nil]
  unfold defaulted?
  split
  · rename_i h
    simp [h, eq_comm]
  · rename_i h
    simp [h]
  · rename_i hnil hone
    simp only [reduceCtorEq, false_iff]
    rintro (⟨j, hj, -⟩ | ⟨hempty, -⟩)
    · exact hone j hj
    · exact hnil hempty

/-- The two lists have the same values for every name of a list. -/
def Agree (names : List String) (fields fields' : List (String × Json)) : Prop :=
  ∀ name ∈ names, count name fields = count name fields' ∧
    ∀ j, (name, j) ∈ fields ↔ (name, j) ∈ fields'

theorem Agree.once {names : List String} (h : Agree names fields fields') (hname : name ∈ names) :
    Once name j fields ↔ Once name j fields' := by
  obtain ⟨hcount, hmem⟩ := h name hname
  rw [Once, Once, hcount, hmem]

/-- A record looks at its own names alone, and their order does not count. -/
theorem agree_of_perm {names : List String}
    (h : (fields.filter fun f => names.contains f.1).Perm
      (fields'.filter fun f => names.contains f.1)) :
    Agree names fields fields' := by
  intro name hname
  have hmem : ∀ fs : List (String × Json), ∀ j,
      (name, j) ∈ fs ↔ (name, j) ∈ fs.filter fun f => names.contains f.1 := by
    intro fs j
    simp [List.mem_filter, hname]
  have hcount : ∀ fs : List (String × Json),
      count name fs = count name (fs.filter fun f => names.contains f.1) := by
    intro fs
    rw [← length_occurrences, ← length_occurrences, occurrences, occurrences,
      List.filter_filter]
    congr 2
    refine List.filter_congr fun f _ => ?_
    by_cases hf : f.1 = name <;> simp [hf, hname]
  refine ⟨?_, fun j => ?_⟩
  · rw [hcount fields, hcount fields', count, count]
    exact (h.map _).count_eq name
  · rw [hmem fields, hmem fields', h.mem_iff]

theorem Once.eq_of_mem {j' : Json} (h : Once name j fields) (hmem : (name, j') ∈ fields) :
    j' = j := by
  rw [← mem_occurrences, occurrences_eq_singleton.2 h] at hmem
  exact List.mem_singleton.1 hmem

theorem exists_once (h : count name fields = 1) : ∃ j, Once name j fields := by
  rw [← length_occurrences] at h
  obtain ⟨j, hj⟩ := List.length_eq_one_iff.1 h
  exact ⟨j, occurrences_eq_singleton.1 hj⟩

/-- The fields are those of a part list in its order. A name that the record
    knows has the value of its part, another has any. An object that is the
    value of a part has its own fields as the text lists them. -/
def Shows (room : Nat) (names : List String) (parts : List (String × Tree))
    (fields : List (String × Json)) : Prop :=
  List.Forall₂ (fun p f => p.1 = f.1 ∧ (p.1 ∈ names → p.2.listed? room = some f.2)) parts fields

variable {room : Nat} {names : List String} {parts : List (String × Tree)}

theorem Shows.mapM (h : Shows room names parts fields) :
    ((parts.filter fun p => names.contains p.1).mapM fun (name, t) =>
      (t.listed? room).map (name, ·)) = some (fields.filter fun f => names.contains f.1) := by
  induction h with
  | nil => rfl
  | @cons p f parts fields hhead _ ih =>
    obtain ⟨name, t⟩ := p
    obtain ⟨name', j⟩ := f
    obtain ⟨rfl, hvalue⟩ := hhead
    by_cases hname : names.contains name
    · rw [List.filter_cons, List.filter_cons, if_pos hname, if_pos hname, List.mapM_cons, ih]
      simp [hvalue (List.contains_iff_mem.1 hname)]
    · rw [List.filter_cons, List.filter_cons, if_neg hname, if_neg hname, ih]

theorem exists_shows {l : List (String × Json)}
    (h : ((parts.filter fun p => names.contains p.1).mapM fun (name, t) =>
      (t.listed? room).map (name, ·)) = some l) : ∃ fields, Shows room names parts fields := by
  induction parts generalizing l with
  | nil => exact ⟨[], .nil⟩
  | cons p parts ih =>
    obtain ⟨name, t⟩ := p
    by_cases hname : name ∈ names
    · simp only [List.contains_iff_mem.2 hname, List.filter_cons_of_pos, List.mapM_cons,
        Option.bind_eq_bind, Option.bind_eq_some_iff, Option.map_eq_some_iff] at h
      obtain ⟨f, ⟨j, hj, -⟩, l', htail, -⟩ := h
      obtain ⟨fields, hfields⟩ := ih htail
      exact ⟨(name, j) :: fields, .cons ⟨rfl, fun _ => hj⟩ hfields⟩
    · rw [List.filter_cons_of_neg (by simpa using hname)] at h
      obtain ⟨fields, hfields⟩ := ih h
      -- The tree may hold what is no value at all here, so any value stands for it.
      exact ⟨(name, .null) :: fields, .cons ⟨rfl, fun hmem => absurd hmem hname⟩ hfields⟩

/-- A record is read from the values of the names it knows, and the tree is
    asked for no others. -/
theorem fields?_eq_some {t : Tree} {l : List (String × Json)} :
    fields? room names t = some l ↔ ∃ parts fields, parts? names t = some parts ∧
      Shows (room - 1) names parts fields ∧ (fields.filter fun f => names.contains f.1) = l := by
  simp only [fields?, Option.bind_eq_bind, Option.bind_eq_some_iff]
  constructor
  · rintro ⟨parts, hparts, hl⟩
    obtain ⟨fields, hfields⟩ := exists_shows hl
    exact ⟨parts, fields, hparts, hfields, Option.some.inj (hfields.mapM.symm.trans hl)⟩
  · rintro ⟨parts, fields, hparts, hfields, rfl⟩
    exact ⟨parts, hparts, hfields.mapM⟩

end Record

/-! ## Values -/

theorem Json.asString?_eq_some {j : Json} {s : String} : j.asString? = some s ↔ j = .str s := by
  cases j <;> simp [asString?]

theorem Json.asInt64?_eq_some {j : Json} {i : Int64} :
    j.asInt64? = some i ↔ j = .ofInt64 i := by
  constructor
  · intro h
    cases j <;> simp only [asInt64?, reduceCtorEq] at h
    split at h
    · rename_i n hrange
      obtain rfl := Option.some.inj h
      rw [ofInt64, Int64.toInt_ofInt_of_le hrange.1 hrange.2]
    · cases h
  · rintro rfl
    exact asInt64?_ofInt64 i

theorem Record.uint32?_eq_some {j : Json} {n : UInt32} :
    uint32? j = some n ↔ j = .int n.toNat := by
  constructor
  · intro h
    cases j <;> simp only [uint32?, reduceCtorEq] at h
    split at h
    · rename_i i hrange
      obtain rfl := Option.some.inj h
      have hword : i.toNat < 2 ^ 32 := by omega
      rw [UInt32.toNat_ofNat_of_lt' hword, Int.toNat_of_nonneg hrange.1]
    · cases h
  · rintro rfl
    exact Header.uint32?_ofNat n

theorem Record.case?_eq_some {j : Json} {s : String} :
    case? j = some s ↔ j = .str s ∨ j = .obj [(s, .null)] := by
  unfold case?
  split <;> simp_all

theorem Method.ofName?_eq_some {text : String} {m : Method} :
    ofName? text = some m ↔ text = m.name := by
  constructor
  · intro h
    have hname := List.find?_some h
    exact (beq_iff_eq.1 hname).symm
  · rintro rfl
    exact ofName?_name m

/-- The method is written as its name, or as an object with that name alone and
    `null` under it. -/
def Method.WrittenAs (m : Method) (j : Json) : Prop :=
  j = .str m.name ∨ j = .obj [(m.name, .null)]

namespace Header

open Record

/-- How a text that may be absent is written. -/
def nullable : Option String → Json
  | none => .null
  | some s => .str s

theorem nullableString?_eq_some {j : Json} {s : Option String} :
    nullableString? j = some s ↔ j = nullable s := by
  cases j <;> cases s <;> simp [nullableString?, nullable]

theorem method?_eq_some {j : Json} {m : Method} : method? j = some m ↔ m.WrittenAs j := by
  simp only [method?, Option.bind_eq_some_iff, Record.case?_eq_some, Method.ofName?_eq_some,
    exists_eq_right]
  rfl

/-! ## What a header is read from -/

/-- The field has the value, or it is left out and the value is the one that
    stands for it. -/
def Given (name : String) (j : Json) (isDefault : Prop) (fields : List (String × Json)) : Prop :=
  Once name j fields ∨ count name fields = 0 ∧ isDefault

/-- The fields give the header its values. -/
structure Spells (fields : List (String × Json)) (h : Header) : Prop where
  messageId : Once "messageId" (.str h.messageId) fields
  ns : Once "namespace" (.str h.ns) fields
  method : ∃ j, Once "method" j fields ∧ h.method.WrittenAs j
  payloadVersion :
    Given "payloadVersion" (.int h.payloadVersion.toNat) (h.payloadVersion = 0) fields
  sender : Given "from" (.str h.sender) (h.sender = "") fields
  timestamp : Given "timestamp" (.ofInt64 h.timestamp) (h.timestamp = 0) fields
  timestampMs : Given "timestampMs" (.ofInt64 h.timestampMs) (h.timestampMs = 0) fields
  sign : Given "sign" (.str h.sign) (h.sign = "") fields
  triggerSrc : Given "triggerSrc" (nullable h.triggerSrc) (h.triggerSrc = none) fields

variable {fields fields' : List (String × Json)} {h : Header}

theorem ofFields?_eq_some : ofFields? fields = some h ↔ Spells fields h := by
  obtain ⟨messageId, ns, method, version, sender, timestamp, timestampMs, sign, triggerSrc⟩ := h
  simp only [ofFields?, Option.bind_eq_bind, Option.bind_eq_some_iff, required?_eq_some,
    defaulted?_eq_some, Json.asString?_eq_some, Json.asInt64?_eq_some, uint32?_eq_some,
    method?_eq_some, nullableString?_eq_some, exists_eq_right, Option.pure_def,
    Option.some.injEq, mk.injEq]
  constructor
  · rintro ⟨_, h₁, _, h₂, _, h₃, _, h₄, _, h₅, _, h₆, _, h₇, _, h₈, _, h₉,
      rfl, rfl, rfl, rfl, rfl, rfl, rfl, rfl, rfl⟩
    exact ⟨h₁, h₂, h₃, h₄, h₅, h₆, h₇, h₈, h₉⟩
  · rintro ⟨h₁, h₂, h₃, h₄, h₅, h₆, h₇, h₈, h₉⟩
    exact ⟨_, h₁, _, h₂, _, h₃, _, h₄, _, h₅, _, h₆, _, h₇, _, h₈, _, h₉,
      rfl, rfl, rfl, rfl, rfl, rfl, rfl, rfl, rfl⟩

theorem Spells.congr (hagree : Agree fieldNames fields fields') (hspells : Spells fields h) :
    Spells fields' h := by
  have honce : ∀ name ∈ fieldNames, ∀ j, Once name j fields → Once name j fields' :=
    fun name hname j => (hagree.once hname).1
  have hgiven : ∀ name ∈ fieldNames, ∀ j isDefault, Given name j isDefault fields →
      Given name j isDefault fields' := by
    rintro name hname j isDefault (hgiven | ⟨hcount, hdefault⟩)
    · exact .inl (honce name hname j hgiven)
    · exact .inr ⟨(hagree name hname).1 ▸ hcount, hdefault⟩
  obtain ⟨h₁, h₂, ⟨j, h₃, hmethod⟩, h₄, h₅, h₆, h₇, h₈, h₉⟩ := hspells
  refine ⟨?_, ?_, ⟨j, honce _ (by decide) j h₃, hmethod⟩, ?_, ?_, ?_, ?_, ?_, ?_⟩ <;>
    first | exact honce _ (by decide) _ ‹_› | exact hgiven _ (by decide) _ _ ‹_›

/-- The fields that a header knows decide what is read, in whatever order. -/
theorem ofFields?_congr (hagree : Agree fieldNames fields fields') :
    ofFields? fields = ofFields? fields' := by
  have hsymm : Agree fieldNames fields' fields := fun name hname =>
    ⟨(hagree name hname).1.symm, fun j => ((hagree name hname).2 j).symm⟩
  refine Option.ext fun h => ?_
  rw [ofFields?_eq_some, ofFields?_eq_some]
  exact ⟨.congr hagree, .congr hsymm⟩

/-! ## The grammar -/

/-- What a field may hold. -/
inductive FieldKind where
  | text
  | method
  | word
  | integer
  | textOrNull

/-- The values of a kind. -/
def FieldKind.Admits : FieldKind → Json → Prop
  | .text, j => ∃ s, j = .str s
  | .method, j => ∃ m : Method, m.WrittenAs j
  | .word, j => ∃ i : Int, j = .int i ∧ 0 ≤ i ∧ i < 2 ^ 32
  | .integer, j => ∃ i : Int, j = .int i ∧ -2 ^ 63 ≤ i ∧ i < 2 ^ 63
  | .textOrNull, j => j = .null ∨ ∃ s, j = .str s

/-- What is asked of a field. -/
structure Rule where
  name : String
  required : Bool
  kind : FieldKind

/-- The field occurs once, or at most once if it may be left out, and what
    stands in it is of its kind. -/
def Rule.Obeyed (r : Rule) (fields : List (String × Json)) : Prop :=
  (if r.required then count r.name fields = 1 else count r.name fields ≤ 1) ∧
    ∀ j, (r.name, j) ∈ fields → r.kind.Admits j

/-- The fields that a header knows. -/
def rules : List Rule :=
  [⟨"messageId", true, .text⟩, ⟨"namespace", true, .text⟩, ⟨"method", true, .method⟩,
    ⟨"payloadVersion", false, .word⟩, ⟨"from", false, .text⟩, ⟨"timestamp", false, .integer⟩,
    ⟨"timestampMs", false, .integer⟩, ⟨"sign", false, .text⟩, ⟨"triggerSrc", false, .textOrNull⟩]

/-- The fields obey every rule. Of fields without a rule nothing is asked. -/
def Grammatical (fields : List (String × Json)) : Prop := ∀ r ∈ rules, r.Obeyed fields

theorem obeyed_of_once {r : Rule} {j : Json} (honce : Once r.name j fields)
    (hadmits : r.kind.Admits j) : r.Obeyed fields := by
  refine ⟨?_, fun j' hj' => honce.eq_of_mem hj' ▸ hadmits⟩
  split
  · exact honce.1
  · exact honce.1.le

theorem obeyed_of_given {r : Rule} {j : Json} {isDefault : Prop} (hoptional : r.required = false)
    (hgiven : Given r.name j isDefault fields) (hadmits : r.kind.Admits j) : r.Obeyed fields := by
  rcases hgiven with honce | ⟨hcount, -⟩
  · exact obeyed_of_once honce hadmits
  · have hnone : occurrences r.name fields = [] := occurrences_eq_nil.2 hcount
    refine ⟨by simp [hoptional, hcount], fun j' hj' => ?_⟩
    rw [← mem_occurrences, hnone] at hj'
    cases hj'

theorem Rule.Obeyed.once {r : Rule} (h : r.Obeyed fields) (hrequired : r.required = true) :
    ∃ j, Once r.name j fields ∧ r.kind.Admits j := by
  obtain ⟨hcount, hadmits⟩ := h
  rw [if_pos hrequired] at hcount
  obtain ⟨j, honce⟩ := exists_once hcount
  exact ⟨j, honce, hadmits j honce.2⟩

theorem Rule.Obeyed.given {α : Type} {r : Rule} (h : r.Obeyed fields)
    (hoptional : r.required = false) {write : α → Json}
    (hwrite : ∀ j, r.kind.Admits j → ∃ a, j = write a) (default : α) :
    ∃ a, Given r.name (write a) (a = default) fields := by
  obtain ⟨hcount, hadmits⟩ := h
  rw [hoptional] at hcount
  rcases Nat.le_one_iff_eq_zero_or_eq_one.1 hcount with hzero | hone
  · exact ⟨default, .inr ⟨hzero, rfl⟩⟩
  · obtain ⟨j, honce⟩ := exists_once hone
    obtain ⟨a, rfl⟩ := hwrite j (hadmits j honce.2)
    exact ⟨a, .inl honce⟩

theorem admits_word {j : Json} : FieldKind.word.Admits j ↔ ∃ n : UInt32, j = .int n.toNat := by
  constructor
  · rintro ⟨i, rfl, hnonneg, hbound⟩
    have hword : i.toNat < 2 ^ 32 := by omega
    refine ⟨UInt32.ofNat i.toNat, ?_⟩
    rw [UInt32.toNat_ofNat_of_lt' hword, Int.toNat_of_nonneg hnonneg]
  · rintro ⟨n, rfl⟩
    have hword := n.toNat_lt
    exact ⟨_, rfl, by omega, by omega⟩

theorem admits_integer {j : Json} : FieldKind.integer.Admits j ↔ ∃ i : Int64, j = .ofInt64 i := by
  constructor
  · rintro ⟨i, rfl, hmin, hbound⟩
    exact ⟨Int64.ofInt i, by rw [Json.ofInt64, Int64.toInt_ofInt_of_le hmin hbound]⟩
  · rintro ⟨i, rfl⟩
    exact ⟨_, rfl, Int64.le_toInt i, Int64.toInt_lt i⟩

theorem admits_textOrNull {j : Json} : FieldKind.textOrNull.Admits j ↔ ∃ s, j = nullable s := by
  constructor
  · rintro (rfl | ⟨s, rfl⟩)
    · exact ⟨none, rfl⟩
    · exact ⟨some s, rfl⟩
  · rintro ⟨_ | s, rfl⟩
    · exact .inl rfl
    · exact .inr ⟨s, rfl⟩

theorem grammatical_of_spells (hspells : Spells fields h) : Grammatical fields := by
  obtain ⟨h₁, h₂, ⟨_, h₃, hmethod⟩, h₄, h₅, h₆, h₇, h₈, h₉⟩ := hspells
  simp only [Grammatical, rules, List.forall_mem_cons, List.not_mem_nil, false_imp_iff,
    implies_true, and_true]
  exact ⟨obeyed_of_once h₁ ⟨_, rfl⟩, obeyed_of_once h₂ ⟨_, rfl⟩, obeyed_of_once h₃ ⟨_, hmethod⟩,
    obeyed_of_given rfl h₄ (admits_word.2 ⟨_, rfl⟩), obeyed_of_given rfl h₅ ⟨_, rfl⟩,
    obeyed_of_given rfl h₆ (admits_integer.2 ⟨_, rfl⟩),
    obeyed_of_given rfl h₇ (admits_integer.2 ⟨_, rfl⟩), obeyed_of_given rfl h₈ ⟨_, rfl⟩,
    obeyed_of_given rfl h₉ (admits_textOrNull.2 ⟨_, rfl⟩)⟩

theorem spells_of_grammatical (hfields : Grammatical fields) : ∃ h, Spells fields h := by
  simp only [Grammatical, rules, List.forall_mem_cons, List.not_mem_nil, false_imp_iff,
    implies_true, and_true] at hfields
  obtain ⟨h₁, h₂, h₃, h₄, h₅, h₆, h₇, h₈, h₉⟩ := hfields
  obtain ⟨_, honce₁, messageId, rfl⟩ := h₁.once rfl
  obtain ⟨_, honce₂, ns, rfl⟩ := h₂.once rfl
  obtain ⟨j, honce₃, method, hmethod⟩ := h₃.once rfl
  obtain ⟨version, hversion⟩ := h₄.given rfl (fun _ => admits_word.1) 0
  obtain ⟨sender, hsender⟩ := h₅.given rfl (fun _ => id) ""
  obtain ⟨timestamp, htimestamp⟩ := h₆.given rfl (fun _ => admits_integer.1) 0
  obtain ⟨timestampMs, htimestampMs⟩ := h₇.given rfl (fun _ => admits_integer.1) 0
  obtain ⟨sign, hsign⟩ := h₈.given rfl (fun _ => id) ""
  obtain ⟨triggerSrc, htriggerSrc⟩ := h₉.given rfl (fun _ => admits_textOrNull.1) none
  exact ⟨⟨messageId, ns, method, version, sender, timestamp, timestampMs, sign, triggerSrc⟩,
    honce₁, honce₂, ⟨j, honce₃, hmethod⟩, hversion, hsender, htimestamp, htimestampMs, hsign,
    htriggerSrc⟩

/-- Whether the source of the trigger is `null` or missing makes no difference. -/
theorem ofFields?_null_triggerSrc (hmissing : count "triggerSrc" fields = 0) :
    ofFields? (("triggerSrc", .null) :: fields) = ofFields? fields := by
  have hnone : occurrences "triggerSrc" fields = [] := occurrences_eq_nil.2 hmissing
  have hother : ∀ name ≠ "triggerSrc",
      occurrences name (("triggerSrc", .null) :: fields) = occurrences name fields :=
    fun name hname => occurrences_cons_of_ne hname.symm
  have hsource : defaulted? "triggerSrc" none nullableString? (("triggerSrc", .null) :: fields) =
      defaulted? "triggerSrc" none nullableString? fields := by
    rw [defaulted?, defaulted?, occurrences_cons_self, hnone]
    rfl
  -- Each of the other eight fields is read from its own occurrences.
  simp (disch := decide) only [ofFields?, hsource]
  simp (disch := decide) only [required?, defaulted?, hother]

/-- A header is read from a tree as from the fields that the tree gives it. -/
theorem ofTree?_eq_some {room : Nat} {t : Tree} :
    ofTree? room t = some h ↔ ∃ parts fields, parts? fieldNames t = some parts ∧
      Shows (room - 1) fieldNames parts fields ∧ ofFields? fields = some h := by
  have hknown : ∀ fields : List (String × Json),
      ofFields? (fields.filter fun f => fieldNames.contains f.1) = ofFields? fields := by
    intro fields
    apply ofFields?_congr
    apply agree_of_perm
    simp [List.filter_filter]
  simp only [ofTree?, Option.bind_eq_bind, Option.bind_eq_some_iff, fields?_eq_some]
  constructor
  · rintro ⟨_, ⟨parts, fields, hparts, hshows, rfl⟩, hread⟩
    exact ⟨parts, fields, hparts, hshows, hknown fields ▸ hread⟩
  · rintro ⟨parts, fields, hparts, hshows, hread⟩
    exact ⟨_, ⟨parts, fields, hparts, hshows, rfl⟩, (hknown fields).trans hread⟩

/-- A header is read from the fields that obey the grammar and from no others, and its values
    are theirs. Nothing else counts: not the order, no field without a rule, and not whether the
    source of the trigger is `null` or missing. Of the tree of an object no more is read than
    the values of the fields with rules, of which one that is an object itself, as the method
    may be, is read as its fields are listed. -/
theorem decodes_grammar :
    (∀ fields : List (String × Json),
      ((∃ h, ofFields? fields = some h) ↔ Grammatical fields) ∧
      (∀ h, ofFields? fields = some h ↔ Spells fields h) ∧
      (∀ fields', (fields.filter fun f => fieldNames.contains f.1).Perm
          (fields'.filter fun f => fieldNames.contains f.1) →
        ofFields? fields = ofFields? fields') ∧
      (count "triggerSrc" fields = 0 →
        ofFields? (("triggerSrc", .null) :: fields) = ofFields? fields)) ∧
    ∀ room members h, ofTree? room (.obj members) = some h ↔
      ∃ parts fields, (Tree.obj members).parts? = some parts ∧
        Shows (room - 1) fieldNames parts fields ∧ ofFields? fields = some h := by
  refine ⟨fun fields => ⟨?accepts, fun h => ofFields?_eq_some, fun fields' hperm => ?order,
    ofFields?_null_triggerSrc⟩, fun room members h => ofTree?_eq_some⟩
  case accepts =>
    constructor
    · rintro ⟨h, hread⟩
      exact grammatical_of_spells (ofFields?_eq_some.1 hread)
    · intro hfields
      obtain ⟨h, hspells⟩ := spells_of_grammatical hfields
      exact ⟨h, ofFields?_eq_some.2 hspells⟩
  case order => exact ofFields?_congr (agree_of_perm hperm)

/-- The fields of a push out of order, with a field in between that no header knows and that
    occurs twice. -/
def disordered : List (String × Json) :=
  [("timestamp", .int (-5)), ("extra", .arr []), ("method", .str "PUSH"), ("namespace", .str "x"),
    ("extra", .null), ("messageId", .str "1")]

theorem decodes_grammar_disordered :
    Grammatical disordered ∧ count "triggerSrc" disordered = 0 ∧
      ofFields? (("triggerSrc", .null) :: disordered) =
        ofFields? [("messageId", .str "1"), ("namespace", .str "x"), ("method", .str "PUSH"),
          ("timestamp", .int (-5))] := by
  obtain ⟨haccepts, -, horder, hnull⟩ := decodes_grammar.1 disordered
  have hread : ofFields? disordered =
      some ⟨"1", "x", .push, 0, "", -5, 0, "", none⟩ := by rfl
  have hperm : (disordered.filter fun f => fieldNames.contains f.1).Perm
      ([("messageId", .str "1"), ("namespace", .str "x"), ("method", .str "PUSH"),
        ("timestamp", .int (-5))].filter fun f => fieldNames.contains f.1) :=
    (List.reverse_perm _).symm
  have hmissing : count "triggerSrc" disordered = 0 := by decide
  exact ⟨haccepts.1 ⟨_, hread⟩, hmissing, (hnull hmissing).trans (horder _ hperm)⟩

/-- A push whose method is an object with the name of the method alone. -/
def taggedText : String :=
  "\x7b\"header\":\x7b\"messageId\":\"1\",\"namespace\":\"n\"," ++
    "\"method\":\x7b\"PUSH\":null\x7d\x7d\x7d"

def tagged : List (String × Json) :=
  [("messageId", .str "1"), ("namespace", .str "n"), ("method", .obj [("PUSH", .null)])]

/-- The name itself is not asked of a method: a header is read that has none in its place. -/
theorem decodes_tagged :
    Message.parse taggedText = .ok ⟨⟨"1", "n", .push, 0, "", 0, 0, "", none⟩, .null⟩ ∧
      ¬((∃ h, ofFields? tagged = some h) ↔
        Grammatical tagged ∧ ∃ m : Method, ("method", .str m.name) ∈ tagged) := by
  have hread : ofFields? tagged = some ⟨"1", "n", .push, 0, "", 0, 0, "", none⟩ := by rfl
  have hnone : ¬∃ m : Method, ("method", .str m.name) ∈ tagged := by
    rintro ⟨m, hm⟩
    simp [tagged] at hm
  exact ⟨by cbv, fun hiff => hnone (hiff.1 ⟨_, hread⟩).2⟩

end Header

end Appliance
