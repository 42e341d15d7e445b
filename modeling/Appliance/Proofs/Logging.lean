-- SUMMARY: What a log tells after any row of calls: an entry for each call, which depends on earlier responses of its namespace alone.

import Appliance.MessageLog
import Appliance.Proofs.Spelling

namespace Appliance

/-! ## Texts of one line

The text of a value has no control characters, whatever its strings hold. -/

/-- No character is a control character of ASCII. -/
def Visible (cs : List Char) : Prop := ∀ c ∈ cs, 0x20 ≤ c.toNat

namespace Visible

variable {c : Char} {cs ds : List Char}

@[simp] theorem nil : Visible [] := List.forall_mem_nil _

@[simp] theorem cons_iff : Visible (c :: cs) ↔ 0x20 ≤ c.toNat ∧ Visible cs :=
  List.forall_mem_cons

@[simp] theorem append_iff : Visible (cs ++ ds) ↔ Visible cs ∧ Visible ds :=
  List.forall_mem_append

theorem of_isDigit (h : ∀ c ∈ cs, c.isDigit = true) : Visible cs := by
  intro c hc
  have hdigit := (Char.isDigit_iff_toNat.1 (h c hc)).1
  exact le_trans (by decide) hdigit

theorem toDigits (n : Nat) : Visible (Nat.toDigits 10 n) :=
  of_isDigit fun _ => Numeral.isDigit_of_mem_toDigits

theorem replicate (n : Nat) (h : 0x20 ≤ c.toNat) : Visible (List.replicate n c) := by
  intro d hd
  rw [List.eq_of_mem_replicate hd]
  exact h

theorem sublist (h : Visible cs) (hsub : ds.Sublist cs) : Visible ds :=
  fun c hc => h c (hsub.subset hc)

end Visible

namespace Decimal

theorem visible_ofUnits (k : Int) (d : Nat) : Visible (ofUnits k d).digits := by
  refine (Visible.toDigits d).sublist ?_
  have hsub := (List.dropWhile_sublist (l := (Nat.toDigits 10 d).reverse) (· = '0')).reverse
  rwa [List.reverse_reverse] at hsub

theorem visible_shortest (b : Binary) : Visible (shortest b).digits := by
  unfold shortest
  dsimp only
  cases hfound : (List.range 17).findSome? _ with
  | none => simp
  | some d =>
    obtain ⟨count, -, hcount⟩ := List.exists_of_findSome?_eq_some hfound
    obtain ⟨n, -, rfl⟩ := Option.map_eq_some_iff.1 hcount
    exact visible_ofUnits _ n

namespace Layout

theorem visible_exponentPart (l : Layout) (e : Int) : Visible (l.exponentPart e) := by
  unfold exponentPart
  split_ifs <;> simp [Visible.toDigits]

theorem visible_positional {digits : List Char} (h : Visible digits) (whole : Int) :
    Visible (positional digits whole) := by
  have hzeros : ∀ n, Visible (List.replicate n '0') := fun n => .replicate n (by decide)
  have htake := h.sublist (List.take_sublist whole.toNat digits)
  have hdrop := h.sublist (List.drop_sublist whole.toNat digits)
  unfold positional
  dsimp only
  split_ifs <;> simp [hzeros, htake, hdrop]

theorem visible_render (l : Layout) {d : Decimal} (h : Visible d.digits) :
    Visible (l.render d) := by
  unfold render
  split_ifs
  · exact visible_positional h _
  · split
    · exact .nil
    · rename_i hdigits
      rw [hdigits] at h
      simpa [visible_exponentPart] using h
    · rename_i hdigits
      rw [hdigits] at h
      simpa [visible_exponentPart] using h

theorem visible_renderFloat (l : Layout) (x : Float) : Visible (l.renderFloat x) := by
  have hmagnitude : Visible (if (Binary.ofFloat x).mantissa = 0 then ['0', '.', '0']
      else l.render (shortest (Binary.ofFloat x))) := by
    split_ifs
    · simp
    · exact visible_render l (visible_shortest _)
  unfold renderFloat
  dsimp only
  split_ifs <;> simp_all

end Layout

end Decimal

namespace Json

theorem visible_hexDigit {n : Nat} (h : n < 16) : 0x20 ≤ (hexDigit n).toNat := by
  interval_cases n <;> decide

theorem visible_escape (c : Char) : Visible (escape c) := by
  unfold escape
  split_ifs <;> simp only [Visible.cons_iff, Visible.nil, and_true] <;> try decide
  · have hfirst := visible_hexDigit (n := c.toNat / 16) (by omega)
    have hsecond := visible_hexDigit (n := c.toNat % 16) (by omega)
    exact ⟨by decide, by decide, by decide, by decide, hfirst, hsecond⟩
  · omega

theorem visible_quote (s : String) : Visible (quote s) := by
  have hescaped : Visible (s.toList.flatMap escape) := by
    intro d hd
    obtain ⟨c, -, hd⟩ := List.mem_flatMap.1 hd
    exact visible_escape c d hd
  simpa [quote] using hescaped

theorem visible_writeInt (i : Int) : Visible (writeInt i) := by
  unfold writeInt
  split_ifs <;> simp [Visible.toDigits]

theorem visible_writeFloat (x : Float) : Visible (writeFloat x) := by
  unfold writeFloat
  split_ifs
  · exact Decimal.Layout.visible_renderFloat _ x
  · simp

mutual

theorem visible_write : ∀ j : Json, Visible j.write
  | .null | .bool true | .bool false => by simp [write]
  | .int i => visible_writeInt i
  | .float x => visible_writeFloat x
  | .str s => visible_quote s
  | .arr items => by simpa [write] using visible_writeItems items
  | .obj fields => by simpa [write] using visible_writeFields fields

theorem visible_writeItems : ∀ js : List Json, Visible (writeItems js)
  | [] => .nil
  | [j] => visible_write j
  | j :: j' :: js => by
    simpa [writeItems] using ⟨visible_write j, visible_writeItems (j' :: js)⟩

theorem visible_writeFields : ∀ fs : List (String × Json), Visible (writeFields fs)
  | [] => .nil
  | [(name, j)] => by simpa [writeFields] using ⟨visible_quote name, visible_write j⟩
  | (name, j) :: f :: fs => by
    simpa [writeFields] using
      ⟨visible_quote name, visible_write j, visible_writeFields (f :: fs)⟩

end

end Json

namespace MessageLog

/-! ## Calls -/

/-- What is asked of a log: to log a request or a response. -/
inductive Call where
  | request (m : Message)
  | response (m : Message)

namespace Call

def message : Call → Message
  | request m | response m => m

def isRequest : Call → Bool
  | request _ => true
  | response _ => false

/-- The call logs a response about the namespace. -/
def answers (ns : String) (c : Call) : Bool := !c.isRequest && c.message.header.ns == ns

def run (log : MessageLog) : Call → MessageLog
  | request m => log.logRequest m
  | response m => log.logResponse m

end Call

/-- The entry is for a response about the namespace. -/
def Entry.answers (ns : String) (e : Entry) : Bool := !e.isRequest && e.ns == ns

/-- The log after a row of calls. -/
def ofCalls (mode : Mode) (calls : List Call) : MessageLog := calls.foldl Call.run (.empty mode)

/-! ## What is told of a call -/

/-- The payload of the last response about a namespace. -/
def latest? (ns : String) (calls : List Call) : Option Json :=
  (calls.filter (Call.answers ns)).getLast?.map (·.message.payload)

/-- What is told of a response: the first of its namespace in full, a later one
    by what differs from the latest before it. -/
def told (earlier : List Call) (m : Message) : Content :=
  match latest? m.header.ns earlier with
  | none => .first m.payload
  | some old => .changes (Difference.between old m.payload)

namespace Call

/-- What is told of a call that is made after earlier ones. -/
def content (mode : Mode) (earlier : List Call) : Call → Content
  | request m => .payload m.payload
  | response m =>
    match mode with
    | .full => .payload m.payload
    | .diffed => told earlier m

/-- The entry of a call that is made after earlier ones. -/
def entry (mode : Mode) (earlier : List Call) (c : Call) : Entry :=
  MessageLog.entry c.isRequest c.message (c.content mode earlier)

/-- The line of a call that is made after earlier ones: which way the message
    went, the names in its header, and the payload, with a mark if it is the first
    that is told of, or the changes in it. -/
def line (mode : Mode) (earlier : List Call) (c : Call) : Json :=
  let dir : Json := .str (if c.isRequest then "req" else "resp")
  let messageId : Json := .str c.message.header.messageId
  let method : Json := .str c.message.header.method.name
  let ns : Json := .str c.message.header.ns
  match c.content mode earlier with
  | .payload p =>
    .obj [("dir", dir), ("messageId", messageId), ("method", method), ("namespace", ns),
      ("payload", p)]
  | .first p =>
    .obj [("dir", dir), ("full", .bool true), ("messageId", messageId), ("method", method),
      ("namespace", ns), ("payload", p)]
  | .changes ds =>
    .obj [("changes", .arr (ds.map fun d =>
        .obj [("new", d.new), ("old", d.old), ("path", .str (Step.path "" d.route))])),
      ("dir", dir), ("messageId", messageId), ("method", method), ("namespace", ns)]

theorem toJson_entry (mode : Mode) (earlier : List Call) (c : Call) :
    (c.entry mode earlier).toJson = c.line mode earlier := by
  have hheader : compare "namespace" "dir" = .gt ∧ compare "method" "dir" = .gt ∧
      compare "method" "namespace" = .lt ∧ compare "messageId" "dir" = .gt ∧
      compare "messageId" "method" = .lt := by decide
  have hpayload : compare "payload" "dir" = .gt ∧ compare "payload" "messageId" = .gt ∧
      compare "payload" "method" = .gt ∧ compare "payload" "namespace" = .gt := by decide
  have hfull : compare "full" "dir" = .gt ∧ compare "full" "messageId" = .lt ∧
      compare "payload" "full" = .gt := by decide
  have hchanges : compare "changes" "dir" = .lt ∧ compare "old" "path" = .lt ∧
      compare "new" "old" = .lt := by decide
  unfold line entry MessageLog.entry
  cases c.content mode earlier <;>
    simp [Entry.toJson, Content.toFields, Json.ofFields, Keyed.put, hheader, hpayload, hfull,
      hchanges]

end Call

/-! ## One call more -/

section Snoc

variable (mode : Mode) (calls : List Call) (c : Call)

theorem ofCalls_snoc : ofCalls mode (calls ++ [c]) = c.run (ofCalls mode calls) := by
  simp [ofCalls]

theorem mode_ofCalls : (ofCalls mode calls).mode = mode := by
  induction calls using List.reverseRecOn with
  | nil => rfl
  | append_singleton calls c ih =>
    rw [ofCalls_snoc]
    cases c <;> exact ih

theorem latest?_snoc (ns : String) : latest? ns (calls ++ [c]) =
    if c.answers ns then some c.message.payload else latest? ns calls := by
  unfold latest?
  rw [List.filter_append, List.filter_singleton]
  cases c.answers ns <;> simp

/-- A log of differences holds for each namespace the payload of its last response. -/
theorem get?_previous (ns : String) :
    (ofCalls .diffed calls).previous.get? ns = latest? ns calls := by
  induction calls using List.reverseRecOn with
  | nil => rfl
  | append_singleton calls c ih =>
    rw [ofCalls_snoc, latest?_snoc, ← ih]
    cases c with
    | request m => rfl
    | response m =>
      have hprevious : (Call.run (ofCalls .diffed calls) (.response m)).previous =
          (ofCalls .diffed calls).previous.insert m.header.ns m.payload := by
        simp only [Call.run, logResponse, mode_ofCalls]
      have hanswers : (Call.response m).answers ns = (ns == m.header.ns) := Bool.beq_comm
      rw [hprevious, Table.get?_insert, hanswers]
      rfl

theorem contentOf_ofCalls (m : Message) :
    (ofCalls mode calls).contentOf m = (Call.response m).content mode calls := by
  cases mode with
  | full => rw [contentOf, mode_ofCalls]; rfl
  | diffed =>
    cases hlatest : latest? m.header.ns calls <;>
      simp only [contentOf, mode_ofCalls, get?_previous, Call.content, told, hlatest]

theorem entries_snoc : (ofCalls mode (calls ++ [c])).entries =
    (ofCalls mode calls).entries ++ [c.entry mode calls] := by
  rw [ofCalls_snoc]
  cases c with
  | request m => rfl
  | response m =>
    simp only [Call.run, logResponse, contentOf_ofCalls]
    rfl

end Snoc

/-! ## Rows of calls -/

theorem getElem?_entries (mode : Mode) (calls : List Call) (i : Nat) :
    (ofCalls mode calls).entries[i]? = calls[i]?.map (Call.entry mode (calls.take i)) := by
  have hlength : ∀ calls, (ofCalls mode calls).entries.length = calls.length := fun calls => by
    induction calls using List.reverseRecOn with
    | nil => rfl
    | append_singleton calls c ih => simp [entries_snoc, ih]
  induction calls using List.reverseRecOn with
  | nil => rfl
  | append_singleton calls c ih =>
    rw [entries_snoc]
    rcases lt_trichotomy i calls.length with hlt | rfl | hgt
    · rw [List.getElem?_append_left (by rwa [hlength]), List.getElem?_append_left hlt,
        List.take_append_of_le_length hlt.le, ih]
    · simp [hlength]
    · rw [List.getElem?_eq_none (by simpa [hlength] using hgt),
        List.getElem?_eq_none (by simpa using hgt)]
      rfl

theorem getElem?_lines (mode : Mode) (calls : List Call) (i : Nat) :
    (ofCalls mode calls).lines[i]? =
      calls[i]?.map fun c => (c.line mode (calls.take i)).render := by
  rw [lines, List.getElem?_map, getElem?_entries, Option.map_map]
  refine Option.map_congr fun c _ => ?_
  rw [Function.comp_apply, Call.toJson_entry]

theorem contents_full (calls : List Call) :
    (ofCalls .full calls).entries.map
    (·.content) = calls.map fun c => .payload c.message.payload := by
  induction calls using List.reverseRecOn with
  | nil => rfl
  | append_singleton calls c ih =>
    rw [entries_snoc, List.map_append, List.map_append, ih]
    cases c <;> rfl

/-! ### Responses of one namespace -/

theorem latest?_filter (ns : String) (calls : List Call) :
    latest? ns (calls.filter (Call.answers ns)) = latest? ns calls := by
  simp [latest?]

/-- What is told of a response depends on earlier responses of its namespace alone. -/
theorem entry_filter {ns : String} {c : Call} (hc : c.answers ns = true) (mode : Mode)
    (earlier : List Call) :
    c.entry mode (earlier.filter (Call.answers ns)) = c.entry mode earlier := by
  cases c with
  | request m => cases hc
  | response m =>
    obtain rfl : m.header.ns = ns := eq_of_beq hc
    simp only [Call.entry, Call.content, told, latest?_filter]

/-- The entries for responses of a namespace are those of a log of nothing else. -/
theorem entries_filter (mode : Mode) (calls : List Call) (ns : String) :
    (ofCalls mode calls).entries.filter (Entry.answers ns) =
      (ofCalls mode (calls.filter (Call.answers ns))).entries := by
  induction calls using List.reverseRecOn with
  | nil => rfl
  | append_singleton calls c ih =>
    have hentry : (c.entry mode calls).answers ns = c.answers ns := by
      cases c <;> rfl
    rw [entries_snoc, List.filter_append, List.filter_singleton, hentry, List.filter_append,
      List.filter_singleton, ih]
    cases hc : c.answers ns with
    | false => simp
    | true => simp [entries_snoc, entry_filter hc]

/-- A log tells of all calls in their order, a line each: the line of a call
    tells its payload, or, in a log of differences, what differs from the latest
    response of its namespace before it, if there was one. What is told of the
    responses of a namespace is what a log of these alone tells. -/
theorem ofCalls_tells (mode : Mode) (calls : List Call) (ns : String) :
    (∀ i : Nat, (ofCalls mode calls).entries[i]? = calls[i]?.map (Call.entry mode (calls.take i)) ∧
        (ofCalls mode calls).lines[i]? =
          calls[i]?.map fun c => (c.line mode (calls.take i)).render) ∧
      Visible ((ofCalls mode calls).lines.flatMap String.toList) ∧
      (ofCalls mode calls).entries.filter (Entry.answers ns) =
        (ofCalls mode (calls.filter (Call.answers ns))).entries ∧
      (ofCalls .full calls).entries.map (·.content) =
        calls.map fun c => .payload c.message.payload := by
  refine ⟨fun i => ⟨getElem?_entries mode calls i, getElem?_lines mode calls i⟩, ?_,
    entries_filter mode calls ns, contents_full calls⟩
  intro c hc
  obtain ⟨line, hline, hc⟩ := List.mem_flatMap.1 hc
  obtain ⟨e, -, rfl⟩ := List.mem_map.1 hline
  rw [Json.render, String.toList_ofList] at hc
  exact Json.visible_write _ c hc

-- Neither a request nor another namespace comes between two responses of one namespace.
example :
    let about (ns : Namespace) (payload : Json) : Message :=
      ⟨⟨"", ns.name, .push, 0, "", 0, 0, "", none⟩, payload⟩
    (ofCalls .diffed [.response (about .light (.int 1)), .request (about .light (.int 2)),
        .response (about .mp3 (.int 3)), .response (about .light (.int 4))]).entries.map
        (·.content) =
      [.first (.int 1), .payload (.int 2), .first (.int 3),
        .changes [⟨[], .int 1, .int 4⟩]] := by
  cbv

end MessageLog

end Appliance
