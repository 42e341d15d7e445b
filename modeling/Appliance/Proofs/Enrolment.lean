-- SUMMARY: Whom a dispatcher finds, told from the calls that were made to it and their order.

import Appliance.Proofs.Readers

namespace Appliance

namespace Dispatcher

/-! ## Calls -/

/-- What is asked of a dispatcher. -/
inductive Call where
  | register (ns : Namespace) (id : EntityId)
  | unregister (ns : Namespace) (id : EntityId)
  | registerCustom (ns : Namespace)
deriving DecidableEq

def Call.run (s : Dispatcher) : Call → Dispatcher
  | .register ns id => (s.register ns id).2
  | .unregister ns id => s.unregister ns id
  | .registerCustom ns => (s.registerCustom ns).2

/-- The call concerns the items of a namespace for a channel. -/
def Call.Concerns (ns : Namespace) (c : Channel) : Call → Prop
  | .register ns' id | .unregister ns' id => ns = ns' ∧ id.channel? = some c
  | .registerCustom ns' => ns = ns'

/-- The dispatcher of a device with an ability after a row of calls. -/
def called (ability : Table Namespace Unit) (calls : List Call) : Dispatcher :=
  calls.foldl Call.run (.ofAbility ability)

/-! ## What calls leave

A registration lasts until it is taken back. To register an id again while its
registration lasts is no news: its place is that of the first time. -/

section History

variable (calls : List Call) (ns : Namespace)

/-- The namespace is open to registrations: the device has it, and it was never
    given a reader of its own. -/
def Open (ability : Table Namespace Unit) : Prop :=
  ability.contains ns = true ∧ Call.registerCustom ns ∉ calls

/-- The id was registered for the namespace, and not taken back later. -/
def Kept (id : EntityId) : Prop :=
  ∃ n : Nat, calls[n]? = some (Call.register ns id) ∧
    ∀ m, n < m → calls[m]? ≠ some (Call.unregister ns id)

/-- The call at a time is the first that registers the id after it was last taken back. -/
structure Since (id : EntityId) (n : Nat) : Prop where
  registered : calls[n]? = some (Call.register ns id)
  kept : ∀ m, n < m → calls[m]? ≠ some (Call.unregister ns id)
  first : ∀ k, k < n → calls[k]? = some (Call.register ns id) →
    ∃ m, k < m ∧ calls[m]? = some (Call.unregister ns id)

/-- The ids of a channel whose registrations last, in the order in which these began. -/
structure Roll (c : Channel) (ids : List EntityId) : Prop where
  nodup : ids.Nodup
  mem : ∀ id, id ∈ ids ↔ id.channel? = some c ∧ Kept calls ns id
  ordered : ∃ time : EntityId → Nat, (∀ id ∈ ids, Since calls ns id (time id)) ∧
    ids.Pairwise fun id id' => time id < time id'

end History

/-! ### One call more -/

section Snoc

variable {calls : List Call} {call : Call} {ns : Namespace} {id : EntityId} {c : Channel}
  {ids : List EntityId}

theorem getElem?_snoc (calls : List Call) (call : Call) (n : Nat) :
    (calls ++ [call])[n]? = if n = calls.length then some call else calls[n]? := by
  grind

theorem Since.lt_length {n : Nat} (h : Since calls ns id n) : n < calls.length := by
  have hregistered := h.registered
  grind

theorem kept_snoc : Kept (calls ++ [call]) ns id ↔
    call = .register ns id ∨ call ≠ .unregister ns id ∧ Kept calls ns id := by
  unfold Kept
  constructor
  · rintro ⟨n, hn, hlater⟩
    rw [getElem?_snoc] at hn
    split at hn
    · exact .inl (Option.some.inj hn)
    · rename_i hne
      have hlt : n < calls.length := by grind
      refine .inr ⟨fun hcall => ?_, n, hn, fun m hm => ?_⟩
      · exact hlater calls.length hlt (by simp [hcall])
      · have := hlater m hm
        grind
  · rintro (rfl | ⟨hcall, n, hn, hlater⟩)
    · exact ⟨calls.length, by simp, fun m hm => by grind⟩
    · refine ⟨n, by grind, fun m hm => ?_⟩
      have := hlater m hm
      rw [getElem?_snoc]
      split <;> simp_all

theorem Since.snoc {n : Nat} (h : Since calls ns id n) (hcall : call ≠ .unregister ns id) :
    Since (calls ++ [call]) ns id n where
  registered := by
    have := h.registered
    grind
  kept m hm := by
    have := h.kept m hm
    rw [getElem?_snoc]
    split <;> simp_all
  first k hk hregistered := by
    have hlt := h.lt_length
    obtain ⟨m, hkm, hm⟩ := h.first k hk (by grind)
    exact ⟨m, hkm, by grind⟩

/-- The registration of an id that has none begins with the call. -/
theorem since_length (h : ¬Kept calls ns id) :
    Since (calls ++ [.register ns id]) ns id calls.length where
  registered := by simp
  kept m hm := by grind
  first k hk hregistered := by
    by_contra hnone
    push Not at hnone
    refine h ⟨k, by grind, fun m hm hlater => hnone m hm ?_⟩
    grind

theorem open_snoc {ability : Table Namespace Unit} :
    Open (calls ++ [call]) ns ability ↔ Open calls ns ability ∧ call ≠ .registerCustom ns := by
  simp only [Open, List.mem_append, List.mem_singleton, not_or]
  constructor
  · rintro ⟨h, hcalls, hcall⟩
    exact ⟨⟨h, hcalls⟩, Ne.symm hcall⟩
  · rintro ⟨⟨h, hcalls⟩, hcall⟩
    exact ⟨h, hcalls, Ne.symm hcall⟩

/-! ### Rolls

What a call does to the roll of a channel that it concerns, and that it leaves
all others alone. -/

/-- A roll that gains nobody and loses those that are taken back. -/
private theorem Roll.filter (h : Roll calls ns c ids) (p : EntityId → Bool)
    (hmem : ∀ id, id.channel? = some c →
      (Kept (calls ++ [call]) ns id ↔ Kept calls ns id ∧ p id = true))
    (hcall : ∀ id, id.channel? = some c → p id = true → call ≠ .unregister ns id) :
    Roll (calls ++ [call]) ns c (ids.filter p) where
  nodup := h.nodup.filter p
  mem id := by
    rw [List.mem_filter, h.mem, and_assoc]
    exact and_congr_right fun hc => (hmem id hc).symm
  ordered := by
    obtain ⟨time, hsince, hlt⟩ := h.ordered
    refine ⟨time, fun id hid => ?_, hlt.filter p⟩
    obtain ⟨hid, hp⟩ := List.mem_filter.1 hid
    exact (hsince id hid).snoc (hcall id ((h.mem id).1 hid).1 hp)

theorem Roll.elsewhere (h : Roll calls ns c ids) (hcall : ¬call.Concerns ns c) :
    Roll (calls ++ [call]) ns c ids := by
  have hother : ∀ id, id.channel? = some c → call ≠ .register ns id ∧ call ≠ .unregister ns id := by
    intro id hc
    constructor <;> rintro rfl <;> exact hcall ⟨rfl, hc⟩
  have hsame := h.filter (fun _ => true)
    (fun id hc => by rw [kept_snoc]; simp [hother id hc]) fun id hc _ => (hother id hc).2
  rwa [List.filter_true] at hsame

/-- To register an id whose registration lasts is no news. -/
theorem Roll.register_again (h : Roll calls ns c ids) (hid : id ∈ ids) :
    Roll (calls ++ [.register ns id]) ns c ids := by
  obtain ⟨time, hsince, hlt⟩ := h.ordered
  refine ⟨h.nodup, fun id' => ?_, time, fun id' h' => (hsince id' h').snoc (by simp), hlt⟩
  rw [h.mem, kept_snoc]
  refine and_congr_right fun _ => ⟨fun hk => .inr ⟨by simp, hk⟩, ?_⟩
  rintro (heq | ⟨-, hk⟩)
  · obtain rfl : id = id' := by simpa using heq
    exact ((h.mem id).1 hid).2
  · exact hk

/-- An id that has no registration comes last. -/
theorem Roll.register_anew (h : Roll calls ns c ids) (hc : id.channel? = some c)
    (hid : id ∉ ids) : Roll (calls ++ [.register ns id]) ns c (ids ++ [id]) := by
  have hnew : ¬Kept calls ns id := fun hk => hid ((h.mem id).2 ⟨hc, hk⟩)
  have hother : ∀ {id'}, id' ∈ ids → id' ≠ id := fun h' => ne_of_mem_of_not_mem h' hid
  obtain ⟨time, hsince, hlt⟩ := h.ordered
  refine ⟨h.nodup.append (List.nodup_singleton id) (by simpa using hid), fun id' => ?_,
    Function.update time id calls.length, fun id' h' => ?_, ?_⟩
  · rw [List.mem_append, List.mem_singleton, h.mem, kept_snoc]
    constructor
    · rintro (⟨hc', hk⟩ | rfl)
      · exact ⟨hc', .inr ⟨by simp, hk⟩⟩
      · exact ⟨hc, .inl rfl⟩
    · rintro ⟨hc', heq | ⟨-, hk⟩⟩
      · exact .inr (by simpa using heq.symm)
      · exact .inl ⟨hc', hk⟩
  · rcases List.mem_append.1 h' with h' | h'
    · rw [Function.update_of_ne (hother h')]
      exact (hsince id' h').snoc (by simp)
    · obtain rfl := List.mem_singleton.1 h'
      rw [Function.update_self]
      exact since_length hnew
  · rw [List.pairwise_append]
    refine ⟨hlt.imp_of_mem fun ha hb hab => ?_, List.pairwise_singleton .., fun a ha b hb => ?_⟩
    · rwa [Function.update_of_ne (hother ha), Function.update_of_ne (hother hb)]
    · obtain rfl := List.mem_singleton.1 hb
      rw [Function.update_self, Function.update_of_ne (hother ha)]
      exact (hsince a ha).lt_length

theorem Roll.register (h : Roll calls ns c ids) (hc : id.channel? = some c) :
    Roll (calls ++ [.register ns id]) ns c (enlist id ids) := by
  by_cases hid : id ∈ ids
  · have hsame : enlist id ids = ids := by simp [enlist, hid]
    rw [hsame]
    exact h.register_again hid
  · have hend : enlist id ids = ids ++ [id] := by simp [enlist, hid]
    rw [hend]
    exact h.register_anew hc hid

theorem Roll.unregister (h : Roll calls ns c ids) :
    Roll (calls ++ [.unregister ns id]) ns c (ids.filter (· ≠ id)) := by
  refine h.filter _ (fun id' _ => ?_) fun id' _ hne hcall => ?_
  · rw [kept_snoc]
    simp only [reduceCtorEq, false_or, ne_eq, Call.unregister.injEq, true_and, decide_not,
      Bool.not_eq_eq_eq_not, Bool.not_true, decide_eq_false_iff_not]
    rw [and_comm, eq_comm]
  · obtain rfl : id = id' := by simpa using hcall
    simp at hne

end Snoc

/-! ## A dispatcher recounts what it was asked -/

/-- What a dispatcher has is what the calls to it have left. -/
structure Recounts (ability : Table Namespace Unit) (calls : List Call) (s : Dispatcher) :
    Prop where
  supports : ∀ ns, s.supports ns = ability.contains ns
  isCustom : ∀ ns, s.isCustom ns = true ↔
    ability.contains ns = true ∧ Call.registerCustom ns ∈ calls
  roll : ∀ ns c, Open calls ns ability → Roll calls ns c (s.targets ns c)
  shut : ∀ ns c, ¬Open calls ns ability → s.targets ns c = []

variable {ability : Table Namespace Unit} {calls : List Call} {s : Dispatcher}

theorem recounts_ofAbility (ability : Table Namespace Unit) :
    Recounts ability [] (.ofAbility ability) where
  supports _ := rfl
  isCustom ns := by
    have hnone : (ofAbility ability).isCustom ns = false := rfl
    simp [hnone]
  roll ns c _ := by
    have hnil : (ofAbility ability).targets ns c = [] := rfl
    rw [hnil]
    exact ⟨.nil, by simp [Kept], fun _ => 0, by simp, .nil⟩
  shut _ _ _ := rfl

theorem Recounts.register_fst (h : Recounts ability calls s) (ns : Namespace) (id : EntityId) :
    (s.register ns id).1 = true ↔ Open calls ns ability ∧ id.channel?.isSome = true := by
  rw [Device.dispatcher_register_fst, isSome_routes?, Bool.and_eq_true, Bool.and_eq_true,
    h.supports, Bool.not_eq_true', ← Bool.not_eq_true, h.isCustom]
  unfold Open
  tauto

/-! ### What one call does

A call that does not concern a channel is not heard there; each of the others
does to its roll what it says. -/

/-- What is asked about one channel of a namespace is not heard at another. -/
theorem targets_elsewhere (s : Dispatcher) {ns : Namespace} {c : Channel} {call : Call}
    (h : ¬call.Concerns ns c) : (call.run s).targets ns c = s.targets ns c := by
  cases call with
  | register ns' id =>
    rw [Call.run, targets_register, if_neg]
    exact fun hhere => h hhere.2
  | unregister ns' id =>
    rw [Call.run, targets_unregister]
    exact if_neg h
  | registerCustom ns' => rw [Call.run, targets_registerCustom, if_neg fun hhere => h hhere.2]

theorem Recounts.isCustom_run (h : Recounts ability calls s) (call : Call) (ns : Namespace) :
    (call.run s).isCustom ns = true ↔
      ability.contains ns = true ∧ Call.registerCustom ns ∈ calls ++ [call] := by
  cases call with
  | register ns' id =>
    rw [Call.run, isCustom_register, h.isCustom]
    simp
  | unregister ns' id =>
    rw [Call.run, isCustom_unregister, h.isCustom]
    simp
  | registerCustom ns' =>
    rw [Call.run, isCustom_registerCustom, Bool.or_eq_true, h.isCustom, h.supports]
    simp
    tauto

theorem Recounts.roll_run (h : Recounts ability calls s) {call : Call} {ns : Namespace}
    (c : Channel) (hopen : Open (calls ++ [call]) ns ability) :
    Roll (calls ++ [call]) ns c ((call.run s).targets ns c) := by
  obtain ⟨hwas, hcall⟩ := open_snoc.1 hopen
  have hroll := h.roll ns c hwas
  by_cases hhere : call.Concerns ns c
  · cases call with
    | register ns' id =>
      obtain ⟨rfl, hc⟩ := hhere
      have htaken := (h.register_fst ns id).2 ⟨hwas, Option.isSome_of_eq_some hc⟩
      rw [Call.run, targets_register, if_pos ⟨htaken, rfl, hc⟩]
      exact hroll.register hc
    | unregister ns' id =>
      obtain ⟨rfl, hc⟩ := hhere
      rw [Call.run, targets_unregister, if_pos ⟨rfl, hc⟩]
      exact hroll.unregister
    | registerCustom ns' =>
      obtain rfl : ns = ns' := hhere
      exact absurd rfl hcall
  · rw [targets_elsewhere s hhere]
    exact hroll.elsewhere hhere

theorem Recounts.shut_run (h : Recounts ability calls s) {call : Call} {ns : Namespace}
    (c : Channel) (hshut : ¬Open (calls ++ [call]) ns ability) :
    (call.run s).targets ns c = [] := by
  by_cases hhere : call.Concerns ns c
  · cases call with
    | register ns' id =>
      obtain ⟨rfl, -⟩ := hhere
      have hwas : ¬Open calls ns ability := fun hopen => hshut (open_snoc.2 ⟨hopen, by simp⟩)
      rw [Call.run, targets_register, if_neg, h.shut ns c hwas]
      exact fun htaken => hwas ((h.register_fst ns id).1 htaken.1).1
    | unregister ns' id =>
      obtain ⟨rfl, hc⟩ := hhere
      have hwas : ¬Open calls ns ability := fun hopen => hshut (open_snoc.2 ⟨hopen, by simp⟩)
      rw [Call.run, targets_unregister, if_pos ⟨rfl, hc⟩, h.shut ns c hwas, List.filter_nil]
    | registerCustom ns' =>
      obtain rfl : ns = ns' := hhere
      rw [Call.run, targets_registerCustom, h.supports]
      split
      · rfl
      · rename_i hlacks
        exact h.shut ns c fun hopen => hlacks ⟨hopen.1, rfl⟩
  · rw [targets_elsewhere s hhere]
    refine h.shut ns c fun hopen => hshut (open_snoc.2 ⟨hopen, ?_⟩)
    rintro rfl
    exact hhere rfl

theorem Recounts.run (h : Recounts ability calls s) (call : Call) :
    Recounts ability (calls ++ [call]) (call.run s) where
  supports ns := by
    cases call <;> simp [Call.run, h.supports]
  isCustom := h.isCustom_run call
  roll _ := h.roll_run
  shut _ := h.shut_run

/-! ### All calls -/

theorem recounts_called (ability : Table Namespace Unit) (calls : List Call) :
    Recounts ability calls (called ability calls) := by
  induction calls using List.reverseRecOn with
  | nil => exact recounts_ofAbility ability
  | append_singleton calls call ih =>
    rw [called, List.foldl_append]
    exact ih.run call

theorem lookup_of_nil {ns : Namespace} {c : Channel} (h : s.targets ns c = []) :
    s.lookup ns c = .notFound ns.policy := by
  rw [lookup, h]

theorem lookup_of_ne_nil {ns : Namespace} {c : Channel} (h : s.targets ns c ≠ []) :
    s.lookup ns c = .found (s.targets ns c) := by
  rw [lookup]
  cases hids : s.targets ns c with
  | nil => exact absurd hids h
  | cons id ids => rfl

/-- Whom a dispatcher finds is told by the calls to it: where the namespace is
    open and somebody is registered, exactly those whose registrations last, in
    the order in which these began, and nobody anywhere else. -/
theorem lookup_called (ability : Table Namespace Unit) (calls : List Call) (ns : Namespace)
    (c : Channel) :
    ((Open calls ns ability ∧ ∃ id, id.channel? = some c ∧ Kept calls ns id) →
        ∃ ids, (called ability calls).lookup ns c = .found ids ∧ ids ≠ [] ∧
          Roll calls ns c ids) ∧
      (¬(Open calls ns ability ∧ ∃ id, id.channel? = some c ∧ Kept calls ns id) →
        (called ability calls).lookup ns c = .notFound ns.policy) ∧
      (∀ id, ((called ability calls).register ns id).1 = true ↔
        Open calls ns ability ∧ id.channel?.isSome = true) ∧
      (∀ call : Call, ¬call.Concerns ns c →
        (call.run (called ability calls)).lookup ns c = (called ability calls).lookup ns c) ∧
      ((called ability calls).registerCustom ns).2.lookup ns c = .notFound ns.policy := by
  have h := recounts_called ability calls
  refine ⟨fun ⟨hopen, id, hc, hkept⟩ => ?_, fun hnone => lookup_of_nil ?_, h.register_fst ns,
    fun call hcall => ?_, ?_⟩
  · have hroll := h.roll ns c hopen
    have hne := List.ne_nil_of_mem ((hroll.mem id).2 ⟨hc, hkept⟩)
    exact ⟨_, lookup_of_ne_nil hne, hne, hroll⟩
  · by_cases hopen : Open calls ns ability
    · refine List.eq_nil_iff_forall_not_mem.2 fun id hid => hnone ⟨hopen, id, ?_⟩
      exact ((h.roll ns c hopen).mem id).1 hid
    · exact h.shut ns c hopen
  · rw [lookup, lookup, targets_elsewhere _ hcall]
  · have hafter := h.run (.registerCustom ns)
    refine lookup_of_nil (hafter.shut ns c fun hopen => ?_)
    exact hopen.2 (by simp)

/-- An id that is registered anew goes to the end. -/
example :
    (called (.ofKeys [.toggleX]) [.register .toggleX (.channel (.int 0)),
        .register .toggleX (.keyed (.int 0) "power"), .unregister .toggleX (.channel (.int 0)),
        .register .toggleX (.channel (.int 0))]).lookup .toggleX (.int 0) =
      .found [.keyed (.int 0) "power", .channel (.int 0)] := by
  decide

end Dispatcher

end Appliance
