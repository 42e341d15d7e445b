-- SUMMARY: The attributes that a mode sensor shows come out the same when the items of its thermostat come again.

import Appliance.Proofs.Following

namespace Appliance

/-! ## Attributes

What a mode sensor shows beside the mode are a preset and a target. Two lists
of them are equal when the presets are the same and the targets equal numbers. -/

namespace Json

theorem ofFloat_beq {x y : Float} (h : (ofFloat x == ofFloat y) = true) :
    (x == y) = true ∨ ofFloat x = ofFloat y := by
  unfold ofFloat at h ⊢
  split at h <;> split at h
  · exact .inl h
  · cases h
  · cases h
  · rename_i hx hy
    rw [if_neg hx, if_neg hy]
    exact .inr rfl

theorem beq_ofFloat {x y : Float} (h : (x == y) = true) : (ofFloat x == ofFloat y) = true := by
  obtain ⟨-, -, rfl | ⟨rfl, rfl⟩ | ⟨rfl, rfl⟩⟩ := Float.beq_iff_ne_nan_and_eq.1 h
  · exact (WellFormed.ofFloat x).proper
  · rfl
  · rfl

theorem map_ofFloat_beq {o o' : Option Float} (h : (o.map ofFloat == o'.map ofFloat) = true) :
    (o == o') = true ∨ o.map ofFloat = o'.map ofFloat := by
  cases o with
  | none =>
    cases o' with
    | none => exact .inl rfl
    | some y => cases h
  | some x =>
    cases o' with
    | none => cases h
    | some y => exact (ofFloat_beq h).imp_right (congrArg some)

theorem beq_map_ofFloat {o o' : Option Float} (h : (o == o') = true) :
    (o.map ofFloat == o'.map ofFloat) = true := by
  cases o <;> cases o'
  · rfl
  · cases h
  · cases h
  · exact beq_ofFloat h

end Json

namespace Device

open Entity (TookOps Replays)

/-- What a mode sensor shows of a preset and a target. -/
def shown (preset : Option String) (target : Option Float) : List (String × Json) :=
  (preset.map fun p => ("preset", .str p)).toList ++
    (target.map fun t => ("target_temperature", .ofFloat t)).toList

theorem leaderAttributes_eq (k : Entity) : leaderAttributes k = shown k.preset? k.target? := rfl

theorem shown_beq {p p' : Option String} {t t' : Option Float} :
    (shown p t == shown p' t') = true ↔
      p = p' ∧ (t.map Json.ofFloat == t'.map Json.ofFloat) = true := by
  have hstr : ∀ s s' : String, (Json.str s == Json.str s') = (s == s') := fun _ _ => rfl
  cases p <;> cases p' <;> cases t <;> cases t' <;> simp [shown, pair_beq, hstr]

theorem target?_eq_join (e : Entity) : e.target? = (e.status.datum? .target).join := by
  unfold Entity.target? Status.datum?
  cases e.status.climate <;> rfl

theorem join_beq {α : Type} [BEq α] {o o' : Option (Option α)} (h : (o == o') = true) :
    (o.join == o'.join) = true := by
  cases o <;> cases o'
  · rfl
  · cases h
  · cases h
  · exact h

theorem preset?_congr {e e' : Entity} (hs : e.Sound) (hs' : e'.Sound)
    (hclear : e'.status.clear = e.status.clear)
    (hmode : e'.status.datum? .mode = e.status.datum? .mode) : e'.preset? = e.preset? := by
  unfold Entity.preset?
  rw [Status.selection_eq hs'.consistent hs.consistent hclear hmode]

theorem plainOps_cases (d : Device) (id : EntityId) (x : Namespace × Item) :
    d.plainOps id x = [] ∨ d.plainOps id x = [.item x.1 x.2.body] := by
  unfold plainOps
  split
  · exact .inr rfl
  · exact .inl rfl

theorem length_plainOps (d : Device) (id : EntityId) (x : Namespace × Item) :
    (d.plainOps id x).length ≤ 1 := by
  rcases plainOps_cases d id x with h | h <;> rw [h]
  · exact Nat.zero_le 1
  · exact Nat.le_refl 1

/-- At most one operation is at most one assignment. -/
theorem overwrite_writes_of_length (kind : Kind) (p : Part) {ops : List EntityOp}
    (hops : ops.length ≤ 1) (a : p.Value) :
    ∃ r, Part.overwrite (EntityOp.writes kind p ops) a = (assign a r).value := by
  match ops, hops with
  | [], _ => exact ⟨none, rfl⟩
  | [op], _ =>
    rw [EntityOp.writes_singleton]
    cases EntityOp.says? kind p op with
    | none => exact ⟨none, rfl⟩
    | some v => exact ⟨some v, rfl⟩

/-- An assignment that leaves the attribute of a target equal leaves it the same. -/
theorem map_ofFloat_assign {t : Option Float} {r : Option (Option Float)}
    (h : (t.map Json.ofFloat == (assign t r).value.map Json.ofFloat) = true) :
    t.map Json.ofFloat = (assign t r).value.map Json.ofFloat := by
  cases r with
  | none => rfl
  | some v =>
    cases htv : t == v with
    | true => rw [Part.value_assign_of_beq htv]
    | false =>
      -- another number that is written alike is none that can be written
      rw [Part.value_assign_of_not_beq htv] at h ⊢
      rcases Json.map_ofFloat_beq h with hsame | hsame
      · rw [hsame] at htv
        cases htv
      · exact hsame

theorem target?_stable {ops : List EntityOp} (hops : ops.length ≤ 1) {k k' : Entity}
    (h : TookOps ops k k')
    (hbeq : (k.target?.map Json.ofFloat == k'.target?.map Json.ofFloat) = true) :
    k.target?.map Json.ofFloat = k'.target?.map Json.ofFloat := by
  have hdatum := h.datum .target
  rw [target?_eq_join, target?_eq_join] at hbeq ⊢
  rw [hdatum] at hbeq ⊢
  cases ht : k.status.datum? .target with
  | none => rfl
  | some t =>
    rw [ht] at hbeq
    obtain ⟨r, hr⟩ := overwrite_writes_of_length k.kind .target hops t
    simp only [Option.map_some, Option.join_some] at hbeq ⊢
    rw [hr] at hbeq ⊢
    exact map_ofFloat_assign hbeq

/-- At most one operation that leaves the attributes of a leader equal leaves
    them the same. -/
theorem leaderAttributes_stable {ops : List EntityOp} (hops : ops.length ≤ 1) {k k' : Entity}
    (h : TookOps ops k k') (hbeq : (leaderAttributes k == leaderAttributes k') = true) :
    leaderAttributes k = leaderAttributes k' := by
  rw [leaderAttributes_eq, leaderAttributes_eq, shown_beq] at hbeq
  obtain ⟨hpreset, htarget⟩ := hbeq
  have hshown : ∀ t : Option Float, (t.map fun t => ("target_temperature", Json.ofFloat t)) =
      (t.map Json.ofFloat).map fun j => ("target_temperature", j) := fun t =>
    (Option.map_map ..).symm
  rw [leaderAttributes_eq, leaderAttributes_eq, shown, shown, hpreset, hshown,
    target?_stable hops h htarget, hshown]

/-! ## Leaders in a row -/

instance (d : Device) (c : Channel) (x : Namespace × Item) : Decidable (d.Leads c x) :=
  inferInstanceAs (Decidable (_ ∧ _ ∧ _))

/-- The leader of a channel each time that its derived sensors follow. -/
def leaders (c : Channel) : List (Namespace × Item) → Device → List Entity
  | [], _ => []
  | x :: xs, d =>
    (if d.Leads c x then ((pass x d).device.leader? c).toList else []) ++
      leaders c xs (pass x d).device

section Leaders

variable {d : Device} {c : Channel} {xs : List (Namespace × Item)}

theorem leaders_append (xs ys : List (Namespace × Item)) (d : Device) :
    leaders c (xs ++ ys) d = leaders c xs d ++ leaders c ys (Action.forEach xs pass d).device := by
  induction xs generalizing d with
  | nil => rfl
  | cons x xs ih =>
    change _ ++ leaders c (xs ++ ys) (pass x d).device = (_ ++ leaders c xs _) ++ _
    rw [ih, List.append_assoc]
    rfl

theorem leaders_of_ne_thermostat (h : ∀ x ∈ xs, x.1 ≠ .thermostatMode) : leaders c xs d = [] := by
  induction xs generalizing d with
  | nil => rfl
  | cons x xs ih =>
    have hnot : ¬d.Leads c x := fun hx => h x (List.mem_cons_self ..) hx.1
    rw [leaders, if_neg hnot, ih fun y hy => h y (List.mem_cons_of_mem _ hy)]
    rfl

theorem steady_leaders (hd : d.Fit) (hns : ∀ x ∈ xs, x.1 = .thermostatMode) :
    Part.Steady (((d.leader? c).toList ++ leaders c xs d).map leaderAttributes) := by
  induction xs generalizing d with
  | nil =>
    unfold leaders
    cases d.leader? c with
    | none => exact List.isChain_nil
    | some k => exact List.isChain_singleton _
  | cons x xs ih =>
    have hrest := ih (fit_pass x hd) fun y hy => hns y (List.mem_cons_of_mem _ hy)
    have hx := hns x (List.mem_cons_self ..)
    unfold leaders
    split
    · cases hk : d.leader? c with
      | none => exact hrest
      | some k =>
        obtain ⟨k', hk', htook⟩ := leader?_pass hd hk (x := x)
        rw [hk'] at hrest ⊢
        exact List.isChain_cons_cons.2
          ⟨leaderAttributes_stable (length_plainOps d _ x) htook, hrest⟩
    · rename_i hnot
      have hsame : (pass x d).device.leader? c = d.leader? c := by
        unfold leader?
        rw [climateSensors_pass, (pass_of_not_leads hd hx hnot rfl).1]
      rw [hsame] at hrest
      exact hrest

/-- The attributes that a mode sensor is told are those of the leaders. -/
theorem writes_extra (xs : List (Namespace × Item)) {kind : Kind}
    (hkind : kind.carries .state = true) (hd : d.Fit)
    (hthere : (d.entity? (.keyed c modeStateKey)).isSome = true) :
    EntityOp.writes kind .extra (history pass itemOps xs d (.keyed c modeStateKey)) =
      (leaders c xs d).map leaderAttributes := by
  induction xs generalizing d with
  | nil => rfl
  | cons x xs ih =>
    have hmode : EntityId.keyed c modeStateKey ∈ derivedIds c :=
      List.mem_cons_of_mem _ (List.mem_cons_self ..)
    have hstill := (tookOpsAt_pass hd x _).isSome hthere
    have hplain : EntityOp.writes kind .extra (d.plainOps (.keyed c modeStateKey) x) = [] := by
      rcases plainOps_cases d (.keyed c modeStateKey) x with hnil | hitem
      · rw [hnil, EntityOp.writes_nil]
      · rw [hitem, EntityOp.writes_singleton, says?_extra hkind]
        rfl
    rw [history, EntityOp.writes_append, ih (fit_pass x hd) hstill, itemOps,
      EntityOp.writes_append, hplain, List.nil_append, leaders, List.map_append]
    congr 1
    split
    · rename_i hx
      rw [followOps_of_leads hd hx, following_mode hstill]
      cases (pass x d).device.leader? c with
      | none => rfl
      | some k =>
        have hsays : EntityOp.says? kind .extra (showing k) = some (leaderAttributes k) := by
          simp [EntityOp.says?, showing, EntityOp.report?, Entity.heardIf, hkind,
            Report.ofStateWith]
        simp only [Option.map_some, Option.toList_some, EntityOp.writes_singleton, hsays,
          List.map_cons, List.map_nil]
    · rename_i hx
      rw [followOps_of_not_leads hmode hx]
      rfl

end Leaders

/-! ## Catching up

When the items come again, the thermostat starts from where it ended. From the
first item that it hears it is in the mode that it was in the first time, and
it has the target that it had then, or the one that it ended with. -/

structure CatchesUp (final e e' : Entity) : Prop where
  kind : e.kind = .climate
  kind' : e'.kind = .climate
  clear : e.status.clear = final.status.clear
  clear' : e'.status.clear = final.status.clear
  available : e'.status.available = true
  known :
    e'.status.datum? .mode = final.status.datum? .mode ∧
        e'.status.datum? .target = final.status.datum? .target ∨
      e.status.available = true ∧ e'.status.datum? .mode = e.status.datum? .mode ∧
        ((e'.status.datum? .target == e.status.datum? .target) = true ∨
          e'.status.datum? .target = final.status.datum? .target)

/-- A thermostat hears its items, if at all, with a mode. -/
theorem thermostat_writes {x : Namespace × Item} (hx : x.1 = .thermostatMode)
    (hbody : x.2.body.WellFormed) (d : Device) (id : EntityId) :
    ((d.plainOps id x).any (·.heard .climate) = false ∧
        ∀ p, EntityOp.writes .climate p (d.plainOps id x) = []) ∨
      (d.plainOps id x).any (·.heard .climate) = true ∧
        (∃ m, EntityOp.writes .climate .mode (d.plainOps id x) = [some m]) ∧
          (EntityOp.writes .climate .target (d.plainOps id x) = [] ∨
            ∃ t, Proper t ∧ EntityOp.writes .climate .target (d.plainOps id x) = [t]) := by
  rcases plainOps_cases d id x with hnil | hitem
  · rw [hnil]
    exact .inl ⟨rfl, fun _ => rfl⟩
  · have hproper : (EntityOp.item x.1 x.2.body).Proper := EntityOp.proper_item x.1 hbody
    rw [hitem]
    simp only [EntityOp.writes_singleton, List.any_cons, List.any_nil, Bool.or_false]
    have hreport : (EntityOp.item x.1 x.2.body).report? .climate =
        (Entity.climateReport? x.2.body).map .ofClimate := by
      rw [hx]
      rfl
    cases hr : Entity.climateReport? x.2.body with
    | none =>
      rw [hr, Option.map_none] at hreport
      simp [EntityOp.heard, EntityOp.says?, hreport]
    | some r =>
      rw [hr, Option.map_some] at hreport
      have hmode : EntityOp.says? .climate .mode (.item x.1 x.2.body) = some (some r.mode) := by
        rw [EntityOp.says?, hreport]
        rfl
      refine .inr ⟨by rw [EntityOp.heard, hreport]; rfl, ⟨r.mode, by rw [hmode]; rfl⟩, ?_⟩
      cases ht : EntityOp.says? .climate .target (.item x.1 x.2.body) with
      | none => exact .inl rfl
      | some t =>
        rw [EntityOp.says?, hreport, Option.bind_some] at ht
        exact .inr ⟨t, hproper _ _ hreport .target t ht, rfl⟩

namespace CatchesUp

variable {final e e' k k' : Entity}

section TookOps

variable (h : CatchesUp final e e') {ops : List EntityOp} (htook : TookOps ops e k)
  (htook' : TookOps ops e' k')
include h htook htook'

/-- Items that are not heard leave both times as they are. -/
theorem tookOps_unheard (hheard : ops.any (·.heard .climate) = false)
    (hwrites : ∀ p, EntityOp.writes .climate p ops = []) : CatchesUp final k k' := by
  have hkeep : ∀ p, k.status.datum? p = e.status.datum? p := by
    intro p
    apply htook.datum_of_unsaid
    rw [h.kind, hwrites]
  have hkeep' : ∀ p, k'.status.datum? p = e'.status.datum? p := by
    intro p
    apply htook'.datum_of_unsaid
    rw [h.kind', hwrites]
  refine ⟨htook.kind.trans h.kind, htook'.kind.trans h.kind', htook.clear.trans h.clear,
    htook'.clear.trans h.clear', ?_, ?_⟩
  · rw [htook'.available, h.available, Bool.true_or]
  · rw [htook.available, h.kind, hheard, Bool.or_false, hkeep, hkeep, hkeep', hkeep']
    exact h.known

/-- Items that are heard set the mode both times, and the target if they have one. -/
theorem tookOps_heard (hs : e.Sound) (hs' : e'.Sound) (hheard : ops.any (·.heard .climate) = true)
    {m : Int64} (hmode : EntityOp.writes .climate .mode ops = [some m])
    (htarget : EntityOp.writes .climate .target ops = [] ∨
      ∃ t, Proper t ∧ EntityOp.writes .climate .target ops = [t]) : CatchesUp final k k' := by
  have hdatum := htook.datum
  have hdatum' := htook'.datum
  rw [h.kind] at hdatum
  rw [h.kind'] at hdatum'
  refine ⟨htook.kind.trans h.kind, htook'.kind.trans h.kind', htook.clear.trans h.clear,
    htook'.clear.trans h.clear', ?_, .inr ⟨?_, ?_, ?_⟩⟩
  · rw [htook'.available, h.available, Bool.true_or]
  · rw [htook.available, h.kind, hheard, Bool.or_true]
  · obtain ⟨a, ha⟩ := hs.exists_datum h.kind (p := .mode) rfl
    obtain ⟨a', ha'⟩ := hs'.exists_datum h.kind' (p := .mode) rfl
    have hlast : ∀ a : Option Int64, Part.overwrite [some m] a = some m :=
      Part.overwrite_lawful [some m]
    rw [hdatum, hdatum', hmode, ha, ha', Option.map_some, Option.map_some]
    exact congrArg some ((hlast a').trans (hlast a).symm)
  · rcases htarget with hnil | ⟨t, ht, htarget⟩
    · rw [htook.datum_of_unsaid (h.kind.symm ▸ hnil),
        htook'.datum_of_unsaid (h.kind'.symm ▸ hnil)]
      rcases h.known with ⟨-, hknown⟩ | ⟨-, -, hknown⟩
      · exact .inr hknown
      · exact hknown
    · obtain ⟨a, ha⟩ := hs.exists_datum h.kind (p := .target) rfl
      obtain ⟨a', ha'⟩ := hs'.exists_datum h.kind' (p := .target) rfl
      rw [hdatum, hdatum', htarget, ha, ha']
      have hsame : ((assign a' (some t)).value == (assign a (some t)).value) = true :=
        BEq.trans (Part.value_assign_beq ht) (BEq.symm (Part.value_assign_beq ht))
      exact .inl hsame

end TookOps

theorem took (h : CatchesUp final e e') (hs : e.Sound) (hs' : e'.Sound) {d : Device}
    {id : EntityId} {x : Namespace × Item} (hx : x.1 = .thermostatMode)
    (hbody : x.2.body.WellFormed) (htook : TookOps (d.plainOps id x) e k)
    (htook' : TookOps (d.plainOps id x) e' k') : CatchesUp final k k' := by
  rcases thermostat_writes hx hbody d id with ⟨hheard, hwrites⟩ | ⟨hheard, ⟨m, hmode⟩, htarget⟩
  · exact h.tookOps_unheard htook htook' hheard hwrites
  · exact h.tookOps_heard htook htook' hs hs' hheard hmode htarget

/-- Where both times agree with an attribute list in what the leader showed
    first and last, the second time never disagrees. -/
theorem shows (h : CatchesUp final e e') (hfinal : final.Sound) (hs : e.Sound) (hs' : e'.Sound)
    {l : List (String × Json)} (hl : (l == leaderAttributes final) = true)
    (hle : e.status.available = true → (l == leaderAttributes e) = true) :
    (l == leaderAttributes e') = true := by
  have hpreset : ∀ {k : Entity}, k.Sound → k.status.clear = final.status.clear →
      e'.status.datum? .mode = k.status.datum? .mode → e'.preset? = k.preset? :=
    fun hk hclear hmode => preset?_congr hk hs' (h.clear'.trans hclear.symm) hmode
  rcases h.known with ⟨hmode, htarget⟩ | ⟨havailable, hmode, htarget⟩
  · rw [leaderAttributes_eq, hpreset hfinal rfl hmode, target?_eq_join, htarget,
      ← target?_eq_join, ← leaderAttributes_eq]
    exact hl
  · have hlk := hle havailable
    have hsame := hpreset hs h.clear hmode
    rcases htarget with hbeq | htarget
    · refine BEq.trans hlk ?_
      rw [leaderAttributes_eq, leaderAttributes_eq, shown_beq]
      refine ⟨hsame.symm, Json.beq_map_ofFloat ?_⟩
      rw [target?_eq_join, target?_eq_join]
      exact join_beq (BEq.symm hbeq)
    · have hboth : (leaderAttributes e == leaderAttributes final) = true :=
        BEq.trans (BEq.symm hlk) hl
      rw [leaderAttributes_eq, leaderAttributes_eq, shown_beq] at hboth
      rw [leaderAttributes_eq, hsame, hboth.1, target?_eq_join, htarget, ← target?_eq_join,
        ← leaderAttributes_eq]
      exact hl

end CatchesUp

theorem isSome_leader? {d : Device} {c : Channel} {e : Entity} (hmask : d.climateSensors ≠ 0)
    (he : d.entity? (.channel c) = some e) (hkind : e.kind = .climate)
    (havailable : e.status.available = true) : d.leader? c = some e :=
  leader?_eq_some.2 ⟨hmask, he, hkind, havailable⟩

/-- What the leaders say all along when the items come first, they say all
    along when the items come again. -/
theorem leaders_again {c : Channel} {xs : List (Namespace × Item)}
    (hns : ∀ x ∈ xs, x.1 = .thermostatMode) (hbody : ∀ x ∈ xs, x.2.body.WellFormed)
    {final : Entity} (hfinal : final.Sound) {l : List (String × Json)}
    (hl : (l == leaderAttributes final) = true) {d d' : Device} (hd : d.Fit) (hd' : d'.Fit)
    (haddressees : ∀ ns c, d'.addressees ns c = d.addressees ns c)
    (hmask : d.climateSensors ≠ 0) {e e' : Entity} (he : d.entity? (.channel c) = some e)
    (he' : d'.entity? (.channel c) = some e') (hcatches : CatchesUp final e e')
    (hall : ∀ k ∈ leaders c xs d, (l == leaderAttributes k) = true) :
    ∀ k ∈ leaders c xs d', (l == leaderAttributes k) = true := by
  induction xs generalizing d d' e e' with
  | nil => exact fun k hk => by cases hk
  | cons x xs ih =>
    have hx := hns x (List.mem_cons_self ..)
    have hfit := fit_pass x hd
    have hfit' := fit_pass x hd'
    obtain ⟨k, hk, htook⟩ := (tookOpsAt_pass hd x (.channel c)).present e he
    obtain ⟨k', hk', htook'⟩ := (tookOpsAt_pass hd' x (.channel c)).present e' he'
    rw [itemOps_channel] at htook htook'
    rw [plainOps_congr haddressees] at htook'
    have hcatches' := hcatches.took (hd.sound _ _ he) (hd'.sound _ _ he') hx
      (hbody x (List.mem_cons_self ..)) htook htook'
    have hmask' : (pass x d).device.climateSensors ≠ 0 := by
      rw [climateSensors_pass]
      exact hmask
    unfold leaders at hall ⊢
    intro w hw
    rcases List.mem_append.1 hw with hw | hw
    · split at hw
      · rename_i hlead
        rw [if_pos ((leads_congr haddressees x).1 hlead)] at hall
        obtain ⟨-, hwk', -⟩ := leader?_eq_some.1 (Option.mem_toList.1 hw)
        obtain rfl := Option.some.inj (hk'.symm.trans hwk')
        refine hcatches'.shows hfinal (hfit.sound _ _ hk) (hfit'.sound _ _ hk') hl
          fun havailable => hall k (List.mem_append_left _ ?_)
        rw [isSome_leader? hmask' hk hcatches'.kind havailable]
        exact List.mem_singleton_self _
      · cases hw
    · refine ih (fun y hy => hns y (List.mem_cons_of_mem _ hy))
        (fun y hy => hbody y (List.mem_cons_of_mem _ hy)) hfit hfit' (fun ns c' => ?_) hmask' hk hk'
        hcatches' (fun y hy => hall y (List.mem_append_right _ hy)) w hw
      rw [addressees_pass, addressees_pass, haddressees]

end Device

end Appliance
