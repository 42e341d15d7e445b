-- SUMMARY: The derived sensors of a thermostat's channel follow it to the same end when its items come again.

import Appliance.Proofs.Delivery

namespace Appliance

namespace Device

open Entity (TookOps Replays)

/-! ## Plain histories

What is no derived sensor takes the items that are for it, and no others. -/

theorem addressees_pass (x : Namespace × Item) (d : Device) (ns : Namespace) (c : Channel) :
    (pass x d).device.addressees ns c = d.addressees ns c := addressees_dispatchItem d x.1 ns x.2 c

theorem addressees_forEach (xs : List (Namespace × Item)) (d : Device) (ns : Namespace)
    (c : Channel) : (Action.forEach xs pass d).device.addressees ns c = d.addressees ns c := by
  induction xs generalizing d with
  | nil => rfl
  | cons x xs ih => exact (ih _).trans (addressees_pass x d ns c)

theorem plainOps_congr {d d' : Device} (h : ∀ ns c, d'.addressees ns c = d.addressees ns c)
    (id : EntityId) : d'.plainOps id = d.plainOps id := by
  funext x
  unfold plainOps isFor
  simp only [h]

theorem plainOps_pass (x : Namespace × Item) (d : Device) (id : EntityId) :
    (pass x d).device.plainOps id = d.plainOps id := plainOps_congr (addressees_pass x d) id

theorem following_of_not_mem {d : Device} {c : Channel} {id : EntityId}
    (h : id ∉ derivedIds c) : d.following c id = [] := by
  simp only [derivedIds, List.mem_cons, List.not_mem_nil, or_false, not_or] at h
  unfold following
  split
  · rfl
  · rw [opAt_of_ne h.2, List.append_nil]
    split
    · rfl
    · exact opAt_of_ne h.1 _

theorem following_of_none {d : Device} {c : Channel} {id : EntityId} (h : d.entity? id = none) :
    d.following c id = [] := by
  have hnil : ∀ i op, d.opAt i op id = [] := by
    intro i op
    refine if_neg fun hi => ?_
    rw [← hi.1, h] at hi
    exact Bool.noConfusion hi.2
  unfold following
  split
  · rfl
  · rw [hnil, List.append_nil]
    split
    · rfl
    · exact hnil _ _

theorem followOps_of_not_mem {d : Device} {id : EntityId} (h : ∀ c, id ∉ derivedIds c)
    (x : Namespace × Item) : d.followOps id x = [] := by
  unfold followOps
  split
  · rfl
  · split
    · exact following_of_not_mem (h _)
    · rfl

/-- Where nothing follows, the items are all. -/
theorem history_plain {xs : List (Namespace × Item)} {d : Device} {id : EntityId}
    (h : ∀ x ∈ xs, ∀ d : Device, d.followOps id x = []) :
    history pass itemOps xs d id = xs.flatMap (d.plainOps id) := by
  induction xs generalizing d with
  | nil => rfl
  | cons x xs ih =>
    have hrest := ih (d := (pass x d).device) fun y hy => h y (List.mem_cons_of_mem _ hy)
    rw [history, hrest, itemOps, h x (List.mem_cons_self ..), List.append_nil, plainOps_pass,
      List.flatMap_cons]

theorem proper_plainOps {x : Namespace × Item} (h : x.2.body.WellFormed) (d : Device)
    (id : EntityId) : ∀ op ∈ d.plainOps id x, op.Proper := by
  intro op hop
  unfold plainOps at hop
  split at hop
  · obtain rfl := List.mem_singleton.1 hop
    exact EntityOp.proper_item x.1 h
  · cases hop

/-! ## Leaders

A thermostat that leads its derived sensors goes on leading them, and once it
is known whether it heats, that stays known. -/

theorem not_mem_derivedIds_channel (c c' : Channel) : EntityId.channel c ∉ derivedIds c' := by
  simp [derivedIds]

theorem leader?_eq_some {d : Device} {c : Channel} {k : Entity} :
    d.leader? c = some k ↔
      d.climateSensors ≠ 0 ∧ d.entity? (.channel c) = some k ∧ k.kind = .climate ∧
        k.status.available = true := by
  unfold leader?
  split
  · rename_i h
    simp [h]
  · rename_i h
    simp [h]

theorem climateSensors_move (m : DeviceMove) (d : Device) :
    (m.run d).device.climateSensors = d.climateSensors := by
  cases m with
  | edit id op => exact (keeps_change op.run id d).climateSensors
  | insert e =>
    rw [DeviceMove.device_insert]
    unfold insert add
    cases d.entities.contains e.id <;> rfl
  | register ns id =>
    rw [DeviceMove.device_register]
    unfold register
    split
    · rfl
    · split <;> rfl
  | remove id =>
    rw [DeviceMove.device_remove]
    unfold remove
    split <;> rfl
  | keepDigest _ | warn _ | send _ => rfl

theorem climateSensors_pass (x : Namespace × Item) (d : Device) :
    (pass x d).device.climateSensors = d.climateSensors := by
  have htrace := trace_dispatchItem x.1 x.2 d
  exact Trace.invariant (fun d' m hd' _ => (climateSensors_move m d').trans hd') htrace rfl

/-- What items of each kind report. -/
theorem heard?_cases {kind : Kind} {ns : Namespace} {body : Json} {ρ : Report}
    (h : Entity.heard? kind ns body = some ρ) :
    (∃ on, ρ = .ofPower on) ∨ (∃ r, ρ = .ofLight r) ∨ (∃ text, ρ = .ofState text) ∨
      (∃ x, ρ = .ofDevice x) ∨ (∃ r, ρ = .ofPlayer r) ∨
        kind = .climate ∧ ns = .thermostatMode ∧ ∃ r, ρ = .ofClimate r := by
  have hmap : ∀ {α : Type} {o : Option α} {f : α → Report}, o.map f = some ρ → ∃ a, ρ = f a := by
    intro α o f ho
    obtain ⟨a, -, rfl⟩ := Option.map_eq_some_iff.1 ho
    exact ⟨a, rfl⟩
  have hif : ∀ {b : Bool} {ρ' : Report}, Entity.heardIf b ρ' = some ρ → ρ = ρ' := by
    intro b ρ' hb
    cases b <;> cases hb
    rfl
  unfold Entity.heard? at h
  split at h
  · exact .inl (hmap h)
  · split at h
    · exact .inr (.inl ⟨_, hif h⟩)
    · exact .inr (.inl ⟨_, hif h⟩)
    · exact .inr (.inr (.inl (hmap h)))
    · exact .inr (.inr (.inr (.inr (.inr ⟨rfl, rfl, hmap h⟩))))
    · exact .inr (.inr (.inr (.inl (hmap h))))
    · exact .inr (.inr (.inr (.inr (.inl ⟨_, hif h⟩))))
    · exact .inr (.inr (.inr (.inl (hmap h))))
    · cases h

/-- Once it is reported whether a thermostat heats, that is known. -/
theorem says?_heating {kind : Kind} {op : EntityOp} {v : Option Bool}
    (h : EntityOp.says? kind .heating op = some v) : v.isSome = true := by
  obtain ⟨ρ, hρ, hv⟩ := Option.bind_eq_some_iff.1 h
  cases op with
  | item ns body =>
    rcases heard?_cases hρ with
      ⟨_, rfl⟩ | ⟨_, rfl⟩ | ⟨_, rfl⟩ | ⟨_, rfl⟩ | ⟨_, rfl⟩ | ⟨-, -, r, rfl⟩
    case inr.inr.inr.inr.inr =>
      obtain ⟨_, -, rfl⟩ := Option.map_eq_some_iff.1 hv
      rfl
    all_goals cases hv
  | unavailable => cases hρ
  | _ =>
    simp only [EntityOp.report?, Entity.heardIf] at hρ
    split at hρ <;> cases hρ
    cases hv

/-- Items never report attributes of what has a named state. -/
theorem says?_extra {kind : Kind} (hstate : kind.carries .state = true) (ns : Namespace)
    (body : Json) : EntityOp.says? kind .extra (.item ns body) = none := by
  cases h : EntityOp.says? kind .extra (.item ns body) with
  | none => rfl
  | some v =>
    obtain ⟨ρ, hρ, hv⟩ := Option.bind_eq_some_iff.1 h
    rcases heard?_cases hρ with
      ⟨_, rfl⟩ | ⟨_, rfl⟩ | ⟨_, rfl⟩ | ⟨_, rfl⟩ | ⟨_, rfl⟩ | ⟨rfl, -, r, rfl⟩
    case inr.inr.inr.inr.inr => cases hstate
    all_goals cases hv

section Leader

variable {d : Device} {c : Channel} {k k' : Entity} {x : Namespace × Item} {id : EntityId}

theorem itemOps_channel (x : Namespace × Item) (d : Device) (c : Channel) :
    itemOps x d (.channel c) = d.plainOps (.channel c) x := by
  rw [itemOps, followOps_of_not_mem (not_mem_derivedIds_channel c), List.append_nil]

theorem leader?_pass (hd : d.Fit) (h : d.leader? c = some k) :
    ∃ k', (pass x d).device.leader? c = some k' ∧ TookOps (d.plainOps (.channel c) x) k k' := by
  obtain ⟨hmask, hk, hkind, havailable⟩ := leader?_eq_some.1 h
  obtain ⟨k', hk', htook⟩ := (tookOpsAt_pass hd x (.channel c)).present k hk
  rw [itemOps_channel] at htook
  refine ⟨k', leader?_eq_some.2 ⟨?_, hk', htook.kind.trans hkind, ?_⟩, htook⟩
  · rw [climateSensors_pass]
    exact hmask
  · rw [htook.available, havailable, Bool.true_or]

theorem heating?_eq_join (e : Entity) : e.heating? = (e.status.datum? .heating).join := by
  unfold Entity.heating? Status.datum?
  cases e.status.climate <;> rfl

theorem isSome_heating? {ops : List EntityOp} (h : TookOps ops k k')
    (hk : k.heating?.isSome = true) :
    k'.heating?.isSome = true := by
  rw [heating?_eq_join] at hk ⊢
  rw [h.datum]
  cases hdatum : k.status.datum? .heating with
  | none =>
    rw [hdatum] at hk
    cases hk
  | some a =>
    rw [hdatum] at hk
    refine Part.overwrite_induction (P := fun v : Option Bool => v.isSome = true) hk fun v hv => ?_
    obtain ⟨op, -, hsays⟩ := List.mem_filterMap.1 hv
    exact says?_heating hsays

end Leader

/-! ## Following

Whether the derived sensors of a channel follow, and what they show then, hangs
on the leader of the channel. -/

/-- What the mode sensor is told while a thermostat leads it. -/
def showing (climate : Entity) : EntityOp :=
  .stateWith (Climate.activity climate.power? climate.heating?) (leaderAttributes climate)

/-- Only derived sensors follow, the one by its power, the other by its state. -/
theorem mem_following {d : Device} {c : Channel} {id : EntityId} {op : EntityOp}
    (h : op ∈ d.following c id) :
    (∃ on, id = .keyed c outputPowerKey ∧ op = .power on) ∨
      ∃ k, id = .keyed c modeStateKey ∧ op = showing k := by
  unfold following at h
  split at h
  · cases h
  · rename_i k _
    rcases List.mem_append.1 h with hpower | hmode
    · split at hpower
      · cases hpower
      · exact .inl ⟨_, mem_opAt hpower⟩
    · exact .inr ⟨k, mem_opAt hmode⟩

theorem outputPower_ne_modeState (c : Channel) :
    EntityId.keyed c outputPowerKey ≠ .keyed c modeStateKey := by
  simp [outputPowerKey, modeStateKey]

section Following

variable {d d' : Device} {c : Channel} {id : EntityId}

theorem following_power (h : (d.entity? (.keyed c outputPowerKey)).isSome = true) :
    d.following c (.keyed c outputPowerKey) =
      (((d.leader? c).bind (·.heating?)).map EntityOp.power).toList := by
  unfold following
  cases d.leader? c with
  | none => rfl
  | some climate =>
    simp only [opAt_of_ne (outputPower_ne_modeState c), List.append_nil, Option.bind_some]
    cases climate.heating? with
    | none => rfl
    | some on => exact opAt_self h _

theorem following_mode (h : (d.entity? (.keyed c modeStateKey)).isSome = true) :
    d.following c (.keyed c modeStateKey) = ((d.leader? c).map showing).toList := by
  unfold following
  cases d.leader? c with
  | none => rfl
  | some climate =>
    simp only [opAt_of_ne (outputPower_ne_modeState c).symm, opAt_self h, Option.map_some, showing]
    cases climate.heating? <;> rfl

theorem following_congr (hmask : d'.climateSensors = d.climateSensors)
    (hleader : d'.entity? (.channel c) = d.entity? (.channel c))
    (hthere : ∀ i ∈ derivedIds c, (d'.entity? i).isSome = (d.entity? i).isSome) :
    d'.following c id = d.following c id := by
  have hsame : d'.leader? c = d.leader? c := by
    unfold leader?
    rw [hmask, hleader]
  unfold following opAt
  rw [hsame, hthere _ (List.mem_cons_self ..),
    hthere _ (List.mem_cons_of_mem _ (List.mem_cons_self ..))]

theorem following_persists (hd : d.Fit) (x : Namespace × Item) (hid : id ∈ derivedIds c)
    (h : d.following c id ≠ []) : (pass x d).device.following c id ≠ [] := by
  cases hl : d.leader? c with
  | none =>
    unfold following at h
    rw [hl] at h
    exact absurd rfl h
  | some k =>
    obtain ⟨k', hk', htook⟩ := leader?_pass hd hl (x := x)
    simp only [derivedIds, List.mem_cons, List.not_mem_nil, or_false] at hid
    have hi : (d.entity? id).isSome = true := by
      rw [Option.isSome_iff_ne_none]
      exact fun hnone => h (following_of_none hnone)
    have hi' := (tookOpsAt_pass hd x id).isSome hi
    rcases hid with rfl | rfl
    · rw [following_power hi, hl, Option.bind_some] at h
      rw [following_power hi', hk', Option.bind_some]
      have hheating : k.heating?.isSome = true := by
        cases hh : k.heating? with
        | none =>
          rw [hh] at h
          exact absurd rfl h
        | some on => rfl
      obtain ⟨on, hon⟩ := Option.isSome_iff_exists.1 (isSome_heating? htook hheating)
      rw [hon]
      exact List.cons_ne_nil _ _
    · rw [following_mode hi', hk']
      exact List.cons_ne_nil _ _

theorem following_persists_forEach (hd : d.Fit) (xs : List (Namespace × Item))
    (hid : id ∈ derivedIds c) (h : d.following c id ≠ []) :
    (Action.forEach xs pass d).device.following c id ≠ [] := by
  induction xs generalizing d with
  | nil => exact h
  | cons x xs ih => exact ih (fit_pass x hd) (following_persists hd x hid h)

/-- The item makes the derived sensors of the channel follow. -/
def Leads (d : Device) (c : Channel) (x : Namespace × Item) : Prop :=
  x.1 = .thermostatMode ∧ x.2.channel = some c ∧ d.addressees .thermostatMode c ≠ []

theorem leads_congr (h : ∀ ns c, d'.addressees ns c = d.addressees ns c) (x : Namespace × Item) :
    d'.Leads c x ↔ d.Leads c x := by
  unfold Leads
  rw [h]

theorem leads_pass (x y : Namespace × Item) : (pass x d).device.Leads c y ↔ d.Leads c y :=
  leads_congr (addressees_pass x d) y

/-- Once the derived sensors have followed they would follow in the same way again. -/
theorem following_sync (hs : d.Sound) (c : Channel) (id : EntityId) :
    (syncClimateSensors c d).device.following c id = d.following c id := by
  have hleaves := leaves_sync hs c
  refine following_congr hleaves.climateSensors ?_ fun i _ => ?_
  · exact entity?_sync (not_mem_derivedIds_channel c c) d
  · have hsame := congrArg Option.isSome (hleaves.namespaces i)
    rwa [Option.isSome_map, Option.isSome_map] at hsame

/-- What follows is told what the leader is when all is done. -/
theorem followOps_of_leads (hd : d.Fit) {x : Namespace × Item} (h : d.Leads c x) :
    d.followOps id x = (pass x d).device.following c id := by
  obtain ⟨hns, hc, hne⟩ := h
  rw [← hns] at hne
  unfold followOps
  rw [hc, device_pass hc, if_neg hne, if_pos hns]
  simp only
  rw [if_pos ⟨hns, hne⟩, following_sync (sound_deliver hd x.1 c x.2.body)]

theorem channel?_of_mem_derivedIds (h : id ∈ derivedIds c) : id.channel? = some c := by
  simp only [derivedIds, List.mem_cons, List.not_mem_nil, or_false] at h
  rcases h with rfl | rfl <;> rfl

theorem followOps_of_not_leads {x : Namespace × Item} (hid : id ∈ derivedIds c)
    (h : ¬d.Leads c x) : d.followOps id x = [] := by
  unfold followOps
  split
  · rfl
  · rename_i c' hc'
    split
    · rename_i hns
      refine following_of_not_mem fun hmem => h ?_
      have hsame := (channel?_of_mem_derivedIds hmem).symm.trans (channel?_of_mem_derivedIds hid)
      obtain rfl := Option.some.inj hsame
      exact ⟨hns.1, hc', hns.1 ▸ hns.2⟩
    · rfl

/-! ### Histories of derived sensors -/

/-- Where nothing follows in the end nothing followed before. -/
theorem history_of_following_nil (hd : d.Fit) {xs : List (Namespace × Item)}
    (hid : id ∈ derivedIds c) (h : (Action.forEach xs pass d).device.following c id = []) :
    history pass itemOps xs d id = xs.flatMap (d.plainOps id) := by
  induction xs generalizing d with
  | nil => rfl
  | cons x xs ih =>
    have hfit := fit_pass x hd
    have hafter : (pass x d).device.following c id = [] := by
      by_contra hne
      exact following_persists_forEach hfit xs hid hne h
    have hsilent : d.followOps id x = [] := by
      by_cases hx : d.Leads c x
      · rw [followOps_of_leads hd hx, hafter]
      · exact followOps_of_not_leads hid hx
    rw [history, ih hfit h, itemOps, hsilent, List.append_nil, plainOps_pass, List.flatMap_cons]

/-- Where nothing leads nothing follows. -/
theorem history_of_not_leads {xs : List (Namespace × Item)} (hid : id ∈ derivedIds c)
    (h : ∀ x ∈ xs, ¬d.Leads c x) :
    history pass itemOps xs d id = xs.flatMap (d.plainOps id) := by
  induction xs generalizing d with
  | nil => rfl
  | cons x xs ih =>
    have hrest : ∀ y ∈ xs, ¬(pass x d).device.Leads c y := fun y hy hleads =>
      h y (List.mem_cons_of_mem _ hy) ((leads_pass x y).1 hleads)
    rw [history, ih hrest, itemOps, followOps_of_not_leads hid (h x (List.mem_cons_self ..)),
      List.append_nil, plainOps_pass, List.flatMap_cons]

/-- A thermostat item for another channel leaves the channel alone. -/
theorem pass_of_not_leads (hd : d.Fit) {x : Namespace × Item} (hns : x.1 = .thermostatMode)
    (h : ¬d.Leads c x) {i : EntityId} (hi : i.channel? = some c) :
    (pass x d).device.entity? i = d.entity? i ∧ d.plainOps i x = [] := by
  unfold plainOps isFor
  cases hc : x.2.channel with
  | none =>
    rw [pass, device_dispatchItem_none x.1 hc]
    exact ⟨rfl, rfl⟩
  | some c' =>
    by_cases hnil : d.addressees x.1 c' = []
    · rw [device_pass hc, if_pos hnil, Option.any_some, hnil]
      exact ⟨rfl, rfl⟩
    · have hne : c' ≠ c := by
        rintro rfl
        exact h ⟨hns, hc, hns ▸ hnil⟩
      have hnot : i ∉ d.addressees x.1 c' := by
        intro hmem
        have hsame := (mem_addressees hd.wired hmem).1.symm.trans hi
        exact hne (Option.some.inj hsame)
      have hfor : d.isFor x.1 i x.2 = false := by
        unfold isFor
        rw [hc, Option.any_some, ← Bool.not_eq_true, List.contains_iff_mem]
        exact hnot
      refine ⟨?_, if_neg fun hmem => hnot (List.contains_iff_mem.1 hmem)⟩
      rw [pass, entity?_dispatchItem hd.wired x.1 x.2 ?_, hfor]
      · rfl
      · intro _ c'' hc'' hmem
        rw [hc] at hc''
        obtain rfl := Option.some.inj hc''
        have hsame := (channel?_of_mem_derivedIds hmem).symm.trans hi
        exact hne (Option.some.inj hsame)

theorem forEach_of_not_leads (hd : d.Fit) {xs : List (Namespace × Item)}
    (hns : ∀ x ∈ xs, x.1 = .thermostatMode) (h : ∀ x ∈ xs, ¬d.Leads c x) {i : EntityId}
    (hi : i.channel? = some c) :
    (Action.forEach xs pass d).device.entity? i = d.entity? i ∧
      xs.flatMap (d.plainOps i) = [] := by
  induction xs generalizing d with
  | nil => exact ⟨rfl, rfl⟩
  | cons x xs ih =>
    obtain ⟨hx, hplain⟩ := pass_of_not_leads hd (hns x (List.mem_cons_self ..))
      (h x (List.mem_cons_self ..)) hi
    obtain ⟨hxs, hplains⟩ := ih (fit_pass x hd) (fun y hy => hns y (List.mem_cons_of_mem _ hy))
      fun y hy hleads => h y (List.mem_cons_of_mem _ hy) ((leads_pass x y).1 hleads)
    rw [plainOps_pass] at hplains
    rw [List.flatMap_cons, hplain, hplains]
    exact ⟨hxs.trans hx, rfl⟩

theorem climateSensors_forEach (xs : List (Namespace × Item)) (d : Device) :
    (Action.forEach xs pass d).device.climateSensors = d.climateSensors := by
  induction xs generalizing d with
  | nil => rfl
  | cons x xs ih => exact (ih _).trans (climateSensors_pass x d)

/-- What follows at all is told last what the leader is in the end. -/
theorem history_of_leads (hd : d.Fit) {xs : List (Namespace × Item)}
    (hid : id ∈ derivedIds c) (hns : ∀ x ∈ xs, x.1 = .thermostatMode)
    (h : ∃ x ∈ xs, d.Leads c x) :
    ∃ before, history pass itemOps xs d id =
      before ++ (Action.forEach xs pass d).device.following c id := by
  induction xs generalizing d with
  | nil =>
    obtain ⟨x, hx, -⟩ := h
    cases hx
  | cons x xs ih =>
    have hfit := fit_pass x hd
    have hnsxs : ∀ y ∈ xs, y.1 = .thermostatMode := fun y hy => hns y (List.mem_cons_of_mem _ hy)
    by_cases hrest : ∃ y ∈ xs, (pass x d).device.Leads c y
    · obtain ⟨before, hbefore⟩ := ih hfit hnsxs hrest
      refine ⟨itemOps x d id ++ before, ?_⟩
      rw [history, hbefore, List.append_assoc]
      rfl
    · -- the first item is the last that leads, and the others leave the channel alone
      have hnone : ∀ y ∈ xs, ¬(pass x d).device.Leads c y := fun y hy hleads =>
        hrest ⟨y, hy, hleads⟩
      have hx : d.Leads c x := by
        obtain ⟨y, hy, hleads⟩ := h
        rcases List.mem_cons.1 hy with rfl | hy
        · exact hleads
        · exact absurd ((leads_pass x y).2 hleads) (hnone y hy)
      have hstill : ∀ {i : EntityId}, i.channel? = some c →
          (Action.forEach xs pass (pass x d).device).device.entity? i =
            (pass x d).device.entity? i := fun hi =>
        (forEach_of_not_leads hfit hnsxs hnone hi).1
      have hsame : (Action.forEach (x :: xs) pass d).device.following c id =
          (pass x d).device.following c id := by
        refine following_congr (climateSensors_forEach xs _) (hstill rfl) fun i hi => ?_
        exact congrArg Option.isSome (hstill (channel?_of_mem_derivedIds hi))
      refine ⟨d.plainOps id x, ?_⟩
      rw [history, history_of_not_leads hid hnone,
        (forEach_of_not_leads hfit hnsxs hnone (channel?_of_mem_derivedIds hid)).2,
        List.append_nil, hsame, itemOps, followOps_of_leads hd hx]

end Following

end Device

end Appliance
