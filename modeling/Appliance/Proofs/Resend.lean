-- SUMMARY: Items that are passed on again leave the device as it is.

import Appliance.Proofs.Showing

namespace Appliance

namespace Device

open Entity (TookOps Replays)

/-! ## Items that come again

The second time, the device is as the first time left it. All items reach
those that they reached, so only what follows a thermostat may go another way. -/

/-- The devices differ in what they keep of their descriptors at most. -/
structure Alike (d d' : Device) : Prop where
  entities : d'.entities = d.entities
  dispatcher : d'.dispatcher = d.dispatcher
  climateSensors : d'.climateSensors = d.climateSensors

namespace Alike

variable {d d' : Device}

theorem entity? (h : Alike d d') (id : EntityId) : d'.entity? id = d.entity? id := by
  unfold Device.entity?
  rw [h.entities]

theorem addressees (h : Alike d d') (ns : Namespace) (c : Channel) :
    d'.addressees ns c = d.addressees ns c := by
  unfold Device.addressees
  rw [h.dispatcher]

theorem addressees_of_forEach {xs : List (Namespace × Item)}
    (h : Alike (Action.forEach xs pass d).device d') (ns : Namespace) (c : Channel) :
    d'.addressees ns c = d.addressees ns c :=
  (h.addressees ns c).trans (addressees_forEach xs d ns c)

theorem enrolls (h : Alike d d') (ns : Namespace) : d'.enrolls ns = d.enrolls ns := by
  unfold Device.enrolls
  rw [h.dispatcher]

theorem receptive (h : Alike d d') {x : Namespace × Item} (hx : Receptive x d) :
    Receptive x d' := by
  intro c hc id hid
  rw [h.addressees] at hid
  rw [h.entity?, h.enrolls]
  exact hx c hc id hid

end Alike

/-- Only items whose namespace makes default entities put any in. -/
theorem pass_absent {d : Device} (hd : d.Fit) (x : Namespace × Item) {id : EntityId}
    (hid : ∀ kind c, x.1.policy = .createDefault kind → id ≠ defaultId kind c)
    (h : d.entity? id = none) : (pass x d).device.entity? id = none := by
  cases hc : x.2.channel with
  | none =>
    rw [pass, device_dispatchItem_none x.1 hc]
    exact h
  | some c =>
    by_cases hnil : d.addressees x.1 c = []
    · rw [device_pass hc, if_pos hnil]
      exact h
    · have hnot : id ∉ d.addressees x.1 c := by
        intro hmem
        rcases (mem_addressees hd.wired hmem).2 with ⟨e, he⟩ | ⟨kind, hp, hsame⟩
        · rw [h] at he
          cases he
        · exact hid kind c hp hsame
      have hdeliver : (d.deliver x.1 c x.2.body).entity? id = none := by
        rw [entity?_deliver hd.wired, if_neg hnot]
        exact h
      have hsame := (leaves_pass hd hc hnil).namespaces id
      rw [hdeliver, Option.map_none, Option.map_eq_none_iff] at hsame
      exact hsame

theorem forEach_absent {d : Device} (hd : d.Fit) {xs : List (Namespace × Item)} {id : EntityId}
    (hid : ∀ x ∈ xs, ∀ kind c, x.1.policy = .createDefault kind → id ≠ defaultId kind c)
    (h : d.entity? id = none) : (Action.forEach xs pass d).device.entity? id = none := by
  induction xs generalizing d with
  | nil => exact h
  | cons x xs ih =>
    exact ih (fit_pass x hd) (fun y hy => hid y (List.mem_cons_of_mem _ hy))
      (pass_absent hd x (hid x (List.mem_cons_self ..)) h)

theorem defaultId_not_mem_derivedIds (kind : Kind) (c c' : Channel) :
    defaultId kind c ∉ derivedIds c' := by
  unfold defaultId derivedIds outputPowerKey modeStateKey
  split <;> simp

/-! ### Operations that are not said -/

/-- Where what follows says nothing of a part, the items are all that is said. -/
theorem writes_history {kind : Kind} {p : Part} {id : EntityId}
    (h : ∀ (d : Device) x, ∀ op ∈ d.followOps id x, EntityOp.says? kind p op = none)
    (xs : List (Namespace × Item)) (d : Device) :
    EntityOp.writes kind p (history pass itemOps xs d id) =
      EntityOp.writes kind p (xs.flatMap (d.plainOps id)) := by
  induction xs generalizing d with
  | nil => rfl
  | cons x xs ih =>
    have hnil : EntityOp.writes kind p (d.followOps id x) = [] :=
      List.filterMap_eq_nil_iff.2 (h d x)
    rw [history, EntityOp.writes_append, ih, itemOps, EntityOp.writes_append, hnil, List.append_nil,
      plainOps_pass, List.flatMap_cons, EntityOp.writes_append]

theorem heard_history {kind : Kind} {id : EntityId}
    (h : ∀ (d : Device) x, ∀ op ∈ d.followOps id x, op.heard kind = false)
    (xs : List (Namespace × Item)) (d : Device) :
    (history pass itemOps xs d id).any (·.heard kind) =
      (xs.flatMap (d.plainOps id)).any (·.heard kind) := by
  induction xs generalizing d with
  | nil => rfl
  | cons x xs ih =>
    have hnil : (d.followOps id x).any (·.heard kind) = false := by
      rw [List.any_eq_false]
      intro op hop
      rw [h d x op hop]
      exact Bool.noConfusion
    rw [history, List.any_append, ih, itemOps, List.any_append, hnil, Bool.or_false,
      plainOps_pass, List.flatMap_cons, List.any_append]

theorem mem_followOps {d : Device} {id : EntityId} {x : Namespace × Item} {op : EntityOp}
    (h : op ∈ d.followOps id x) :
    (∃ c on, id = .keyed c outputPowerKey ∧ op = .power on) ∨
      ∃ c k, id = .keyed c modeStateKey ∧ op = showing k := by
  unfold followOps at h
  split at h
  · cases h
  · rename_i c _
    split at h
    · rcases mem_following h with ⟨on, hop⟩ | ⟨k, hop⟩
      · exact .inl ⟨c, on, hop⟩
      · exact .inr ⟨c, k, hop⟩
    · cases h

theorem followOps_outputPower {d : Device} {c : Channel} {x : Namespace × Item} {op : EntityOp}
    (h : op ∈ d.followOps (.keyed c outputPowerKey) x) : ∃ on, op = .power on := by
  rcases mem_followOps h with ⟨-, on, -, rfl⟩ | ⟨c', k, hid, -⟩
  · exact ⟨on, rfl⟩
  · simp [outputPowerKey, modeStateKey] at hid

theorem followOps_modeState {d : Device} {c : Channel} {x : Namespace × Item} {op : EntityOp}
    (h : op ∈ d.followOps (.keyed c modeStateKey) x) : ∃ k, op = showing k := by
  rcases mem_followOps h with ⟨c', on, hid, -⟩ | ⟨-, k, -, rfl⟩
  · simp [outputPowerKey, modeStateKey] at hid
  · exact ⟨k, rfl⟩

private theorem bind_heardIf (b : Bool) (ρ : Report) (p : Part) :
    (Entity.heardIf b ρ).bind (fun ρ => ρ p) = if b then ρ p else none := by
  cases b <;> rfl

private theorem isSome_heardIf (b : Bool) (ρ : Report) : (Entity.heardIf b ρ).isSome = b := by
  cases b <;> rfl

theorem says?_power (kind : Kind) (p : Part) (on : Bool) :
    EntityOp.says? kind p (.power on) = if kind.carries .power then Report.ofPower on p else none :=
  bind_heardIf _ _ p

theorem says?_showing (kind : Kind) (p : Part) (k : Entity) :
    EntityOp.says? kind p (showing k) =
      if kind.carries .state then
        Report.ofStateWith (Climate.activity k.power? k.heating?) (leaderAttributes k) p
      else none := bind_heardIf _ _ p

theorem heard_power (kind : Kind) (on : Bool) :
    (EntityOp.power on).heard kind = kind.carries .power := isSome_heardIf _ _

theorem heard_showing (kind : Kind) (k : Entity) :
    (showing k).heard kind = kind.carries .state := isSome_heardIf _ _

/-! ### The second time -/

section Again

variable {xs : List (Namespace × Item)} {d d' : Device}

variable (hbody : ∀ x ∈ xs, x.2.body.WellFormed)

include hbody in
theorem proper_flatMap_plainOps (id : EntityId) :
    ∀ op ∈ xs.flatMap (d.plainOps id), op.Proper := by
  intro op hop
  obtain ⟨x, hx, hop⟩ := List.mem_flatMap.1 hop
  exact proper_plainOps (hbody x hx) d id op hop

section Addressees

variable (haddressees : ∀ ns c, d'.addressees ns c = d.addressees ns c)
include haddressees

theorem heard_again {kind : Kind} {id : EntityId}
    (h : ∀ (d : Device) x, ∀ op ∈ d.followOps id x, op.heard kind = false) :
    (history pass itemOps xs d' id).any (·.heard kind) =
      (history pass itemOps xs d id).any (·.heard kind) := by
  rw [heard_history h, heard_history h, plainOps_congr haddressees]

include hbody

/-- Where the items are all that happens, the same happens again. -/
theorem replays_plain {kind : Kind} {id : EntityId}
    (hd : history pass itemOps xs d id = xs.flatMap (d.plainOps id))
    (hd' : history pass itemOps xs d' id = xs.flatMap (d'.plainOps id)) :
    Replays kind (history pass itemOps xs d id) (history pass itemOps xs d' id) := by
  rw [hd, hd', plainOps_congr haddressees]
  exact Entity.replays_self (proper_flatMap_plainOps hbody id)

/-- Where the items are all that is said of a part, they say the same again. -/
theorem overwrite_again {kind : Kind} {p : Part} {id : EntityId}
    (h : ∀ (d : Device) x, ∀ op ∈ d.followOps id x, EntityOp.says? kind p op = none) (a : p.Value) :
    Part.overwrite (EntityOp.writes kind p (history pass itemOps xs d' id))
        (Part.overwrite (EntityOp.writes kind p (history pass itemOps xs d id)) a) =
      Part.overwrite (EntityOp.writes kind p (history pass itemOps xs d id)) a := by
  rw [writes_history h, writes_history h, plainOps_congr haddressees]
  exact Part.overwrite_overwrite (EntityOp.proper_writes (proper_flatMap_plainOps hbody id)) a

theorem replays_unheard {kind : Kind} {id : EntityId}
    (h : ∀ (d : Device) x, ∀ op ∈ d.followOps id x, op.heard kind = false) :
    Replays kind (history pass itemOps xs d id) (history pass itemOps xs d' id) where
  heard hheard := by
    rwa [heard_again haddressees h] at hheard
  overwrite p a :=
    overwrite_again hbody haddressees
      (fun d x op hop => EntityOp.says?_of_not_heard (h d x op hop) p) a

theorem replays_power {kind : Kind} {c : Channel} {on : Bool} {before before' : List EntityOp}
    (hd : history pass itemOps xs d (.keyed c outputPowerKey) = before ++ [.power on])
    (hd' : history pass itemOps xs d' (.keyed c outputPowerKey) = before' ++ [.power on]) :
    Replays kind (history pass itemOps xs d (.keyed c outputPowerKey))
      (history pass itemOps xs d' (.keyed c outputPowerKey)) := by
  cases hcarries : kind.carries .power with
  | false =>
    refine replays_unheard hbody haddressees fun d x op hop => ?_
    obtain ⟨on, rfl⟩ := followOps_outputPower hop
    rw [heard_power, hcarries]
  | true =>
    refine ⟨fun _ => ?_, fun p a => ?_⟩
    · rw [hd]
      exact EntityOp.any_heard_concat ((heard_power kind on).trans hcarries) before
    · by_cases hp : p = .power
      · subst hp
        have hsays := says?_power kind .power on
        rw [hcarries, if_pos rfl] at hsays
        have hlast := EntityOp.getLast?_writes_concat hsays
        rw [hd, hd']
        exact Part.overwrite_lawful_again (α := Option Bool)
          ((hlast before').trans (hlast before).symm) a
      · refine overwrite_again hbody haddressees (fun d x op hop => ?_) a
        obtain ⟨on, rfl⟩ := followOps_outputPower hop
        rw [says?_power, hcarries, if_pos rfl]
        cases p <;> first | rfl | exact absurd rfl hp

end Addressees

/-! ### Thermostats last

Digests speak of thermostats last, and the items of a message all have one
namespace. So once a thermostat item was passed on all others are, too. -/

def ThermostatsLast (xs : List (Namespace × Item)) : Prop :=
  xs.Pairwise fun x y => x.1 = .thermostatMode → y.1 = .thermostatMode

theorem ThermostatsLast.split (h : ThermostatsLast xs) :
    ∃ ys zs, xs = ys ++ zs ∧ (∀ y ∈ ys, y.1 ≠ .thermostatMode) ∧
      ∀ z ∈ zs, z.1 = .thermostatMode := by
  induction xs with
  | nil => exact ⟨[], [], rfl, List.forall_mem_nil _, List.forall_mem_nil _⟩
  | cons x xs ih =>
    obtain ⟨hx, hxs⟩ := List.pairwise_cons.1 h
    by_cases hns : x.1 = .thermostatMode
    · refine ⟨[], x :: xs, rfl, List.forall_mem_nil _, fun z hz => ?_⟩
      rcases List.mem_cons.1 hz with rfl | hz
      · exact hns
      · exact hx z hz hns
    · obtain ⟨ys, zs, rfl, hys, hzs⟩ := ih hxs
      refine ⟨x :: ys, zs, rfl, fun y hy => ?_, hzs⟩
      rcases List.mem_cons.1 hy with rfl | hy
      · exact hns
      · exact hys y hy

/-- Only thermostat items report modes and targets. -/
theorem says?_of_ne_thermostat {kind : Kind} {p : Part} (hp : p = .mode ∨ p = .target)
    {ns : Namespace} (hns : ns ≠ .thermostatMode) (body : Json) :
    EntityOp.says? kind p (.item ns body) = none := by
  cases hρ : (EntityOp.item ns body).report? kind with
  | none => simp [EntityOp.says?, hρ]
  | some ρ =>
    rcases heard?_cases hρ with
      ⟨_, rfl⟩ | ⟨_, rfl⟩ | ⟨_, rfl⟩ | ⟨_, rfl⟩ | ⟨_, rfl⟩ | ⟨-, hthermostat, -⟩
    case inr.inr.inr.inr.inr => exact absurd hthermostat hns
    all_goals
      rw [EntityOp.says?, hρ]
      rcases hp with rfl | rfl <;> rfl

theorem writes_of_ne_thermostat {kind : Kind} {p : Part} {c : Channel}
    (hys : ∀ y ∈ xs, y.1 ≠ .thermostatMode) (hp : p = .mode ∨ p = .target) :
    EntityOp.writes kind p (history pass itemOps xs d (.channel c)) = [] := by
  rw [history_plain fun x _ d => followOps_of_not_mem (not_mem_derivedIds_channel c) x]
  apply List.filterMap_eq_nil_iff.2
  intro op hop
  obtain ⟨y, hy, hop⟩ := List.mem_flatMap.1 hop
  rcases plainOps_cases d (.channel c) y with hnil | hitem
  · rw [hnil] at hop
    cases hop
  · rw [hitem] at hop
    obtain rfl := List.mem_singleton.1 hop
    exact says?_of_ne_thermostat hp (hys y hy) y.2.body

/-- Thermostat items make no thermostat. -/
theorem exists_of_thermostats {c : Channel} {e : Entity} (hd : d.Fit)
    (hxs : ∀ x ∈ xs, x.1 = .thermostatMode)
    (he : (Action.forEach xs pass d).device.entity? (.channel c) = some e) :
    ∃ e', d.entity? (.channel c) = some e' := by
  rw [← Option.isSome_iff_exists, Option.isSome_iff_ne_none]
  intro hnone
  have hnotDefault : ∀ x ∈ xs, ∀ kind c', x.1.policy = .createDefault kind →
      EntityId.channel c ≠ defaultId kind c' := by
    intro x hx kind c' hp
    rw [hxs x hx] at hp
    cases hp
  rw [forEach_absent hd hnotDefault hnone] at he
  cases he

/-! ### Mode sensors -/

section ModeSensor

variable {c : Channel} (hd : d.Fit) (hd' : d'.Fit)
  (halike : Alike (Action.forEach xs pass d).device d')
  {ys zs : List (Namespace × Item)} (hxs : xs = ys ++ zs)
  (hys : ∀ y ∈ ys, y.1 ≠ .thermostatMode) (hzs : ∀ z ∈ zs, z.1 = .thermostatMode)
  {k : Entity} (hk : (Action.forEach xs pass d).device.leader? c = some k)
include hd hd' halike hxs hys hzs hk

/-- Before the first thermostat item comes again, the thermostat has the mode
    and the target that it ended with. -/
theorem catchesUp :
    ∃ e e', (Action.forEach ys pass d).device.entity? (.channel c) = some e ∧
      (Action.forEach ys pass d').device.entity? (.channel c) = some e' ∧ CatchesUp k e e' := by
  obtain ⟨-, hfinal, hkind, havailable⟩ := leader?_eq_some.1 hk
  have hsplit : (Action.forEach xs pass d).device =
      (Action.forEach zs pass (Action.forEach ys pass d).device).device := by
    rw [hxs, Action.forEach_append]
  have hfit : (Action.forEach ys pass d).device.Fit := (repeatable_pass ys).fit_forEach hd
  have hk' : d'.entity? (.channel c) = some k := (halike.entity? _).trans hfinal
  rw [hsplit] at hfinal
  obtain ⟨e, he⟩ := exists_of_thermostats hfit hzs hfinal
  obtain ⟨k₁, hk₁, htook⟩ := ((repeatable_pass zs).tookOpsAt_forEach hfit (.channel c)).present e he
  rw [hk₁] at hfinal
  obtain rfl := Option.some.inj hfinal
  obtain ⟨e', he', htook'⟩ :=
    ((repeatable_pass ys).tookOpsAt_forEach hd' (.channel c)).present k₁ hk'
  refine ⟨e, e', he, he', htook.kind.symm.trans hkind, htook'.kind.trans hkind, htook.clear.symm,
    htook'.clear, ?_, .inl ⟨?_, ?_⟩⟩
  · rw [htook'.available, havailable, Bool.true_or]
  · exact htook'.datum_of_unsaid (writes_of_ne_thermostat hys (.inl rfl))
  · exact htook'.datum_of_unsaid (writes_of_ne_thermostat hys (.inr rfl))

include hbody

/-- The attributes of a mode sensor come out the same, too. -/
theorem overwrite_leaders
    (hlast : ((leaders c xs d).map leaderAttributes).getLast? = some (leaderAttributes k))
    (hlast' : ((leaders c xs d').map leaderAttributes).getLast? = some (leaderAttributes k))
    (a : List (String × Json)) :
    Part.overwrite ((leaders c xs d').map leaderAttributes)
        (Part.overwrite ((leaders c xs d).map leaderAttributes) a) =
      Part.overwrite ((leaders c xs d).map leaderAttributes) a := by
  have hfit : (Action.forEach ys pass d).device.Fit := (repeatable_pass ys).fit_forEach hd
  have hfit' : (Action.forEach ys pass d').device.Fit := (repeatable_pass ys).fit_forEach hd'
  obtain ⟨e, e', he, he', hcatches⟩ := catchesUp hd hd' halike hxs hys hzs hk
  have htail : ∀ d : Device, leaders c xs d = leaders c zs (Action.forEach ys pass d).device := by
    intro d
    rw [hxs, leaders_append, leaders_of_ne_thermostat hys, List.nil_append]
  have hsteady : ∀ {d : Device}, d.Fit → Part.Steady ((leaders c zs d).map leaderAttributes) := by
    intro d hd
    have hall := steady_leaders (c := c) hd hzs
    rw [List.map_append] at hall
    exact hall.right_of_append
  rw [htail] at hlast hlast' ⊢
  rw [htail]
  refine (hsteady hfit).overwrite_overwrite (hsteady hfit') (hlast'.trans hlast.symm)
    fun hall w hw => ?_
  obtain ⟨hmask, hfinal, -⟩ := leader?_eq_some.1 hk
  have hfinalSound : k.Sound := ((repeatable_pass xs).fit_forEach hd).sound _ _ hfinal
  have hmask' : (Action.forEach ys pass d).device.climateSensors ≠ 0 := by
    rwa [climateSensors_forEach] at hmask ⊢
  have haddressees : ∀ ns c, (Action.forEach ys pass d').device.addressees ns c =
      (Action.forEach ys pass d).device.addressees ns c := by
    intro ns c
    rw [addressees_forEach, addressees_forEach, halike.addressees_of_forEach]
  obtain ⟨k', hk', rfl⟩ := List.mem_map.1 hw
  refine leaders_again hzs (fun z hz => hbody z ?_) hfinalSound
    (hall _ (List.mem_of_getLast? hlast)) hfit hfit' haddressees hmask' he he' hcatches
    (fun k hk => hall _ (List.mem_map_of_mem hk)) k' hk'
  rw [hxs]
  exact List.mem_append_right _ hz

variable (hthere : (d.entity? (.keyed c modeStateKey)).isSome = true)
  (hthere' : (d'.entity? (.keyed c modeStateKey)).isSome = true) {before before' : List EntityOp}
  (hlast : history pass itemOps xs d (.keyed c modeStateKey) = before ++ [showing k])
  (hlast' : history pass itemOps xs d' (.keyed c modeStateKey) = before' ++ [showing k])
  {kind : Kind}
include hthere hthere' hlast hlast'

/-- A mode sensor shows the leader's attributes of the last time at the end. -/
theorem overwrite_extra_again (hcarries : kind.carries .state = true)
    (a : List (String × Json)) :
    Part.overwrite
      (EntityOp.writes kind .extra (history pass itemOps xs d' (.keyed c modeStateKey)))
        (Part.overwrite
          (EntityOp.writes kind .extra (history pass itemOps xs d (.keyed c modeStateKey))) a) =
      Part.overwrite
        (EntityOp.writes kind .extra (history pass itemOps xs d (.keyed c modeStateKey))) a := by
  have hsays : EntityOp.says? kind .extra (showing k) = some (leaderAttributes k) := by
    rw [says?_showing, hcarries, if_pos rfl]
    rfl
  have hwrites := writes_extra xs hcarries hd hthere
  have hwrites' := writes_extra xs hcarries hd' hthere'
  rw [hwrites, hwrites']
  refine overwrite_leaders hbody hd hd' halike hxs hys hzs hk ?_ ?_ a
  · rw [← hwrites, hlast]
    exact EntityOp.getLast?_writes_concat hsays before
  · rw [← hwrites', hlast']
    exact EntityOp.getLast?_writes_concat hsays before'

theorem replays_mode :
    Replays kind (history pass itemOps xs d (.keyed c modeStateKey))
      (history pass itemOps xs d' (.keyed c modeStateKey)) := by
  have haddressees := halike.addressees_of_forEach
  cases hcarries : kind.carries .state with
  | false =>
    refine replays_unheard hbody haddressees fun d x op hop => ?_
    obtain ⟨k, rfl⟩ := followOps_modeState hop
    rw [heard_showing, hcarries]
  | true =>
    refine ⟨fun _ => ?_, fun p a => ?_⟩
    · rw [hlast]
      exact EntityOp.any_heard_concat ((heard_showing kind k).trans hcarries) before
    · by_cases hstate : p = .state
      · subst hstate
        have hsays := says?_showing kind .state k
        rw [hcarries, if_pos rfl] at hsays
        have hends := EntityOp.getLast?_writes_concat hsays
        rw [hlast, hlast']
        exact Part.overwrite_lawful_again (α := Option String)
          ((hends before').trans (hends before).symm) a
      by_cases hextra : p = .extra
      · subst hextra
        exact overwrite_extra_again hbody hd hd' halike hxs hys hzs hk hthere hthere' hlast hlast'
          hcarries a
      refine overwrite_again hbody haddressees (fun d x op hop => ?_) a
      obtain ⟨k, rfl⟩ := followOps_modeState hop
      rw [says?_showing, hcarries, if_pos rfl]
      cases p <;> first | rfl | exact absurd rfl hstate | exact absurd rfl hextra

end ModeSensor

/-! ### All entities -/

/-- Derived sensors are never made by items. -/
theorem isSome_of_derived (hd : d.Fit) {c : Channel} {id : EntityId} (hid : id ∈ derivedIds c)
    (h : ((Action.forEach xs pass d).device.entity? id).isSome = true) :
    (d.entity? id).isSome = true := by
  rw [Option.isSome_iff_ne_none] at h ⊢
  intro hnone
  refine h (forEach_absent hd (fun x _ kind c' _ hsame => ?_) hnone)
  rw [hsame] at hid
  exact defaultId_not_mem_derivedIds kind c' c hid

/-- Where thermostat items reach anybody, what follows is told last what the
    leader is when all is done. -/
theorem history_ends (hd : d.Fit) {c : Channel} {id : EntityId} (hid : id ∈ derivedIds c)
    {ys zs : List (Namespace × Item)} (hxs : xs = ys ++ zs)
    (hys : ∀ y ∈ ys, y.1 ≠ .thermostatMode) (hzs : ∀ z ∈ zs, z.1 = .thermostatMode)
    (h : ∃ x ∈ xs, d.Leads c x) :
    ∃ before, history pass itemOps xs d id =
      before ++ (Action.forEach xs pass d).device.following c id := by
  have hleads : ∃ z ∈ zs, (Action.forEach ys pass d).device.Leads c z := by
    obtain ⟨x, hx, hleads⟩ := h
    rw [hxs] at hx
    rcases List.mem_append.1 hx with hy | hz
    · exact absurd hleads.1 (hys x hy)
    · exact ⟨x, hz, (leads_congr (addressees_forEach ys d) x).2 hleads⟩
  obtain ⟨before, hbefore⟩ := history_of_leads ((repeatable_pass ys).fit_forEach hd) hid hzs hleads
  refine ⟨history pass itemOps ys d id ++ before, ?_⟩
  rw [hxs, history_append, hbefore, List.append_assoc, Action.forEach_append]

section Resend

variable (hd : d.Fit) (halike : Alike (Action.forEach xs pass d).device d')
include hd halike

theorem ready_again : ∀ x ∈ xs, Receptive x d' := fun x hx =>
  halike.receptive ((repeatable_pass xs).ready_forEach hd x hx)

variable (hd' : d'.Fit)
include hd'

/-- An entity whose operations change nothing when they come again stays. -/
theorem entity?_of_replays {id : EntityId}
    (h : ∀ e, d'.entity? id = some e →
      Replays e.kind (history pass itemOps xs d id) (history pass itemOps xs d' id)) :
    (Action.forEach xs pass d').device.entity? id = d'.entity? id := by
  refine (repeatable_pass xs).entity?_forEach hd' (ready_again hd halike)
    fun e he => ?_
  have hfinal : (Action.forEach xs pass d).device.entity? id = some e :=
    (halike.entity? id).symm.trans he
  obtain ⟨e₀, -, htook⟩ := ((repeatable_pass xs).tookOpsAt_forEach hd id).origin hd.sound hfinal
  exact ⟨_, e₀, htook, h e he⟩

include hbody

theorem entity?_of_plain {id : EntityId} (hid : ∀ c, id ∉ derivedIds c) :
    (Action.forEach xs pass d').device.entity? id = d'.entity? id := by
  refine entity?_of_replays hd halike hd' fun e _ => ?_
  exact replays_plain hbody halike.addressees_of_forEach
    (history_plain fun x _ d => followOps_of_not_mem hid x)
    (history_plain fun x _ d => followOps_of_not_mem hid x)

/-- The derived sensors follow to the same end. -/
theorem following_again (c : Channel) (id : EntityId) :
    (Action.forEach xs pass d').device.following c id =
      (Action.forEach xs pass d).device.following c id := by
  have hleaves := (repeatable_pass xs).leaves_forEach hd' (ready_again hd halike)
  refine following_congr (hleaves.climateSensors.trans halike.climateSensors) ?_ fun i _ => ?_
  · rw [entity?_of_plain hbody hd halike hd' (not_mem_derivedIds_channel c), halike.entity?]
  · have hsame := congrArg Option.isSome (hleaves.namespaces i)
    rwa [Option.isSome_map, Option.isSome_map, halike.entity?] at hsame

variable (hxs : ThermostatsLast xs)
include hxs

/-- What follows a thermostat is told the same last both times. -/
theorem replays_of_leads {kind : Kind} {c : Channel} {id : EntityId} (hid : id ∈ derivedIds c)
    (hthere' : (d'.entity? id).isSome = true) (hleads : ∃ x ∈ xs, d.Leads c x) :
    Replays kind (history pass itemOps xs d id) (history pass itemOps xs d' id) := by
  have haddressees := halike.addressees_of_forEach
  have hleads' : ∃ x ∈ xs, d'.Leads c x := by
    obtain ⟨x, hx, hlead⟩ := hleads
    exact ⟨x, hx, (leads_congr haddressees x).2 hlead⟩
  have hfinal : ((Action.forEach xs pass d).device.entity? id).isSome = true := by
    rw [← halike.entity?]
    exact hthere'
  have hthere := isSome_of_derived hd hid hfinal
  have hagain := following_again hbody hd halike hd' c id
  obtain ⟨ys, zs, hsplit, hys, hzs⟩ := hxs.split
  obtain ⟨before, hlast⟩ := history_ends hd hid hsplit hys hzs hleads
  obtain ⟨before', hlast'⟩ := history_ends hd' hid hsplit hys hzs hleads'
  rw [hagain] at hlast'
  cases hfollowing : (Action.forEach xs pass d).device.following c id with
  | nil =>
    exact replays_plain hbody haddressees (history_of_following_nil hd hid hfollowing)
      (history_of_following_nil hd' hid (hagain.trans hfollowing))
  | cons op ops =>
    simp only [derivedIds, List.mem_cons, List.not_mem_nil, or_false] at hid
    rcases hid with rfl | rfl
    · rw [following_power hfinal] at hlast hlast' hfollowing
      cases hon : ((Action.forEach xs pass d).device.leader? c).bind (·.heating?) with
      | none =>
        rw [hon] at hfollowing
        cases hfollowing
      | some on =>
        rw [hon] at hlast hlast'
        exact replays_power hbody haddressees hlast hlast'
    · rw [following_mode hfinal] at hlast hlast' hfollowing
      cases hk : (Action.forEach xs pass d).device.leader? c with
      | none =>
        rw [hk] at hfollowing
        cases hfollowing
      | some k =>
        rw [hk] at hlast hlast'
        exact replays_mode hbody hd hd' halike hsplit hys hzs hk hthere hthere' hlast hlast'

theorem entity?_of_derived {c : Channel} {id : EntityId} (hid : id ∈ derivedIds c) :
    (Action.forEach xs pass d').device.entity? id = d'.entity? id := by
  refine entity?_of_replays hd halike hd' fun e he => ?_
  by_cases hleads : ∃ x ∈ xs, d.Leads c x
  · exact replays_of_leads hbody hd halike hd' hxs hid (Option.isSome_iff_exists.2 ⟨e, he⟩) hleads
  · have haddressees := halike.addressees_of_forEach
    have hnot : ∀ x ∈ xs, ¬d.Leads c x := fun x hx hlead => hleads ⟨x, hx, hlead⟩
    have hnot' : ∀ x ∈ xs, ¬d'.Leads c x := fun x hx hlead =>
      hnot x hx ((leads_congr haddressees x).1 hlead)
    exact replays_plain hbody haddressees (history_of_not_leads hid hnot)
      (history_of_not_leads hid hnot')

/-- Items that are all passed on again leave the device as it is. -/
theorem forEach_pass_again : (Action.forEach xs pass d').device = d' := by
  have hleaves := (repeatable_pass xs).leaves_forEach hd' (ready_again hd halike)
  refine hleaves.toKeeps.eq fun id => ?_
  by_cases hid : ∃ c, id ∈ derivedIds c
  · obtain ⟨c, hid⟩ := hid
    exact entity?_of_derived hbody hd halike hd' hxs hid
  · exact entity?_of_plain hbody hd halike hd' fun c hmem => hid ⟨c, hmem⟩

end Resend

end Again

end Device

end Appliance
