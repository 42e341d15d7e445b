-- SUMMARY: To select a preset of a thermostat is to select the first mode that has its name, which then shows it.

import Appliance.Proofs.Thermostat

namespace Appliance

/-! ## Presets and modes

A mode is looked up by a name and a name by a mode, and each time the first
pair counts. Where no two pairs have the same mode, the one undoes the other. -/

namespace Presets

variable {p : Presets} {name : String} {m : Int64}

theorem mode?_of_first {pre post : List (Int64 × String)}
    (hpairs : p.pairs = pre ++ (m, name) :: post) (hfirst : ∀ x ∈ pre, x.2 ≠ name) :
    p.mode? name = some m := by
  have hfind : p.pairs.find? (·.2 == name) = some (m, name) := by
    rw [List.find?_eq_some_iff_append]
    refine ⟨beq_self_eq_true name, pre, post, hpairs, fun x hx => ?_⟩
    simpa using hfirst x hx
  rw [mode?, hfind, Option.map_some]

theorem mode?_eq_none (h : name ∉ p.pairs.map (·.2)) : p.mode? name = none := by
  rw [mode?, Option.map_eq_none_iff, List.find?_eq_none]
  intro x hx hname
  exact h (List.mem_map.2 ⟨x, hx, eq_of_beq hname⟩)

/-- A name that there is stands in a first pair. -/
theorem exists_first (h : name ∈ p.pairs.map (·.2)) :
    ∃ m pre post, p.pairs = pre ++ (m, name) :: post ∧ ∀ x ∈ pre, x.2 ≠ name := by
  obtain ⟨x, hx, hname⟩ := List.mem_map.1 h
  have hsome : (p.pairs.find? (·.2 == name)).isSome = true := by
    rw [List.find?_isSome]
    exact ⟨x, hx, beq_iff_eq.2 hname⟩
  obtain ⟨⟨m, name'⟩, hfind⟩ := Option.isSome_iff_exists.1 hsome
  obtain ⟨hfound, pre, post, hpairs, hpre⟩ := List.find?_eq_some_iff_append.1 hfind
  obtain rfl : name' = name := eq_of_beq hfound
  exact ⟨m, pre, post, hpairs, fun x hx => by simpa using hpre x hx⟩

theorem lookup_of_nodup {l : List (Int64 × String)} (hmodes : (l.map (·.1)).Nodup)
    (h : (m, name) ∈ l) : l.lookup m = some name := by
  induction l with
  | nil => cases h
  | cons x l ih =>
    obtain ⟨m', name'⟩ := x
    obtain ⟨hfresh, hrest⟩ := List.nodup_cons.1 hmodes
    rw [Keyed.lookup_cons]
    rcases List.mem_cons.1 h with heq | hmem
    · obtain ⟨rfl, rfl⟩ := Prod.mk.inj heq
      simp
    · have hne : m ≠ m' := by
        rintro rfl
        exact hfresh (List.mem_map.2 ⟨_, hmem, rfl⟩)
      simp [hne, ih hrest hmem]

/-- The mode of a pair shows the name of the pair. -/
theorem preset?_of_nodup (hmodes : (p.pairs.map (·.1)).Nodup) (h : (m, name) ∈ p.pairs) :
    p.preset? m = some name := lookup_of_nodup hmodes h

end Presets

namespace Device

open Entity (TookOps)

variable {d : Device} {id : EntityId} {e : Entity} {s : Selection} {ch : Channel}
  {name : String} {m : Int64} {t : Transport}

/-! ## Orders for a preset -/

theorem find_of_entity? (he : d.entity? id = some e) : d.find id = .ok e := by
  rw [find, he]

theorem order_preset (he : d.entity? id = some e) (hkind : e.kind = .climate)
    (hs : e.status.selection = some s) (hch : id.channel? = some ch)
    (hmode : s.presets.mode? name = some m) :
    d.order id (.preset name) = .ok (.mode ch m) := by
  have hfind := find_of_entity? he
  have hchannel : channelOf id = .ok ch := by
    rw [channelOf, hch]
  have hselected : e.status.selection.bind (·.presets.mode? name) = some m := by
    rw [hs, Option.bind_some, hmode]
  simp only [order, orderPreset, orderMode, hfind, hkind, hchannel, hselected, if_true, bind,
    Except.bind, pure, Except.pure]

theorem order_unknown_preset (he : d.entity? id = some e) (hs : e.status.selection = some s)
    (hmode : s.presets.mode? name = none) :
    d.order id (.preset name) = .error (.unsupported (.unknownPreset name id)) := by
  have hfind := find_of_entity? he
  have hselected : e.status.selection.bind (·.presets.mode? name) = none := by
    rw [hs, Option.bind_some, hmode]
  simp only [order, orderPreset, hfind, hselected, bind, Except.bind]

theorem command_of_error {c : Command} {error : Error} (h : d.order id c = .error error) :
    command t id c d = ⟨d, [], .error error⟩ := by
  unfold command
  simp only [Action.bind_apply, Action.device, h, Action.pure_apply, List.append_nil]

/-- What becomes an order goes out, and nothing comes of it unless it is acknowledged. -/
theorem command_of_order {c : Command} {o : Order} (h : d.order id c = .ok o) :
    command t id c d =
      match t o.request with
      | .error error => ⟨d, [.sent o.request], .error error⟩
      | .ok m =>
        if m.acknowledges .set then
          ⟨(carryOut id o d).device, .sent o.request :: (carryOut id o d).events,
            (carryOut id o d).answer⟩
        else ⟨d, [.sent o.request], .error (.notAcknowledged o.ns)⟩ := by
  unfold command
  simp only [Action.bind_apply, Action.device, h, Action.send, List.nil_append]
  cases t o.request with
  | error error => rfl
  | ok m => cases hack : m.acknowledges .set <;> simp [hack, Action.pure_apply]

theorem requests_of_order {c : Command} {o : Order} (h : d.order id c = .ok o)
    (hserves : o.ServesCommand e ch c) (he : d.entity? id = some e) :
    requests (command t id c d).events = [o.request] := by
  have hsilent := requests_carryOut he hserves
  rw [command_of_order h]
  cases t o.request with
  | error error => rfl
  | ok m =>
    cases hack : m.acknowledges .set with
    | false => simp [hack, requests]
    | true => simpa [hack, requests] using hsilent

/-! ## What the thermostat shows -/

/-- The sensors that follow a thermostat are told nothing about a mode, so a
    thermostat that has the id of one keeps its own. -/
theorem writes_mode_following (kind : Kind) (c : Channel) (d : Device) (id : EntityId) :
    EntityOp.writes kind .mode (d.following c id) = [] := by
  apply List.filterMap_eq_nil_iff.2
  intro op hop
  rcases mem_following hop with ⟨on, -, rfl⟩ | ⟨k, -, rfl⟩
  · rw [says?_power]
    exact ite_self none
  · rw [says?_showing]
    exact ite_self none

theorem shows_carryOut (hd : d.Sound) (he : d.entity? id = some e) (hkind : e.kind = .climate)
    (hs : e.status.selection = some s) {c : Command}
    (hserves : (Order.mode ch m).ServesCommand e ch c) :
    ∃ e' s', (carryOut id (.mode ch m) d).device.entity? id = some e' ∧
      e'.status.available = true ∧ e'.status.selection = some s' ∧ s'.mode = some m ∧
        s'.preset = s.presets.preset? m ∧ s'.presets = s.presets := by
  have hthere : (d.entity? id).isSome = true := he ▸ rfl
  have hthermostat : (Order.mode ch m).ns = .thermostatMode := rfl
  have htookAt := tookOpsAt_carryOut hd he hserves id
  rw [Order.op, opAt_self hthere, if_pos hthermostat] at htookAt
  obtain ⟨e', he', htook⟩ := htookAt.present e he
  have hwrites : EntityOp.writes e.kind .mode
      ([.mode m] ++ (carryOut id (.mode ch m) d).device.following ch id) = [some m] := by
    rw [EntityOp.writes_append, writes_mode_following, hkind]
    rfl
  have hdatum : e'.status.datum? .mode = some (some m) := by
    have hbefore : e.status.datum? .mode = some s.mode := by
      rw [Status.datum?, hs, Option.map_some]
    rw [htook.datum, hwrites, hbefore, Option.map_some, Part.overwrite_lawful]
    rfl
  obtain ⟨s', hs', hmode⟩ := Option.map_eq_some_iff.1 hdatum
  have hpresets : s'.presets = s.presets := Status.presets_eq htook.clear hs hs'
  have hsound : (carryOut id (.mode ch m) d).device.Sound :=
    hd.trace (traced_carryOut id (.mode ch m) d)
  have hpreset := (hsound id e' he').consistent.preset s' hs'
  rw [hmode, Option.bind_some, hpresets] at hpreset
  refine ⟨e', s', he', ?_, hs', hmode, hpreset, hpresets⟩
  have hheard : (EntityOp.mode m).heard e.kind = true := by
    rw [hkind]
    rfl
  rw [htook.available, List.any_append, List.any_cons, hheard]
  simp

/-! ## Presets of thermostats in use -/

/-- The request that sets the mode of the thermostat on a channel. -/
def modeRequest (ch : Channel) (m : Int64) : Request :=
  ⟨.thermostatMode, .set,
    .obj [("mode", .arr [.obj [("channel", ch.toJson), ("mode", .int m.toInt)]])]⟩

theorem request_mode (ch : Channel) (m : Int64) : (Order.mode ch m).request = modeRequest ch m := by
  have hitem : Payload.playerItem ch "mode" (.ofInt64 m) =
      .obj [("channel", ch.toJson), ("mode", .int m.toInt)] := playerItem_eq (by decide) ch _
  rw [modeRequest, ← hitem]
  rfl

/-- A preset is selected by the first mode that has its name: one request sets that mode, and
    once it is acknowledged the thermostat is in it and shows the preset. Where no mode has the
    name nothing is sent and nothing changes. Of the thermostat no more is asked than that no
    two of its presets have the same mode. -/
theorem command_selects (hd : d.Reachable) (he : d.entity? id = some e)
    (hkind : e.kind = .climate) (hs : e.status.selection = some s)
    (hmodes : (s.presets.pairs.map (·.1)).Nodup) (hch : id.channel? = some ch) (t : Transport)
    (name : String) :
    (name ∈ s.presets.pairs.map (·.2) →
      ∃ m pre post, s.presets.pairs = pre ++ (m, name) :: post ∧ (∀ x ∈ pre, x.2 ≠ name) ∧
        requests (command t id (.preset name) d).events = [modeRequest ch m] ∧
        ∀ answer, t (modeRequest ch m) = .ok answer →
          answer.header.method = .setAck →
            (command t id (.preset name) d).answer = .ok () ∧
            ∃ e' s', (command t id (.preset name) d).device.entity? id = some e' ∧
              e'.status.available = true ∧ e'.status.selection = some s' ∧ s'.mode = some m ∧
                s'.preset = some name ∧ s'.presets = s.presets) ∧
    (name ∉ s.presets.pairs.map (·.2) →
      command t id (.preset name) d =
        ⟨d, [], .error (.unsupported (.unknownPreset name id))⟩) := by
  refine ⟨fun hlisted => ?listed, fun hunlisted => ?unlisted⟩
  case listed =>
    obtain ⟨m, pre, post, hpairs, hfirst⟩ := Presets.exists_first hlisted
    have hmode := Presets.mode?_of_first hpairs hfirst
    have horder := order_preset he hkind hs hch hmode
    have hserves : (Order.mode ch m).ServesCommand e ch (.preset name) := .preset hkind hs hmode
    have hrequest := request_mode ch m
    refine ⟨m, pre, post, hpairs, hfirst, hrequest ▸ requests_of_order horder hserves he, ?_⟩
    intro answer hanswer hmethod
    rw [← hrequest] at hanswer
    have hcommand : command t id (.preset name) d =
        ⟨(carryOut id (.mode ch m) d).device,
          .sent (Order.mode ch m).request ::
            (carryOut id (.mode ch m) d).events, .ok ()⟩ := by
      rw [command_of_order horder, answer_carryOut he hserves]
      simp only [hanswer, acknowledges_set.2 hmethod, if_true]
    obtain ⟨e', s', he', havailable, hs', hm, hpreset, hpresets⟩ :=
      shows_carryOut hd.sound he hkind hs hserves
    -- The mode was found by its name. Now the name is found by the mode.
    have hmem : (m, name) ∈ s.presets.pairs := by
      rw [hpairs]
      simp
    rw [hcommand]
    exact ⟨rfl, e', s', he', havailable, hs', hm,
      hpreset.trans (Presets.preset?_of_nodup hmodes hmem), hpresets⟩
  case unlisted =>
    exact command_of_error (order_unknown_preset he hs (Presets.mode?_eq_none hunlisted))

/-- A thermostat that the caller adds, by the id that a sensor of the radiator would have. Two of
    its modes have one name. -/
def spareThermostat : Entity :=
  .climate (.keyed (.int 0) outputPowerKey) ⟨[(4, "eco"), (7, "boost"), (9, "eco")]⟩

/-- The radiator with a mode sensor and with the added thermostat. -/
def sparedRadiator : Device :=
  ((Chronicle.start 2 .radiator).next obliging (.add spareThermostat)).device

theorem command_selects_spare :
    sparedRadiator.Reachable ∧ sparedRadiator.entity? spareThermostat.id = some spareThermostat ∧
      (∃ e' s', (command obliging spareThermostat.id (.preset "eco") sparedRadiator).device.entity?
          spareThermostat.id = some e' ∧ e'.status.selection = some s' ∧ s'.mode = some 4 ∧
            s'.preset = some "eco") ∧
      command obliging spareThermostat.id (.preset "away") sparedRadiator =
        ⟨sparedRadiator, [], .error (.unsupported (.unknownPreset "away" spareThermostat.id))⟩ := by
  have hreachable : sparedRadiator.Reachable :=
    Reached.reachable (.step .built (.inl (.climate _ _)) trivial : Reached (fun _ _ => True) 2
      .radiator ((Chronicle.start 2 .radiator).next obliging (.add spareThermostat)))
  have hthere : sparedRadiator.entity? spareThermostat.id = some spareThermostat := by rfl
  have hmodes : ([(4, "eco"), (7, "boost"), (9, "eco")].map (·.1) : List Int64).Nodup := by decide
  obtain ⟨heco, -⟩ := command_selects hreachable hthere rfl rfl hmodes rfl obliging "eco"
  obtain ⟨-, haway⟩ := command_selects hreachable hthere rfl rfl hmodes rfl obliging "away"
  obtain ⟨m, pre, post, hpairs, hfirst, -, hdone⟩ := heco (by decide)
  have hm : m = 4 := by
    cases pre with
    | nil => exact (Prod.mk.inj (List.cons.inj hpairs).1).1.symm
    | cons x pre =>
      obtain rfl := (List.cons.inj hpairs).1
      exact absurd rfl (hfirst _ List.mem_cons_self)
  subst hm
  obtain ⟨-, e', s', he', -, hs', hmode, hpreset, -⟩ := hdone _ rfl rfl
  exact ⟨hreachable, hthere, ⟨e', s', he', hs', hmode, hpreset⟩, haway (by decide)⟩

end Device

end Appliance
