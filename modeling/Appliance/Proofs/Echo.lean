-- SUMMARY: A command that is acknowledged leaves a device as the push does that tells of it.

import Appliance.Proofs.Command
import Appliance.Proofs.Origin
import Appliance.Proofs.Paths

namespace Appliance

/-! ## One report, one change

What an entity makes of a report is settled by the report. -/

namespace Entity

theorem Heeds.unique {ρ : Report} {e : Entity} {c c' : Change Unit} (hs : e.Sound)
    (h : Heeds ρ e c) (h' : Heeds ρ e c') : c = c' := by
  have hstatus : c.entity.status = c'.entity.status := by
    apply Status.ext_datum (h.settles.consistent hs.consistent)
      (h'.settles.consistent hs.consistent)
    · rw [h.settles.clear, h'.settles.clear]
    · rw [h.available, h'.available]
    · intro p
      rw [h.settles.datum, h'.settles.datum]
  have hentity : c.entity = c'.entity := by rw [h.frame, h'.frame, hstatus]
  have hflushes : c.flushes = c'.flushes := by rw [h.flushes, h'.flushes, hentity]
  obtain ⟨entity, flushes, answer⟩ := c
  obtain ⟨entity', flushes', answer'⟩ := c'
  obtain rfl : entity = entity' := hentity
  obtain rfl : flushes = flushes' := hflushes
  rfl

/-- What the entities that devices make are turned on and off by. -/
theorem Shape.powered {e : Entity} (h : e.Shape) {ns : Namespace}
    (hkind : Device.isToggle e.kind = true) (hns : e.commandedBy = some ns) :
    (ns = .toggle ∨ ns = .toggleX) ∨ e.kind = .light ∧ ns = .light ∨
      e.kind = .diffuserLight ∧ ns = .diffuserLight ∨ ns = .thermostatMode := by
  cases h with
  | light c =>
    cases hns
    exact .inr (.inl ⟨rfl, rfl⟩)
  | switch c toggles =>
    cases hns
    exact .inl toggles
  | diffuserLight c =>
    cases hns
    exact .inr (.inr (.inl ⟨rfl, rfl⟩))
  | climate c =>
    cases hns
    exact .inr (.inr (.inr rfl))
  | _ => cases hkind

end Entity

/-! ## The item of an order

The payload of an order holds one item, which would also tell of what the
order asks. -/

theorem Channel.ofJson?_toJson (c : Channel) : Channel.ofJson? c.toJson = some c := by
  cases c with
  | int i =>
    change (Json.ofInt64 i).asInt64?.map Channel.int = _
    rw [Json.asInt64?_ofInt64]
    rfl
  | str s => rfl

namespace Order

/-- The item in the payload of an order. -/
def body : Order → Json
  | .power _ c on => Payload.playerItem c "onoff" (.int on.toInt)
  | .mode c m | .spray c _ m => Payload.playerItem c "mode" (.ofInt64 m)
  | .player c key value => Payload.playerItem c key (.ofInt64 value)

theorem ofListed_playerItem {key : String} (hkey : compare key "channel" = .gt) (c : Channel)
    (value : Json) :
    Item.ofListed (Payload.playerItem c key value) =
      ⟨some c, Payload.playerItem c key value⟩ := by
  rw [playerItem_eq hkey]
  simp [Item.ofListed, Channel.ofJson?_toJson]

/-- An item alone is read as it is in a list. -/
theorem split_playerItem (ns : Namespace) {key : String} (hkey : compare key "channel" = .gt)
    (c : Channel) (value : Json) :
    Item.split ns (Payload.playerItem c key value) =
      .ok [⟨some c, Payload.playerItem c key value⟩] := by
  rw [playerItem_eq hkey]
  simp [Item.split, Item.ofSingle, Channel.ofJson?_toJson]

theorem ofPayload_single {ns : Namespace} {data : Json} {items : List Item}
    (h : Item.split ns data = .ok items) :
    Item.ofPayload ns (.obj [(ns.key, data)]) = .ok items := by
  unfold Item.ofPayload
  simp only [Json.get?_obj, List.lookup_cons_self]
  exact h

namespace ServesCommand

variable {e : Entity} {ch : Channel} {c : Command} {o : Order}

theorem ofPayload_payload (h : o.ServesCommand e ch c) :
    Item.ofPayload o.ns o.payload = .ok [⟨some ch, o.body⟩] := by
  have hlist : ∀ (ns : Namespace) {key : String}, compare key "channel" = .gt → ∀ value,
      Item.ofPayload ns (.obj [(ns.key, .arr [Payload.playerItem ch key value])]) =
        .ok [⟨some ch, Payload.playerItem ch key value⟩] := by
    intro ns key hkey value
    apply ofPayload_single
    rw [Item.split, List.map_singleton, ofListed_playerItem hkey]
  have hsingle : ∀ (ns : Namespace) {key : String}, compare key "channel" = .gt → ∀ value,
      Item.ofPayload ns (.obj [(ns.key, Payload.playerItem ch key value)]) =
        .ok [⟨some ch, Payload.playerItem ch key value⟩] := fun ns _ hkey value =>
    ofPayload_single (split_playerItem ns hkey ch value)
  have honoff : compare "onoff" "channel" = .gt := by decide
  have hmode : compare "mode" "channel" = .gt := by decide
  cases h with
  | @power ns on _ _ =>
    cases ns with
    | diffuserLight => exact hlist .diffuserLight honoff (.int on.toInt)
    | thermostatMode => exact hlist .thermostatMode honoff (.int on.toInt)
    | _ => exact hsingle _ honoff (.int on.toInt)
  | mode | preset => exact hlist .thermostatMode hmode _
  | spray => exact hlist .diffuserSpray hmode _
  | mute | volume | next | previous => exact hsingle .mp3 (by decide) _

/-- What is not told to a thermostat is told by a toggle or to a light. -/
theorem powered {ns : Namespace} (hnative : e.bare.Native) (hkind : Device.isToggle e.kind = true)
    (hns : Device.powerNamespace? e = some ns) (hthermostat : ns ≠ .thermostatMode) :
    (ns = .toggle ∨ ns = .toggleX) ∨ e.kind = .light ∧ ns = .light ∨
      e.kind = .diffuserLight ∧ ns = .diffuserLight := by
  unfold Device.powerNamespace? at hns
  split at hns
  · cases hns
    exact .inl (.inr rfl)
  · rcases hnative.shape.powered hkind hns with htoggles | hlight | hdiffuser | hclimate
    · exact .inl htoggles
    · exact .inr (.inl hlight)
    · exact .inr (.inr hdiffuser)
    · exact absurd hclimate hthermostat

/-- What an order is sent to is passed on in items, if it is no thermostat. -/
theorem ns_mem (h : o.ServesCommand e ch c) (hnative : e.bare.Native)
    (hns : o.ns ≠ .thermostatMode) :
    o.ns ∈ [Namespace.toggle, .toggleX, .light, .diffuserLight, .diffuserSpray, .mp3] := by
  cases h with
  | @power ns on hkind hpower =>
    have hcases := powered hnative hkind hpower hns
    simp only [Order.ns, List.mem_cons, List.not_mem_nil, or_false]
    tauto
  | mode | preset => exact absurd rfl hns
  | spray | mute | volume | next | previous => simp [Order.ns]

end ServesCommand

/-! ### What the item says -/

section Says

variable (ch : Channel) (on : Bool)

theorem flagAt?_onoff :
    (Payload.playerItem ch "onoff" (.int on.toInt)).flagAt? "onoff" = some on := by
  rw [Json.flagAt?, get?_playerItem (by decide) (by decide), if_pos rfl, Option.bind_some]
  cases on <;> decide

theorem ofItem_onoff (isDiffuser : Bool) :
    Light.Report.ofItem isDiffuser (Payload.playerItem ch "onoff" (.int on.toInt)) =
      ⟨some on, none, none, none, none⟩ := by
  have hsilent : ∀ name, name ≠ "channel" → name ≠ "onoff" →
      (Payload.playerItem ch "onoff" (.int on.toInt)).int64At? name = none := by
    intro name hchannel honoff
    rw [Json.int64At?, get?_playerItem (by decide) hchannel, if_neg honoff, Option.bind_none]
  simp [Light.Report.ofItem, flagAt?_onoff, hsilent]

theorem ofLight_onoff : Report.ofLight ⟨some on, none, none, none, none⟩ = .ofPower on := by
  funext p
  cases p <;> rfl

theorem int64At?_mode (m : Int64) :
    (Payload.playerItem ch "mode" (.ofInt64 m)).int64At? "mode" = some m := by
  rw [Json.int64At?, get?_playerItem (by decide) (by decide), if_pos rfl, Option.bind_some,
    Json.asInt64?_ofInt64]

open Entity (heard? heardIf)

variable {ns : Namespace}

/-- Toggles reach everything that can be on, and lights hear of it from any namespace. -/
theorem heard_onoff {kind : Kind} (hcarries : kind.carries .power = true)
    (h : (ns = .toggle ∨ ns = .toggleX) ∨ kind = .light ∧ ns = .light ∨
      kind = .diffuserLight ∧ ns = .diffuserLight) :
    heard? kind ns (Payload.playerItem ch "onoff" (.int on.toInt)) = some (.ofPower on) := by
  unfold heard?
  by_cases htoggles : ns = .toggle ∨ ns = .toggleX
  · simp [htoggles, hcarries, flagAt?_onoff]
  · have hlight : heardIf (!(⟨some on, none, none, none, none⟩ : Light.Report).isEmpty)
        (.ofLight ⟨some on, none, none, none, none⟩) = some (.ofPower on) := by
      rw [ofLight_onoff]
      rfl
    rcases h.resolve_left htoggles with ⟨rfl, rfl⟩ | ⟨rfl, rfl⟩
    · simpa [ofItem_onoff] using hlight
    · simpa [ofItem_onoff] using hlight

theorem answer_onoff {e : Entity} (hs : e.Sound) (hcarries : e.kind.carries .power = true)
    (h : (ns = .toggle ∨ ns = .toggleX) ∨ e.kind = .light ∧ ns = .light ∨
      e.kind = .diffuserLight ∧ ns = .diffuserLight) :
    ∃ changed, (e.parse ns (Payload.playerItem ch "onoff" (.int on.toInt))).answer =
      .ok changed := by
  have hpower : e.status.power.isSome = true := (hs.carries .power).trans hcarries
  by_cases htoggles : ns = .toggle ∨ ns = .toggleX
  · simp [Entity.parse, Entity.isToggledBy, htoggles, hpower, Entity.applyToggle, flagAt?_onoff]
  · have htoggled : e.isToggledBy ns = false := by
      simp [Entity.isToggledBy, htoggles]
    rcases h.resolve_left htoggles with ⟨hk, -⟩ | ⟨hk, -⟩
    · simp [Entity.parse, htoggled, hk, Entity.applyLight, ofItem_onoff, Light.Report.isEmpty,
        Light.Report.unknownMode?]
    · simp [Entity.parse, htoggled, hk, Entity.applyLight, ofItem_onoff, Light.Report.isEmpty,
        Light.Report.unknownMode?]

end Says

namespace ServesCommand

variable {e : Entity} {ch : Channel} {c : Command} {o : Order}

/-- The item makes the entity hear what the order makes it hear. -/
theorem heard_body (h : o.ServesCommand e ch c) (hnative : e.bare.Native)
    (hns : o.ns ≠ .thermostatMode) : Entity.heard? e.kind o.ns o.body = some o.report := by
  have hserves := h
  cases h with
  | power hkind hpower =>
    exact heard_onoff _ _ (carries_of_isToggle hkind) (powered hnative hkind hpower hns)
  | mode | preset => exact absurd rfl hns
  | @spray option m hkind hm =>
    have hoption : (((body (.spray ch option m)).int64At? "mode").bind Spray.option?).map
        Report.ofState = some (.ofState option) := by
      rw [body, int64At?_mode, Option.bind_some, Spray.option?_of_mode? hm]
      rfl
    rw [hkind]
    exact hoption
  | mute | volume | next | previous => exact hserves.report_eq

/-- The entity takes the item. -/
theorem answer_body (h : o.ServesCommand e ch c) (hs : e.Sound) (hnative : e.bare.Native)
    (hns : o.ns ≠ .thermostatMode) : ∃ changed, (e.parse o.ns o.body).answer = .ok changed := by
  cases h with
  | power hkind hpower =>
    exact answer_onoff _ _ hs (carries_of_isToggle hkind) (powered hnative hkind hpower hns)
  | mode | preset => exact absurd rfl hns
  | @spray option m hkind hm =>
    have huntoggled : e.isToggledBy .diffuserSpray = false := rfl
    simp [Entity.parse, ns, body, huntoggled, hkind, Entity.applySpray, int64At?_mode,
      Spray.option?_of_mode? hm]
  | mute hkind | volume hkind | next hkind | previous hkind =>
    rw [ns, Entity.parse_player hkind]
    exact Entity.applyPlayer_ok e _

/-- The item does to the entity what the order does. -/
theorem run_body (h : o.ServesCommand e ch c) (hs : e.Sound) (hnative : e.bare.Native)
    (hns : o.ns ≠ .thermostatMode) : (EntityOp.item o.ns o.body).run e = o.op.run e := by
  have hears : Entity.Hears ((EntityOp.item o.ns o.body).report? e.kind) e
      ((EntityOp.item o.ns o.body).run e) :=
    EntityOp.hears_run hs EntityOp.noConfusion
  rw [EntityOp.report?, h.heard_body hnative hns] at hears
  exact Entity.Heeds.unique hs hears (h.heeds hs)

end ServesCommand

end Order

/-! ## Echoes -/

namespace Device

variable {d : Device} {id : EntityId} {e : Entity}

/-- An item that the entity takes only changes the entity. -/
theorem parseEntity_eq {ns : Namespace} {body : Json} (he : d.entity? id = some e)
    (hok : ∃ changed, (e.parse ns body).answer = .ok changed) :
    parseEntity ns body id d = change id (EntityOp.item ns body).run d := by
  obtain ⟨changed, hok⟩ := hok
  rw [← change_eq he (f := (·.parse ns body)) (.item ns body) rfl]
  simp [parseEntity, change, Action.bind_apply, update, he, hok, Action.pure_apply]

/-- An item for one entity is applied to it; only thermostat items go further. -/
theorem dispatchItem_eq {ns : Namespace} {ch : Channel} {body : Json}
    (htargets : d.dispatcher.targets ns ch = [id]) (hns : ns ≠ .thermostatMode) :
    dispatchItem ns ⟨some ch, body⟩ d = parseEntity ns body id d := by
  have hlookup : d.dispatcher.lookup ns ch = .found [id] := by
    rw [Dispatcher.lookup, htargets]
  unfold dispatchItem
  simp [Action.bind_apply, Action.device, hlookup, syncAfter, hns, Action.bind, Action.pure,
    Action.pure_apply]

theorem plain_of_mem {ns : Namespace}
    (h : ns ∈ [Namespace.toggle, .toggleX, .light, .diffuserLight, .diffuserSpray, .mp3]) :
    ns ≠ .systemAll ∧ ns ≠ .systemAbility ∧
      ns ∉ [Namespace.diffuserSensor, .sensorLatest, .sensorLatestX] := by
  revert ns
  decide

/-- Once a command is acknowledged the device is as it would be if it had been
    told by a push of what was sent: every entity, every registration and all
    that listeners are handed are the same, and nothing is warned about. The
    entity must be one that devices make, and alone be registered for what is
    sent on its channel. After what is sent to a thermostat the two differ: a
    push of it would leave out what the item must hold. -/
theorem command_echoes (hd : d.Reachable) (hhome : d.Homegrown) {t : Transport} {c : Command}
    {r : Request} {m : Message} (hsent : requests (command t id c d).events = [r])
    (hm : t r = .ok m) (hack : m.header.method = .setAck) (hns : r.ns ≠ .thermostatMode)
    (hsole : ∀ ch, id.channel? = some ch → d.dispatcher.targets r.ns ch = [id]) {p : Message}
    (hmethod : p.header.method = .push) (hname : p.header.ns = r.ns.name)
    (hpayload : p.payload = r.payload) :
    (command t id c d).answer = .ok () ∧
      (command t id c d).device = (handle p d).device ∧
      (command t id c d).events = .sent r :: (handle p d).events ∧
      ∀ x ∈ (handle p d).events, ∃ e, x = .flushed e := by
  rcases command_cases t id c d with
    ⟨error, sent, hfails, -, hcommand⟩ | ⟨o, e, ch, m', he, hch, hserves, -, -, hcommand⟩
  · rw [hcommand, requests_sent] at hsent
    subst hsent
    cases hfails with
    | undelivered h =>
      rw [hm] at h
      cases h
    | rejected h hrejected =>
      rw [hm] at h
      cases h
      exact absurd hack hrejected
  · have hrequests : requests (command t id c d).events = [o.request] := by
      rw [hcommand]
      exact congrArg (o.request :: ·) (requests_carryOut he hserves)
    obtain rfl : o.request = r := List.singleton_inj.1 (hrequests.symm.trans hsent)
    replace hns : o.ns ≠ .thermostatMode := hns
    have hnative := hhome id e he
    have hsound := hd.sound id e he
    have hmem := hserves.ns_mem hnative hns
    -- the push reaches the entity, and nothing else
    have hpush : handle p d = change id o.op.run d := by
      have hknown : p.header.known? = some o.ns := by
        rw [Header.known?, hname]
        exact Namespace.ofName?_name o.ns
      obtain ⟨hall, hability, hplain⟩ := plain_of_mem hmem
      have hcustom : d.dispatcher.isCustom o.ns = false :=
        Bool.eq_false_iff.2 fun hcustom => hplain ((hd.readsApart o.ns).1 hcustom).1
      calc handle p d
          = dispatchNamespace o.ns o.payload d := by
            rw [handle_of_told (.inl hmethod), dispatch_of_known hknown hall hability, hpayload]
            rfl
        _ = dispatchItem o.ns ⟨some ch, o.body⟩ d := by
            rw [dispatchNamespace_eq, hcustom, hserves.ofPayload_payload]
            exact Action.forEach_singleton _ _ d
        _ = parseEntity o.ns o.body id d := dispatchItem_eq (hsole ch hch) hns
        _ = change id (EntityOp.item o.ns o.body).run d :=
            parseEntity_eq he (hserves.answer_body hsound hnative hns)
        _ = change id o.op.run d :=
            change_eq he o.op (hserves.run_body hsound hnative hns).symm
    have hcarried : carryOut id o d =
        ⟨(change id o.op.run d).device, (change id o.op.run d).events, .ok ()⟩ := by
      rw [carryOut_eq he hserves]
      simp [Action.bind_apply, syncAfter, hns, Action.pure_apply]
    rw [hcommand, hcarried, hpush]
    exact ⟨rfl, rfl, rfl, Action.Flushes.change id o.op.run d⟩

/-- The plug, after it could not be reached. -/
def lostPlug : Device := (setUnavailable (Chronicle.start 0 .plug).device).device

/-- What a plug pushes when its outlet goes off. -/
def offPush : Message :=
  ⟨pushHeader .toggleX, Payload.power .toggleX (.int 0) false⟩

/-- A plug that was lost comes back with its outlet off, whether it acknowledges
    a command or tells so by itself. -/
theorem command_echoes_plug :
    (command obliging (.channel (.int 0)) (.power false) lostPlug).device =
        (handle offPush lostPlug).device ∧
      ∃ e, (handle offPush lostPlug).events = [.flushed e] ∧ e.power? = some false ∧
        e.status.available = true := by
  have hlost : Reached (fun _ op => ∀ e, op ≠ .add e) 0 .plug
      ((Chronicle.start 0 .plug).next obliging .setUnavailable) :=
    .step .built trivial fun _ => Operation.noConfusion
  have hsole : ∀ ch, (EntityId.channel (.int 0)).channel? = some ch →
      lostPlug.dispatcher.targets .toggleX ch = [.channel (.int 0)] := by
    intro ch hch
    cases hch
    rfl
  have hsent : requests (command obliging (.channel (.int 0)) (.power false) lostPlug).events =
      [⟨.toggleX, .set, offPush.payload⟩] := rfl
  have hm : obliging ⟨.toggleX, .set, offPush.payload⟩ =
      .ok ⟨{ pushHeader .toggleX with method := .setAck }, .obj []⟩ := rfl
  obtain ⟨-, hdevice, -, -⟩ := command_echoes hlost.reachable hlost.homegrown hsent hm rfl
    (by decide) hsole (p := offPush) rfl rfl rfl
  exact ⟨hdevice, _, rfl, rfl, rfl⟩

end Device

end Appliance
