-- SUMMARY: The order that a command becomes, and what its entity shows once the order is accepted.

import Appliance.Proofs.Overwrite
import Appliance.Proofs.Work

namespace Appliance

/-! ## What an entity shows

An entity that heeds a report shows what was reported of the parts that it
carries, up to equality. -/

namespace Entity

theorem Heeds.shows {α : Type} {ρ : Report} {e : Entity} {c : Change α} (h : Heeds ρ e c)
    (hs : e.Sound) {p : Part} {v : p.Value} (hv : ρ p = some v) (hproper : Proper v)
    (hcarries : e.kind.carries p = true) :
    ∃ a, c.entity.status.datum? p = some a ∧ (a == v) = true := by
  obtain ⟨a, ha⟩ := Option.isSome_iff_exists.1 ((hs.carries p).trans hcarries)
  refine ⟨(assign a (some v)).value, ?_, Part.value_assign_beq hproper⟩
  rw [h.settles.datum, ha, hv]
  rfl

end Entity

/-- The presets are not among the values that can be forgotten. -/
theorem Status.presets_eq {s t : Status} {x y : Selection} (hclear : t.clear = s.clear)
    (hx : s.selection = some x) (hy : t.selection = some y) : y.presets = x.presets := by
  have hselection := congrArg Status.selection hclear
  simp only [clear, hx, hy, Option.map_some, Option.some.injEq] at hselection
  exact congrArg (·.presets) hselection

/-- What an entity shows once a command for it was carried out. The track that
    a player turns to hangs on the one it played before; the volume is told
    apart by steps. -/
def Command.Shows (before after : Entity) : Command → Prop
  | .power on => after.power? = some on
  | .mode m =>
    ∃ s, after.status.selection = some s ∧ s.mode = some m ∧ s.preset = s.presets.preset? m
  | .preset name =>
    ∃ s m, after.status.selection = some s ∧ s.presets.mode? name = some m ∧
      s.mode = some m ∧ s.preset = s.presets.preset? m
  | .spray option => after.state? = some option
  | .mute on => after.status.player.bind (·.muted) = some on
  | .volume level =>
    ∃ x, after.status.player.bind (·.volume) = some x ∧
      (x == Player.levelOfStep (Float.ofInt (Player.volumeStep level).toInt)) = true
  | .next => after.track? = some (Player.nextSong before.track?)
  | .previous => after.track? = some (Player.previousSong before.track?)

/-! ## Orders -/

namespace Order

/-- What an order does to the entity that it is for, once it is accepted. -/
def op : Order → EntityOp
  | .power _ _ on => .power on
  | .mode _ m => .mode m
  | .spray _ option _ => .state option
  | .player channel key value => .item .mp3 (Payload.playerItem channel key (.ofInt64 value))

/-- At an entity on a channel, a command comes to the order. -/
inductive ServesCommand (e : Entity) (c : Channel) : Command → Order → Prop where
  | power {ns : Namespace} {on : Bool} (kind : Device.isToggle e.kind = true)
      (ns_eq : Device.powerNamespace? e = some ns) : ServesCommand e c (.power on) (.power ns c on)
  | mode {mode : Int64} (kind : e.kind = .climate) : ServesCommand e c (.mode mode) (.mode c mode)
  | preset {preset : String} {mode : Int64} {s : Selection} (kind : e.kind = .climate)
      (selection : e.status.selection = some s) (mode_eq : s.presets.mode? preset = some mode) :
      ServesCommand e c (.preset preset) (.mode c mode)
  | spray {option : String} {mode : Int64} (kind : e.kind = .diffuserSpray)
      (mode_eq : Spray.mode? option = some mode) :
      ServesCommand e c (.spray option) (.spray c option mode)
  | mute {on : Bool} (kind : e.kind = .mediaPlayer) :
      ServesCommand e c (.mute on) (.player c "mute" (if on then 1 else 0))
  | volume {level : Float} (kind : e.kind = .mediaPlayer) :
      ServesCommand e c (.volume level) (.player c "volume" (Player.volumeStep level))
  | next (kind : e.kind = .mediaPlayer) :
      ServesCommand e c .next (.player c "song" (Player.nextSong e.track?))
  | previous (kind : e.kind = .mediaPlayer) :
      ServesCommand e c .previous (.player c "song" (Player.previousSong e.track?))

end Order

namespace Device

variable {d : Device} {id : EntityId}

theorem find_eq_ok {e : Entity} (h : d.find id = .ok e) : d.entity? id = some e := by
  unfold find at h
  split at h
  · rename_i he
    cases h
    exact he
  · cases h

theorem find_eq_error {error : Error} (h : d.find id = .error error) :
    d.entity? id = none ∧ error = .unknownEntity id.text := by
  unfold find at h
  split at h
  · cases h
  · rename_i he
    cases h
    exact ⟨he, rfl⟩

theorem channelOf_eq_ok {c : Channel} (h : channelOf id = .ok c) : id.channel? = some c := by
  unfold channelOf at h
  split at h
  · rename_i hc
    cases h
    exact hc
  · cases h

theorem channelOf_eq_error {error : Error} (h : channelOf id = .error error) :
    error = .unsupported (.noChannel id) := by
  unfold channelOf at h
  split at h
  · cases h
  · cases h
    rfl

/-- Why a command does not become an order: nothing has the id, or what has it
    does not support the command. -/
def Unordered (d : Device) (id : EntityId) (error : Error) : Prop :=
  d.entity? id = none ∧ error = .unknownEntity id.text ∨ ∃ refusal, error = .unsupported refusal

/-- What comes of a command before anything is sent. -/
def Answers (d : Device) (id : EntityId) (c : Command) (o : Except Error Order) : Prop :=
  match o with
  | .ok order => ∃ e ch, d.entity? id = some e ∧ id.channel? = some ch ∧ order.ServesCommand e ch c
  | .error error => d.Unordered id error

theorem answers_of_find {c : Command} {f : Entity → Except Error Order}
    (h : ∀ e, d.entity? id = some e → d.Answers id c (f e)) :
    d.Answers id c (d.find id >>= f) := by
  cases hfind : d.find id with
  | error error => exact .inl (find_eq_error hfind)
  | ok e => exact h e (find_eq_ok hfind)

theorem answers_of_channel {c : Command} {f : Channel → Order} {e : Entity}
    (he : d.entity? id = some e) (h : ∀ ch, (f ch).ServesCommand e ch c) :
    d.Answers id c (do return f (← channelOf id)) := by
  cases hchannel : channelOf id with
  | error error => exact .inr ⟨_, channelOf_eq_error hchannel⟩
  | ok ch => exact ⟨e, ch, he, channelOf_eq_ok hchannel, h ch⟩

theorem answers_refusal (c : Command) (refusal : Refusal) :
    d.Answers id c (.error (.unsupported refusal)) := .inr ⟨refusal, rfl⟩

theorem answers_power (on : Bool) : d.Answers id (.power on) (d.orderPower id on) := by
  refine answers_of_find fun e he => ?_
  split
  · rename_i hkind
    split
    · rename_i ns hns
      exact answers_of_channel he fun ch => .power hkind hns
    · exact answers_refusal _ _
  · exact answers_refusal _ _

/-- A mode is ordered by itself or as the one that selects a preset. -/
theorem answers_mode {c : Command} {m : Int64}
    (h : ∀ e ch, d.entity? id = some e → e.kind = .climate →
      (Order.mode ch m).ServesCommand e ch c) :
    d.Answers id c (d.orderMode id m) := by
  refine answers_of_find fun e he => ?_
  split
  · rename_i hkind
    exact answers_of_channel he fun ch => h e ch he hkind
  · exact answers_refusal _ _

theorem answers_preset (preset : String) :
    d.Answers id (.preset preset) (d.orderPreset id preset) := by
  refine answers_of_find fun e he => ?_
  split
  · rename_i m hm
    obtain ⟨s, hs, hmode⟩ := Option.bind_eq_some_iff.1 hm
    refine answers_mode fun e' ch he' hkind => ?_
    obtain rfl : e = e' := Option.some.inj (he.symm.trans he')
    exact .preset hkind hs hmode
  · exact answers_refusal _ _

theorem answers_spray (option : String) :
    d.Answers id (.spray option) (d.orderSpray id option) := by
  refine answers_of_find fun e he => ?_
  split
  · rename_i hkind
    split
    · rename_i m hm
      exact answers_of_channel he fun ch => .spray hkind hm
    · exact answers_refusal _ _
  · exact answers_refusal _ _

theorem answers_player {c : Command} {key : String} (value : Option Int64 → Int64)
    (h : ∀ e ch, e.kind = .mediaPlayer →
      (Order.player ch key (value e.track?)).ServesCommand e ch c) :
    d.Answers id c (d.orderPlayer id key value) := by
  refine answers_of_find fun e he => ?_
  split
  · rename_i hkind
    exact answers_of_channel he fun ch => h e ch hkind
  · exact answers_refusal _ _

theorem answers_order (d : Device) (id : EntityId) (c : Command) :
    d.Answers id c (d.order id c) := by
  cases c with
  | power on => exact answers_power on
  | mode m => exact answers_mode fun e ch _ hkind => .mode hkind
  | preset preset => exact answers_preset preset
  | spray option => exact answers_spray option
  | mute on => exact answers_player (fun _ => if on then 1 else 0) fun e ch hkind => .mute hkind
  | volume level =>
    exact answers_player (fun _ => Player.volumeStep level) fun e ch hkind => .volume hkind
  | next => exact answers_player Player.nextSong fun e ch hkind => .next hkind
  | previous => exact answers_player Player.previousSong fun e ch hkind => .previous hkind

end Device

/-! ### What a player is told -/

theorem playerItem_eq {key : String} (hkey : compare key "channel" = .gt) (c : Channel)
    (value : Json) :
    Payload.playerItem c key value = .obj [("channel", c.toJson), (key, value)] := by
  simp [Payload.playerItem, Json.ofFields, Keyed.put, hkey]

theorem get?_playerItem {key name : String} (hkey : compare key "channel" = .gt)
    (hname : name ≠ "channel") (c : Channel) (value : Json) :
    (Payload.playerItem c key value).get? name = if name = key then some value else none := by
  rw [playerItem_eq hkey, Json.get?_obj, Keyed.lookup_cons, Keyed.lookup_cons]
  simp [hname]

theorem ofItem_playerItem {key : String} (hkey : compare key "channel" = .gt) (c : Channel)
    (value : Int64) :
    Player.Report.ofItem (Payload.playerItem c key (.ofInt64 value)) =
      ⟨if key = "mute" then some (value != 0) else none,
        if key = "song" then some value else none,
        if key = "volume" then some (Float.ofInt value.toInt) else none⟩ := by
  have hfield : ∀ name ≠ "channel", ∀ {α : Type} (f : Json → Option α),
      ((Payload.playerItem c key (.ofInt64 value)).get? name).bind f =
        if key = name then f (.ofInt64 value) else none := by
    intro name hname α f
    rw [get?_playerItem hkey hname]
    by_cases hsame : key = name
    · rw [if_pos hsame, if_pos hsame.symm, Option.bind_some]
    · rw [if_neg hsame, if_neg (Ne.symm hsame), Option.bind_none]
  simp only [Player.Report.ofItem, Json.flagAt?, Json.int64At?, Json.floatAt?,
    hfield "mute" (by decide), hfield "song" (by decide), hfield "volume" (by decide),
    Json.asFlag?_ofInt64, Json.asInt64?_ofInt64]
  rfl

namespace Entity

theorem parse_player {e : Entity} (h : e.kind = .mediaPlayer) (item : Json) :
    e.parse .mp3 item = e.applyPlayer item := by
  have huntoggled : e.isToggledBy .mp3 = false := rfl
  unfold parse
  rw [huntoggled, h]
  rfl

/-- A player takes any item. -/
theorem applyPlayer_ok (e : Entity) (item : Json) :
    ∃ changed, (e.applyPlayer item).answer = .ok changed := by
  simp only [applyPlayer]
  split
  · exact ⟨false, rfl⟩
  · exact ⟨_, rfl⟩

end Entity

/-! ### What an accepted order shows -/

namespace Order

open Entity (Heeds)

/-- What an order makes its entity hear. -/
def report : Order → Report
  | .power _ _ on => .ofPower on
  | .mode _ m => .ofMode m
  | .spray _ option _ => .ofState option
  | .player c key value =>
    .ofPlayer (Player.Report.ofItem (Payload.playerItem c key (.ofInt64 value)))

theorem proper_op (o : Order) : o.op.Proper := by
  cases o with
  | power ns c on => exact EntityOp.proper_power on
  | mode c m => exact EntityOp.proper_mode m
  | spray c option m => exact EntityOp.proper_state option
  | player c key value =>
    exact EntityOp.proper_item .mp3 (Device.wellFormed_playerItem c key value)

theorem op_ne_unavailable (o : Order) : o.op ≠ .unavailable := by
  intro h
  cases o <;> cases h

theorem carries_of_isToggle {kind : Kind} (h : Device.isToggle kind = true) :
    kind.carries .power = true := by
  cases kind <;> first | rfl | cases h

theorem report?_player {kind : Kind} (hkind : kind = .mediaPlayer) {item : Json}
    (h : (Player.Report.ofItem item).isEmpty = false) :
    (EntityOp.item .mp3 item).report? kind = some (.ofPlayer (Player.Report.ofItem item)) := by
  have hheard : (EntityOp.item .mp3 item).report? kind =
      Entity.heardIf (!(Player.Report.ofItem item).isEmpty)
        (.ofPlayer (Player.Report.ofItem item)) := by
    rw [hkind]
    rfl
  rw [hheard, h]
  rfl

namespace ServesCommand

variable {e : Entity} {ch : Channel} {c : Command} {o : Order}

theorem report_eq (h : o.ServesCommand e ch c) : o.op.report? e.kind = some o.report := by
  cases h with
  | power hkind =>
    have hcarries := carries_of_isToggle hkind
    simp only [op, EntityOp.report?, hcarries]
    rfl
  | mode hkind | preset hkind | spray hkind =>
    simp only [op, EntityOp.report?, hkind]
    rfl
  | mute hkind | volume hkind | next hkind | previous hkind =>
    refine report?_player hkind ?_
    rw [ofItem_playerItem (by decide)]
    rfl

theorem heeds (h : o.ServesCommand e ch c) (hs : e.Sound) : Heeds o.report e (o.op.run e) := by
  have hears := EntityOp.hears_run hs o.op_ne_unavailable
  rw [h.report_eq] at hears
  exact hears

/-- The entity shows what the order reports of a part that it carries. -/
theorem shows_part (h : o.ServesCommand e ch c) (hs : e.Sound) {p : Part} {v : p.Value}
    (hv : o.report p = some v) (hcarries : e.kind.carries p = true) :
    ∃ a, (o.op.run e).entity.status.datum? p = some a ∧ (a == v) = true :=
  (h.heeds hs).shows hs hv (o.proper_op _ _ h.report_eq p v hv) hcarries

/-- A mode is shown with the preset that goes with it. -/
theorem shows_mode {m : Int64} (h : (Order.mode ch m).ServesCommand e ch c) (hs : e.Sound)
    (hkind : e.kind = .climate) :
    ∃ s, ((EntityOp.mode m).run e).entity.status.selection = some s ∧ s.mode = some m ∧
      s.preset = s.presets.preset? m := by
  have hcarries : e.kind.carries .mode = true := by
    rw [hkind]
    rfl
  obtain ⟨a, ha, hm⟩ := h.shows_part hs (p := .mode) (v := some m) rfl hcarries
  obtain ⟨s, hselection, rfl⟩ := Option.map_eq_some_iff.1 ha
  have hmode : s.mode = some m := eq_of_beq hm
  refine ⟨s, hselection, hmode, ?_⟩
  rw [(EntityOp.sound_run (.mode m) hs).consistent.preset s hselection, hmode, Option.bind_some]

/-- A player shows what the order reports of it. -/
theorem shows_player {key : String} {value : Int64}
    (h : (Order.player ch key value).ServesCommand e ch c) (hs : e.Sound)
    (hkind : e.kind = .mediaPlayer)
    {p : Part} {v : p.Value} (hplayer : Kind.mediaPlayer.carries p = true)
    (hv : (Order.player ch key value).report p = some v) :
    ∃ a, (((Order.player ch key value).op.run e).entity.status.datum? p) = some a ∧
      (a == v) = true := by
  rw [← hkind] at hplayer
  exact h.shows_part hs hv hplayer

theorem bind_player {α : Type} {s : Status} {f : Player → Option α} {a : Option α}
    (h : s.player.map f = some a) : s.player.bind f = a := by
  obtain ⟨player, hplayer, rfl⟩ := Option.map_eq_some_iff.1 h
  rw [hplayer, Option.bind_some]

theorem shows_song {value : Int64} (h : (Order.player ch "song" value).ServesCommand e ch c)
    (hs : e.Sound) (hkind : e.kind = .mediaPlayer) :
    (((Order.player ch "song" value).op.run e).entity.track?) = some value := by
  have hsaid : (Order.player ch "song" value).report .track = some (some value) := by
    rw [report, ofItem_playerItem (by decide)]
    rfl
  obtain ⟨a, ha, hsong⟩ := h.shows_player hs hkind rfl hsaid
  obtain rfl : a = some value := eq_of_beq hsong
  exact bind_player ha

/-- An accepted order shows at its entity, which is then available. -/
theorem shows (h : o.ServesCommand e ch c) (hs : e.Sound) :
    (o.op.run e).entity.status.available = true ∧ c.Shows e (o.op.run e).entity := by
  refine ⟨(h.heeds hs).available, ?_⟩
  have hserves := h
  cases h with
  | @power ns on hkind _ =>
    obtain ⟨a, ha, hon⟩ :=
      hserves.shows_part hs (p := .power) (v := some on) rfl (carries_of_isToggle hkind)
    obtain rfl : a = some on := eq_of_beq hon
    exact congrArg Option.join ha
  | mode hkind => exact hserves.shows_mode hs hkind
  | preset hkind hselection hmode =>
    obtain ⟨s, hs', hm, hpreset⟩ := hserves.shows_mode hs hkind
    refine ⟨s, _, hs', ?_, hm, hpreset⟩
    rw [Status.presets_eq (EntityOp.clear_run _ hs) hselection hs']
    exact hmode
  | @spray option m hkind _ =>
    have hcarries : e.kind.carries .state = true := by
      rw [hkind]
      rfl
    obtain ⟨a, ha, hoption⟩ := hserves.shows_part hs (p := .state) (v := some option) rfl hcarries
    obtain rfl : a = some option := eq_of_beq hoption
    exact congrArg Option.join ha
  | @mute on hkind =>
    have hsaid : (Order.player ch "mute" (if on then 1 else 0)).report .muted =
        some (some on) := by
      rw [report, ofItem_playerItem (by decide)]
      cases on <;> rfl
    obtain ⟨a, ha, hmute⟩ := hserves.shows_player hs hkind rfl hsaid
    obtain rfl : a = some on := eq_of_beq hmute
    exact bind_player ha
  | @volume level hkind =>
    have hsaid : (Order.player ch "volume" (Player.volumeStep level)).report .volume =
        some (some (Player.levelOfStep (Float.ofInt (Player.volumeStep level).toInt))) := by
      rw [report, ofItem_playerItem (by decide)]
      rfl
    obtain ⟨a, ha, hvolume⟩ := hserves.shows_player hs hkind rfl hsaid
    cases a with
    | none => cases hvolume
    | some x => exact ⟨x, bind_player ha, hvolume⟩
  | next hkind => exact hserves.shows_song hs hkind
  | previous hkind => exact hserves.shows_song hs hkind

end ServesCommand

end Order

end Appliance
