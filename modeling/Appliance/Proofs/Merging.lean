-- SUMMARY: Items that leave fields out: two that come one after the other do what one with the fields of both does.

import Appliance.Proofs.Notice
import Appliance.Proofs.Overwrite

namespace Appliance

/-! ## One object over another -/

namespace Json

/-- The fields of an object, and those of another that it has none of. -/
def atop : Json → Json → Json
  | .obj fields, .obj below => .obj (fields.foldl (fun fs f => Keyed.put f.1 f.2 fs) below)
  | j, _ => j

theorem lookup_foldl_put (key : String) {fields : List (String × Json)}
    (h : Keyed.Ascending fields) (below : List (String × Json)) :
    (fields.foldl (fun fs f => Keyed.put f.1 f.2 fs) below).lookup key =
      (fields.lookup key).or (below.lookup key) := by
  induction fields generalizing below with
  | nil => rfl
  | cons f fields ih =>
    obtain ⟨name, j⟩ := f
    rw [List.foldl_cons, ih (List.pairwise_cons.1 h).2, Keyed.lookup_put, Keyed.lookup_cons]
    by_cases hkey : key = name
    · have hrest : fields.lookup key = none := by
        cases hfound : fields.lookup key with
        | none => rfl
        | some v => exact absurd hkey (Keyed.ne_of_ascending_cons h (Keyed.mem_of_lookup hfound))
      simp [hkey, hkey ▸ hrest]
    · simp [hkey]

theorem get?_atop {a b : Json} (ha : a.isObject = true) (hb : b.isObject = true)
    (hform : b.WellFormed) (key : String) : (b.atop a).get? key = (b.get? key).or (a.get? key) := by
  cases b with
  | obj fields =>
    cases a with
    | obj below => exact lookup_foldl_put key (WellFormed.obj.1 hform).1 below
    | _ => cases ha
  | _ => cases hb

/-- A field is read in the upper object where it is there, and else in the lower one. -/
theorem read_atop {α : Type} {read : Json → Option α} {key : String} {a b : Json}
    (h : (b.atop a).get? key = (b.get? key).or (a.get? key))
    (hread : ∀ v, b.get? key = some v → (read v).isSome = true) :
    ((b.atop a).get? key).bind read = ((b.get? key).bind read).or ((a.get? key).bind read) := by
  rw [h]
  cases hv : b.get? key with
  | none => rfl
  | some v =>
    obtain ⟨x, hx⟩ := Option.isSome_iff_exists.1 (hread v hv)
    simp [hx]

/-- The value is a boolean or an integer of 64 bits. -/
def isFlag (j : Json) : Bool := j.asFlag?.isSome

/-- The value is an integer of 64 bits. -/
def isInteger (j : Json) : Bool := j.asInt64?.isSome

/-- The value is a number. -/
def isNumber (j : Json) : Bool := j.asFloat?.isSome

end Json

/-! ## One report over another -/

namespace Light.Report

/-- What the first report says, and what the other says beyond it. -/
def atop (r below : Report) : Report where
  power := r.power.or below.power
  luminance := r.luminance.or below.luminance
  rgb := r.rgb.or below.rgb
  temperature := r.temperature.or below.temperature
  mode := r.mode.or below.mode

theorem isEmpty_atop (r below : Report) :
    (r.atop below).isEmpty = (r.isEmpty && below.isEmpty) := by
  simp only [isEmpty, atop, Option.isNone_or]
  ac_rfl

theorem ofLight_eq_none {r : Report} (h : r.isEmpty = true) (p : Part) :
    Appliance.Report.ofLight r p = none := by
  simp only [isEmpty, Bool.and_eq_true, Option.isNone_iff_eq_none] at h
  obtain ⟨⟨⟨⟨hpower, hluminance⟩, hrgb⟩, htemperature⟩, hmode⟩ := h
  cases p <;>
    simp [Appliance.Report.ofLight, hpower, hluminance, hrgb, htemperature, hmode]

theorem ofLight_atop (r below : Report) (p : Part) :
    Appliance.Report.ofLight (r.atop below) p =
      (Appliance.Report.ofLight r p).or (Appliance.Report.ofLight below p) := by
  cases p <;> simp [Appliance.Report.ofLight, atop, Option.map_or]

end Light.Report

namespace Player.Report

/-- What the first report says, and what the other says beyond it. -/
def atop (r below : Report) : Report where
  mute := r.mute.or below.mute
  song := r.song.or below.song
  volume := r.volume.or below.volume

theorem isEmpty_atop (r below : Report) :
    (r.atop below).isEmpty = (r.isEmpty && below.isEmpty) := by
  simp only [isEmpty, atop, Option.isNone_or]
  ac_rfl

theorem ofPlayer_eq_none {r : Report} (h : r.isEmpty = true) (p : Part) :
    Appliance.Report.ofPlayer r p = none := by
  simp only [isEmpty, Bool.and_eq_true, Option.isNone_iff_eq_none] at h
  obtain ⟨⟨hmute, hsong⟩, hvolume⟩ := h
  cases p <;> simp [Appliance.Report.ofPlayer, hmute, hsong, hvolume]

theorem ofPlayer_atop (r below : Report) (p : Part) :
    Appliance.Report.ofPlayer (r.atop below) p =
      (Appliance.Report.ofPlayer r p).or (Appliance.Report.ofPlayer below p) := by
  cases p <;> simp [Appliance.Report.ofPlayer, atop, Option.map_or]

end Player.Report

/-! ## Items that leave fields out -/

/-- The fields of its own items that an entity of a kind looks at, and what they have to hold.
    Only lights and players are content with some of them. -/
def Kind.fields : Kind → List (String × (Json → Bool))
  | .light =>
    [("onoff", Json.isFlag), ("luminance", Json.isInteger), ("rgb", Json.isInteger),
      ("temperature", Json.isInteger)]
  | .diffuserLight =>
    [("onoff", Json.isFlag), ("luminance", Json.isInteger), ("rgb", Json.isInteger),
      ("temperature", Json.isInteger), ("mode", Json.isInteger)]
  | .mediaPlayer =>
    [("mute", Json.isFlag), ("song", Json.isInteger), ("volume", Json.isNumber)]
  | _ => []

/-- Every field that an entity of the kind looks at holds what it has to hold, if it is there. -/
def Kind.Usable (kind : Kind) (item : Json) : Prop :=
  ∀ f ∈ kind.fields, ∀ v, item.get? f.1 = some v → f.2 v = true

section Items

variable {kind : Kind} {a b : Json}
  (hget : ∀ key, (b.atop a).get? key = (b.get? key).or (a.get? key)) (hb : kind.Usable b)
include hget hb

theorem flagAt?_atop {key : String} (hkey : (key, Json.isFlag) ∈ kind.fields) :
    (b.atop a).flagAt? key = (b.flagAt? key).or (a.flagAt? key) :=
  Json.read_atop (hget key) (hb _ hkey)

theorem int64At?_atop {key : String} (hkey : (key, Json.isInteger) ∈ kind.fields) :
    (b.atop a).int64At? key = (b.int64At? key).or (a.int64At? key) :=
  Json.read_atop (hget key) (hb _ hkey)

theorem floatAt?_atop {key : String} (hkey : (key, Json.isNumber) ∈ kind.fields) :
    (b.atop a).floatAt? key = (b.floatAt? key).or (a.floatAt? key) :=
  Json.read_atop (hget key) (hb _ hkey)

theorem Light.ofItem_atop (hkind : kind = .light ∨ kind = .diffuserLight) :
    Report.ofItem (kind = .diffuserLight) (b.atop a) =
      (Report.ofItem (kind = .diffuserLight) b).atop (.ofItem (kind = .diffuserLight) a) := by
  have hpower : (b.atop a).flagAt? "onoff" = (b.flagAt? "onoff").or (a.flagAt? "onoff") := by
    apply flagAt?_atop hget hb
    rcases hkind with rfl | rfl <;> simp [Kind.fields]
  have hshade : ∀ key ∈ ["luminance", "rgb", "temperature"],
      (b.atop a).int64At? key = (b.int64At? key).or (a.int64At? key) := by
    intro key hkey
    apply int64At?_atop hget hb
    simp only [List.mem_cons, List.not_mem_nil, or_false] at hkey
    rcases hkind with rfl | rfl <;> rcases hkey with rfl | rfl | rfl <;> simp [Kind.fields]
  have hmode : kind = .diffuserLight →
      (b.atop a).int64At? "mode" = (b.int64At? "mode").or (a.int64At? "mode") := by
    rintro rfl
    apply int64At?_atop hget hb
    simp [Kind.fields]
  simp only [Report.ofItem, Report.atop, hpower, hshade, List.mem_cons, true_or, or_true]
  split
  · rename_i hdiffuser
    rw [hmode (of_decide_eq_true hdiffuser)]
  · rfl

theorem Player.ofItem_atop (hkind : kind = .mediaPlayer) :
    Report.ofItem (b.atop a) = (Report.ofItem b).atop (.ofItem a) := by
  subst hkind
  have hmute : (b.atop a).flagAt? "mute" = (b.flagAt? "mute").or (a.flagAt? "mute") :=
    flagAt?_atop hget hb (by simp [Kind.fields])
  have hsong : (b.atop a).int64At? "song" = (b.int64At? "song").or (a.int64At? "song") :=
    int64At?_atop hget hb (by simp [Kind.fields])
  have hvolume : (b.atop a).floatAt? "volume" = (b.floatAt? "volume").or (a.floatAt? "volume") :=
    floatAt?_atop hget hb (by simp [Kind.fields])
  simp only [Report.ofItem, Report.atop, hmute, hsong, hvolume]

end Items

namespace EntityOp

open Entity (heard? heardIf)

/-- The third operation reports what the second does, and what the first does beyond it. -/
structure Combines (kind : Kind) (op₁ op₂ op : EntityOp) : Prop where
  heard : op.heard kind = (op₁.heard kind || op₂.heard kind)
  reports : ∀ p, says? kind p op = (says? kind p op₂).or (says? kind p op₁)

/-- A report is as good as none where it says nothing. -/
theorem combines_heardIf {kind : Kind} {op₁ op₂ op : EntityOp} {b₁ b₂ : Bool} {ρ₁ ρ₂ ρ : Report}
    (h₁ : op₁.report? kind = heardIf (!b₁) ρ₁) (h₂ : op₂.report? kind = heardIf (!b₂) ρ₂)
    (h : op.report? kind = heardIf (!(b₂ && b₁)) ρ) (hnone₁ : b₁ = true → ∀ p, ρ₁ p = none)
    (hnone₂ : b₂ = true → ∀ p, ρ₂ p = none) (hρ : ∀ p, ρ p = (ρ₂ p).or (ρ₁ p)) :
    Combines kind op₁ op₂ op := by
  refine ⟨?_, fun p => ?_⟩
  · rw [EntityOp.heard, EntityOp.heard, EntityOp.heard, h, h₁, h₂]
    cases b₁ <;> cases b₂ <;> rfl
  · rw [says?, says?, says?, h, h₁, h₂]
    cases b₁ <;> cases b₂ <;> simp_all [heardIf]

theorem combines_light {kind : Kind} {ns : Namespace} {a b : Json}
    (hkind : kind = .light ∨ kind = .diffuserLight)
    (hget : ∀ key, (b.atop a).get? key = (b.get? key).or (a.get? key)) (hb : kind.Usable b) :
    Combines kind (.item ns a) (.item ns b) (.item ns (b.atop a)) := by
  have hcarries : kind.carries .power = true := by
    rcases hkind with rfl | rfl <;> rfl
  -- A toggle item speaks of the power alone, whatever else is in it.
  cases hns : (ns = .toggle || ns = .toggleX : Bool) with
  | true =>
    have hpower : ∀ item,
        (EntityOp.item ns item).report? kind = (item.flagAt? "onoff").map .ofPower := by
      intro item
      rw [report?]
      unfold heard?
      rw [hns, hcarries]
      rfl
    have hread : (b.atop a).flagAt? "onoff" = (b.flagAt? "onoff").or (a.flagAt? "onoff") := by
      apply flagAt?_atop hget hb
      rcases hkind with rfl | rfl <;> simp [Kind.fields]
    refine ⟨?_, fun p => ?_⟩
    · rw [EntityOp.heard, EntityOp.heard, EntityOp.heard, hpower, hpower, hpower, hread]
      cases a.flagAt? "onoff" <;> cases b.flagAt? "onoff" <;> rfl
    · rw [says?, says?, says?, hpower, hpower, hpower, hread]
      cases a.flagAt? "onoff" <;> cases b.flagAt? "onoff" <;> cases p <;> rfl
  | false =>
    have hlight : ∀ item, (EntityOp.item ns item).report? kind =
        heardIf (!(Light.Report.ofItem (kind = .diffuserLight) item).isEmpty)
          (.ofLight (Light.Report.ofItem (kind = .diffuserLight) item)) := by
      intro item
      rw [report?]
      unfold heard?
      rw [hns]
      rcases hkind with rfl | rfl <;> rfl
    have hatop := hlight (b.atop a)
    rw [Light.ofItem_atop hget hb hkind, Light.Report.isEmpty_atop] at hatop
    exact combines_heardIf (hlight a) (hlight b) hatop Light.Report.ofLight_eq_none
      Light.Report.ofLight_eq_none (Light.Report.ofLight_atop _ _)

theorem combines_player {a b : Json}
    (hget : ∀ key, (b.atop a).get? key = (b.get? key).or (a.get? key))
    (hb : Kind.mediaPlayer.Usable b) :
    Combines .mediaPlayer (.item .mp3 a) (.item .mp3 b) (.item .mp3 (b.atop a)) := by
  have hatop : (EntityOp.item .mp3 (b.atop a)).report? .mediaPlayer =
      heardIf (!(Player.Report.ofItem (b.atop a)).isEmpty)
        (.ofPlayer (Player.Report.ofItem (b.atop a))) := rfl
  rw [Player.ofItem_atop hget hb rfl, Player.Report.isEmpty_atop] at hatop
  exact combines_heardIf rfl rfl hatop Player.Report.ofPlayer_eq_none
    Player.Report.ofPlayer_eq_none (Player.Report.ofPlayer_atop _ _)

end EntityOp

/-! ## What a row of two items leaves -/

/-- Two values in a row leave what the last of them leaves alone, as numbers go. -/
theorem Part.overwrite_or_beq {α : Type} [BEq α] [PartialEquivBEq α] {x y : Option α} {a : α}
    (hx : ∀ v ∈ x.toList, Proper v) (hy : ∀ v ∈ y.toList, Proper v) (ha : Proper a) :
    (overwrite (x.toList ++ y.toList) a == overwrite (y.or x).toList a) = true := by
  cases y with
  | none =>
    rw [Option.toList_none, List.append_nil, Option.none_or]
    exact overwrite_induction ha hx
  | some w =>
    have hw : Proper w := hy w (by simp)
    rw [overwrite_append, Option.some_or]
    exact BEq.trans (value_assign_beq hw) (BEq.symm (value_assign_beq hw))

namespace Status

private theorem eq_none_of_beq {α β : Type} [BEq β] {f : α → β} {o : Option α}
    (h : (none == o.map f) = true) : o = none := by
  cases o with
  | none => rfl
  | some a => cases h

section Parts

variable {s t : Status} (h : ∀ p, (s.datum? p == t.datum? p) = true)
include h

theorem measure_of_datum (hs : s.measure = none) : t.measure = none := by
  have hdevice := h .device
  simp only [datum?, hs, Option.map_none] at hdevice
  exact eq_none_of_beq hdevice

theorem selection_of_datum (hs : s.selection = none) : t.selection = none := by
  have hmode := h .mode
  simp only [datum?, hs, Option.map_none] at hmode
  exact eq_none_of_beq hmode

theorem light_beq_of_datum : (s.light == t.light) = true := by
  have hluminance := h .luminance
  have hrgb := h .rgb
  have htemperature := h .temperature
  have heffect := h .effect
  simp only [datum?] at hluminance hrgb htemperature heffect
  rcases hs : s.light with _ | ⟨lum, rgb, temp, effect⟩ <;>
    rcases ht : t.light with _ | ⟨lum', rgb', temp', effect'⟩ <;> simp_all

theorem climate_beq_of_datum : (s.climate == t.climate) = true := by
  have hmin := h .min
  have hmax := h .max
  have hcurrent := h .current
  have htarget := h .target
  have hhumidity := h .humidity
  have hheating := h .heating
  simp only [datum?] at hmin hmax hcurrent htarget hhumidity hheating
  cases hs : s.climate <;> cases ht : t.climate <;> simp_all [climate_beq]

theorem player_beq_of_datum : (s.player == t.player) = true := by
  have hmuted := h .muted
  have htrack := h .track
  have htitle := h .title
  have hvolume := h .volume
  simp only [datum?] at hmuted htrack htitle hvolume
  cases hs : s.player <;> cases ht : t.player <;> simp_all [player_beq]

end Parts

/-- Statuses that compute nothing are equal where their parts are. -/
theorem beq_of_datum {s t : Status} (hmeasure : s.measure = none) (hselection : s.selection = none)
    (havailable : s.available = t.available)
    (h : ∀ p, (s.datum? p == t.datum? p) = true) : (s == t) = true := by
  rw [beq_eq]
  simp only [Bool.and_eq_true]
  refine ⟨beq_iff_eq.2 havailable, ?_, h .power, h .state, ?_, light_beq_of_datum h,
    climate_beq_of_datum h, player_beq_of_datum h, h .extra⟩
  · rw [hmeasure, measure_of_datum h hmeasure]
    rfl
  · rw [hselection, selection_of_datum h hselection]
    rfl

end Status

namespace Entity

/-- The entities are the same, where doubles are compared as numbers. -/
structure Alike (e e' : Entity) : Prop where
  frame : e' = { e with status := e'.status }
  status : (e.status == e'.status) = true

theorem TookOps.alike {op₁ op₂ op : EntityOp} {e e₂ e' : Entity} (h : TookOps [op₁, op₂] e e₂)
    (h' : TookOps [op] e e') (hcombines : EntityOp.Combines e.kind op₁ op₂ op)
    (hproper : ∀ o ∈ [op₁, op₂], o.Proper) (hnumeric : e.status.Numeric)
    (hmeasure : e.status.measure = none) (hselection : e.status.selection = none)
    (hnamespaces : e'.namespaces = e₂.namespaces) : Alike e₂ e' := by
  have hmeasure₂ : e₂.status.measure = none := by
    simpa [Status.datum?, hmeasure] using h.datum .device
  have hselection₂ : e₂.status.selection = none := by
    simpa [Status.datum?, hselection] using h.datum .mode
  refine ⟨?_, Status.beq_of_datum hmeasure₂ hselection₂ ?_ fun p => ?_⟩
  · rw [h'.frame, h.frame, hnamespaces]
  · rw [h.available, h'.available]
    simp [hcombines.heard]
  · -- Equal as numbers only: of two zeros in a row the first stays.
    rw [h.datum, h'.datum]
    cases ha : e.status.datum? p with
    | none => rfl
    | some a =>
      have hsaid : ∀ o ∈ [op₁, op₂], ∀ v ∈ (EntityOp.says? e.kind p o).toList, Proper v := by
        intro o ho
        rw [← EntityOp.writes_singleton]
        exact EntityOp.proper_writes fun o' ho' => hproper o' (List.mem_singleton.1 ho' ▸ ho)
      have hwrites : EntityOp.writes e.kind p [op₁, op₂] =
          (EntityOp.says? e.kind p op₁).toList ++ (EntityOp.says? e.kind p op₂).toList := by
        rw [← EntityOp.writes_singleton, ← EntityOp.writes_singleton, ← EntityOp.writes_append]
        rfl
      rw [hwrites, EntityOp.writes_singleton, hcombines.reports]
      exact Part.overwrite_or_beq (hsaid _ (by simp)) (hsaid _ (by simp)) (hnumeric.datum p a ha)

/-! ## Lights and players -/

/-- The entity is a light or a player. -/
def IsPartial (e : Entity) : Prop :=
  e.kind = .light ∨ e.kind = .diffuserLight ∨ e.kind = .mediaPlayer

theorem Career.numeric {e₀ e : Entity} (hmade : e₀.Made) (hscaled : e₀.Scaled)
    (h : Career Call.Proper e₀ e) : e.status.Numeric :=
  h.invariant hmade (hmade.numeric hscaled) fun _ hinv hc heffect => heffect.numeric hc hinv

namespace IsPartial

variable {e₀ e : Entity} (h : e.IsPartial)
include h

theorem measure (hs : e.Shaped) : e.status.measure = none := by
  have hcarries : e.kind.carries .device = false := by
    rcases h with hk | hk | hk <;> rw [hk] <;> rfl
  exact Option.map_eq_none_iff.1 (hs.datum_eq_none hcarries)

theorem selection (hs : e.Shaped) : e.status.selection = none := by
  have hcarries : e.kind.carries .mode = false := by
    rcases h with hk | hk | hk <;> rw [hk] <;> rfl
  exact Option.map_eq_none_iff.1 (hs.datum_eq_none hcarries)

/-- What is computed of nothing cannot disagree with it. -/
theorem sound (hkept : Kept e₀ e) (hmade : e₀.Made) : e.Sound := by
  have hs : e.Shaped := hkept.shaped hmade
  refine ⟨hs, ⟨?_, ?_⟩, hkept.idle⟩
  · rw [h.measure hs]
    exact nofun
  · rw [h.selection hs]
    exact nofun

end IsPartial

theorem Made.commandedBy_player {e : Entity} (h : e.Made) (hkind : e.kind = .mediaPlayer) :
    e.commandedBy = some .mp3 := by
  cases h <;> first | rfl | cases hkind

theorem combines_item {e : Entity} {ns : Namespace} {a b : Json} (hkind : e.IsPartial)
    (hns : e.kind = .mediaPlayer → ns = .mp3)
    (hget : ∀ key, (b.atop a).get? key = (b.get? key).or (a.get? key)) (hb : e.kind.Usable b) :
    EntityOp.Combines e.kind (.item ns a) (.item ns b) (.item ns (b.atop a)) := by
  rcases hkind with hk | hk | hk
  · exact EntityOp.combines_light (.inl hk) hget hb
  · exact EntityOp.combines_light (.inr hk) hget hb
  · obtain rfl := hns hk
    rw [hk] at hb ⊢
    exact EntityOp.combines_player hget hb

/-- Items of its own namespace may leave fields out: after two of them a light or a player is what
    it is after one that has the fields of the second and those of the first that the second does
    not have, even if one of them has a mode that is not in the list. -/
theorem Career.merges {e₀ e : Entity} {ns : Namespace} {a b : Json} (hmade : e₀.Made)
    (hcareer : Career Call.Proper e₀ e) (hkind : e.IsPartial) (hns : e.commandedBy = some ns)
    (ha : a.WellFormed) (hb : b.WellFormed) (hao : a.isObject = true) (hbo : b.isObject = true)
    (husable : e.kind.Usable b) :
    Alike ((e.parse ns a).entity.parse ns b).entity (e.parse ns (b.atop a)).entity := by
  have hkept : Kept e₀ e := hcareer.kept hmade
  have hshaped : e.Shaped := hkept.shaped hmade
  have hsound : e.Sound := hkind.sound hkept hmade
  have hscaled : e₀.Scaled := by
    have hkind₀ : e₀.IsPartial := by
      rwa [IsPartial, ← hkept.kind]
    intro m hm
    rw [hkind₀.measure hmade.sound.shaped] at hm
    cases hm
  have hplayer : e.kind = .mediaPlayer → ns = .mp3 := by
    intro hk
    have hmp3 := hmade.commandedBy_player (hkept.kind.symm.trans hk)
    rw [← hkept.commandedBy, hns] at hmp3
    exact Option.some.inj hmp3
  have hsound₁ : ((EntityOp.item ns a).run e).entity.Sound := EntityOp.sound_run _ hsound
  have hfirst : TookOps [.item ns a] e ((EntityOp.item ns a).run e).entity := .run hsound nofun
  have hsecond : TookOps [.item ns b] ((EntityOp.item ns a).run e).entity
      ((EntityOp.item ns b).run ((EntityOp.item ns a).run e).entity).entity := .run hsound₁ nofun
  have hmerged : TookOps [.item ns (b.atop a)] e ((EntityOp.item ns (b.atop a)).run e).entity :=
    .run hsound nofun
  have hcombines := combines_item hkind hplayer (Json.get?_atop hao hbo hb) husable
  have hproper : ∀ o ∈ [EntityOp.item ns a, EntityOp.item ns b], o.Proper := by
    intro o ho
    rcases List.mem_pair.1 ho with rfl | rfl
    · exact EntityOp.proper_item ns ha
    · exact EntityOp.proper_item ns hb
  have hnamespaces : ((EntityOp.item ns (b.atop a)).run e).entity.namespaces =
      ((EntityOp.item ns b).run ((EntityOp.item ns a).run e).entity).entity.namespaces := by
    rw [EntityOp.namespaces_run _ hsound, EntityOp.namespaces_run _ hsound₁,
      EntityOp.namespaces_run _ hsound]
  exact (hfirst.append hsecond).alike hmerged hcombines hproper (hcareer.numeric hmade hscaled)
    (hkind.measure hshaped) (hkind.selection hshaped) hnamespaces

/-- A diffuser's light is put into a mode that it does not know, and then dimmed in one that it
    does. -/
theorem Career.merges_diffuser :
    let e := diffuserLight (.channel (.int 0))
    let a := Json.obj [("mode", .int 7), ("onoff", .int 1), ("rgb", .str "")]
    let b := Json.obj [("luminance", .int 40), ("mode", .int 2)]
    Career Call.Proper e e ∧ e.IsPartial ∧ e.commandedBy = some .diffuserLight ∧ a.WellFormed ∧
      b.WellFormed ∧ e.kind.Usable b ∧
        b.atop a = .obj [("luminance", .int 40), ("mode", .int 2), ("onoff", .int 1),
          ("rgb", .str "")] ∧
          Alike ((e.parse .diffuserLight a).entity.parse .diffuserLight b).entity
            (e.parse .diffuserLight (b.atop a)).entity := by
  intro e a b
  have hkind : e.IsPartial := .inr (.inl rfl)
  have ha : a.WellFormed := by
    simp [a, Json.WellFormed, Json.WellFormedFields, Keyed.Ascending]
    decide
  have hb : b.WellFormed := by
    simp [b, Json.WellFormed, Json.WellFormedFields, Keyed.Ascending]
    decide
  have husable : e.kind.Usable b := by
    intro f hf v hv
    simp only [e, diffuserLight, fresh, Kind.fields, List.mem_cons, List.not_mem_nil,
      or_false] at hf
    rcases hf with rfl | rfl | rfl | rfl | rfl <;> cases hv <;> rfl
  exact ⟨.made, hkind, rfl, ha, hb, husable, rfl,
    Career.merges (.diffuserLight _) .made hkind rfl ha hb rfl rfl husable⟩

end Entity

end Appliance
