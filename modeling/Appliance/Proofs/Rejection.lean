-- SUMMARY: An item that an entity rejects leaves no trace, unless it is for the light of a diffuser and only its mode is unknown.

import Appliance.Proofs.Call

namespace Appliance

/-! ## Stray modes

An item with a mode outside the list does to a light what the same item with
the color mode does: neither shows an effect. -/

namespace Json

/-- The value with another value in a field. -/
def withField (j : Json) (key : String) (v : Json) : Json :=
  match j with
  | .obj fields => .obj (Keyed.put key v fields)
  | j => j

theorem get?_withField {j : Json} (key : String) (v : Json) (hj : j.isObject = true)
    (key' : String) :
    (j.withField key v).get? key' = if key' == key then some v else j.get? key' := by
  cases j with
  | obj fields => exact Keyed.lookup_put key key' v fields
  | _ => cases hj

theorem isObject_of_int64At? {j : Json} {key : String} {i : Int64} (h : j.int64At? key = some i) :
    j.isObject = true := by
  cases j with
  | obj fields => rfl
  | _ => cases h

end Json

/-- The item in the color mode. -/
def Light.colored (item : Json) : Json := item.withField "mode" (.ofInt64 colorMode)

theorem Light.ofItem_colored {item : Json} (h : item.isObject = true) :
    Report.ofItem true (colored item) =
      { Report.ofItem true item with mode := some colorMode } := by
  simp [Report.ofItem, colored, Json.flagAt?, Json.int64At?, Json.get?_withField _ _ h,
    Json.asInt64?_ofInt64]

theorem Light.effectOf_stray {m : Int64} (h : modeName? m = none) :
    effectOf m = effectOf colorMode := by
  unfold effectOf
  split
  · rfl
  · exact h

theorem Status.reviseLight_stray {r : Light.Report} {m : Int64} (hmode : r.mode = some m)
    (h : Light.modeName? m = none) (s : Status) :
    s.reviseLight { r with mode := some Light.colorMode } = s.reviseLight r := by
  simp only [reviseLight, Light.revise, hmode, Option.map_some, Light.effectOf_stray h]

namespace Entity

variable {e : Entity} {ns : Namespace} {item : Json} {m : Int64}

theorem parse_diffuserLight (hkind : e.kind = .diffuserLight) (ht : ns ≠ .toggle)
    (hx : ns ≠ .toggleX) : e.parse ns item = e.applyLight ns item := by
  simp [parse, isToggledBy, ht, hx, hkind]

theorem isEmpty_of_mode {r : Light.Report} (h : r.mode = some m) : r.isEmpty = false := by
  simp [Light.Report.isEmpty, h]

namespace Strays

variable (h : e.Strays ns item m)
include h

theorem ofItem_mode : (Light.Report.ofItem true item).mode = some m := h.mode

theorem parse_eq : e.parse ns item =
    (e.commit (e.status.reviseLight (.ofItem true item))).map
      fun _ => .error (.payload ns (.unknownLightMode m)) := by
  have hunknown : (Light.Report.ofItem true item).unknownMode? = some m := by
    simp [Light.Report.unknownMode?, h.ofItem_mode, h.unnamed]
  rw [parse_diffuserLight h.kind h.toggle h.toggleX]
  simp [applyLight, h.kind, isEmpty_of_mode h.ofItem_mode, hunknown]

theorem parse_colored : e.parse ns (Light.colored item) =
    (e.commit (e.status.reviseLight (.ofItem true item))).map .ok := by
  have hreport := Light.ofItem_colored (Json.isObject_of_int64At? h.mode)
  have hknown : (Light.Report.ofItem true (Light.colored item)).unknownMode? = none := by
    rw [hreport]
    rfl
  have hmode : (Light.Report.ofItem true (Light.colored item)).mode = some Light.colorMode := by
    rw [hreport]
  rw [parse_diffuserLight h.kind h.toggle h.toggleX]
  simp only [applyLight, h.kind, decide_true, isEmpty_of_mode hmode, Bool.false_eq_true, if_false,
    hknown]
  rw [hreport, Status.reviseLight_stray h.ofItem_mode h.unnamed]

end Strays

/-! ## Errors -/

namespace Effect

variable {change : Change (Except Error Bool)} {error : Error}

theorem unchanged (heffect : Effect e (.item ns item) change)
    (hlisted : ∀ m, ¬ e.Strays ns item m) (herror : change.answer = .error error) :
    change.entity = e ∧ change.flushes = [] := by
  cases heffect with
  | refuses _ => exact ⟨rfl, rfl⟩
  | ignores => cases herror
  | revises r _ _ hanswer =>
    cases hanswer with
    | changed => cases herror
    | stray h => exact absurd h (hlisted _)

theorem refused (heffect : Effect e (.item ns item) change)
    (herror : change.answer = .error error) : e.kind.Refuses ns error := by
  cases heffect with
  | refuses h =>
    cases herror
    exact h
  | ignores => cases herror
  | revises r _ _ hanswer =>
    cases hanswer with
    | changed => cases herror
    | stray h =>
      cases herror
      have hparses : e.kind.parses ns = true := by simp [Kind.parses, h.kind]
      rw [Kind.Refuses, if_pos hparses]
      exact ⟨_, rfl⟩

end Effect

/-- An item that can be read wherever any can. -/
def plainItem : Json := .obj [("mode", .int 0), ("onoff", .int 1), ("value", .int 0)]

theorem Shaped.parse_plainItem (hs : e.Shaped) (h : e.kind.parses ns = true) :
    ∃ b, (e.parse ns plainItem).answer = .ok b := by
  have hpower : e.status.power.isSome = e.kind.carries .power := hs.carries .power
  unfold parse
  split
  · exact ⟨_, rfl⟩
  · rename_i htoggled
    rw [isToggledBy, hpower] at htoggled
    replace h := (Bool.or_eq_true_iff.1 h).resolve_left htoggled
    cases hk : e.kind with
    | light | diffuserLight =>
      rw [applyLight, hk]
      exact ⟨_, rfl⟩
    | diffuserSpray => exact ⟨_, rfl⟩
    | climate | mediaPlayer =>
      rw [hk] at h
      cases ns <;> first | exact ⟨_, rfl⟩ | cases h
    | sensor => cases ns <;> exact ⟨_, rfl⟩
    | switch | binarySensor | stateSensor =>
      rw [hk] at h
      cases h

theorem Shaped.parse_of_not_parses (hs : e.Shaped) (h : e.kind.parses ns = false) (item : Json) :
    e.parse ns item = e.reject (.unsupported (.cannotParse e.kind ns)) := by
  have hpower : e.status.power.isSome = e.kind.carries .power := hs.carries .power
  obtain ⟨htoggled, hkind⟩ := Bool.or_eq_false_iff.1 h
  rw [← hpower] at htoggled
  unfold parse
  rw [isToggledBy, htoggled, if_neg Bool.false_ne_true]
  cases hk : e.kind with
  | light | diffuserLight | diffuserSpray | sensor =>
    rw [hk] at hkind
    cases hkind
  | climate | mediaPlayer =>
    rw [hk] at hkind
    cases ns <;> first | rfl | cases hkind
  | switch | binarySensor | stateSensor => rfl

/-- Items of the namespace can be read unless every one of them is refused. -/
theorem Shaped.parses_iff (hs : e.Shaped) :
    e.kind.parses ns = true ↔ ∃ item b, (e.parse ns item).answer = .ok b := by
  refine ⟨fun h => ⟨plainItem, hs.parse_plainItem h⟩, ?_⟩
  rintro ⟨item, b, hb⟩
  rw [← Bool.not_eq_false]
  intro h
  rw [hs.parse_of_not_parses h] at hb
  cases hb

/-- What an entity makes of items that it cannot read. -/
structure Discerns (e : Entity) (ns : Namespace) (item : Json) : Prop where
  /-- An error leaves no trace, if it is not about a stray mode. -/
  unchanged : ∀ error, (e.parse ns item).answer = .error error → (∀ m, ¬ e.Strays ns item m) →
    (e.parse ns item).entity = e ∧ (e.parse ns item).flushes = []
  /-- A stray mode is an error in the payload, and is taken for the color mode. -/
  stray : ∀ m, e.Strays ns item m →
    (e.parse ns item).answer = .error (.payload ns (.unknownLightMode m)) ∧
      (e.parse ns item).entity = (e.parse ns (Light.colored item)).entity ∧
        (e.parse ns item).flushes = (e.parse ns (Light.colored item)).flushes
  /-- Where some item of the namespace can be read, errors are about the payload. -/
  malformed : (∃ item' b, (e.parse ns item').answer = .ok b) →
    ∀ error, (e.parse ns item).answer = .error error → ∃ fault, error = .payload ns fault
  /-- Where none can, the error is that. -/
  unsupported : (∀ item' b, (e.parse ns item').answer ≠ .ok b) →
    (e.parse ns item).answer = .error (.unsupported (.cannotParse e.kind ns))

/-- Whatever became of an entity, it takes an item in whole or not at all, but
    for the light of a diffuser, which shows no effect in a mode unknown to it. -/
theorem Career.discerns {e₀ : Entity} (hmade : e₀.Made) (h : Career (fun _ => True) e₀ e)
    (ns : Namespace) (item : Json) : e.Discerns ns item := by
  have hs : e.Shaped := h.shaped hmade
  have heffect : Effect e (.item ns item) (e.parse ns item) := .of_parse hs ns item
  refine ⟨fun error herror hlisted => heffect.unchanged hlisted herror, fun m hstray => ?_,
    fun hread error herror => ?_, fun hnone => ?_⟩
  · rw [hstray.parse_eq, hstray.parse_colored]
    exact ⟨rfl, rfl, rfl⟩
  · have hrefused := heffect.refused herror
    rwa [Kind.Refuses, if_pos (hs.parses_iff.2 hread)] at hrefused
  · have hparses : e.kind.parses ns = false := by
      rw [← Bool.not_eq_true, hs.parses_iff]
      rintro ⟨item', b, hb⟩
      exact hnone item' b hb
    rw [hs.parse_of_not_parses hparses]
    rfl

/-- A diffuser's light that is told to be on in its eighth mode. -/
def strayItem : Json := .obj [("mode", .int 7), ("onoff", .int 1)]

theorem Career.discerns_diffuser :
    let e := diffuserLight (.channel (.int 0))
    (e.parse .diffuserLight strayItem).answer =
        .error (.payload .diffuserLight (.unknownLightMode 7)) ∧
      (e.parse .diffuserLight strayItem).entity =
        (e.parse .diffuserLight (.obj [("mode", .int 1), ("onoff", .int 1)])).entity ∧
          (e.parse .diffuserLight strayItem).entity.power? = some true := by
  have hdiscerns :=
    Career.discerns (.diffuserLight (.channel (.int 0))) .made .diffuserLight strayItem
  obtain ⟨hanswer, hentity, -⟩ := hdiscerns.stray 7 ⟨rfl, nofun, nofun, rfl, rfl⟩
  exact ⟨hanswer, hentity, rfl⟩

end Entity

end Appliance
