-- SUMMARY: What holds of an entity all along its career: it stays as it was made, and what is computed follows what it is computed from.

import Appliance.Proofs.Call

namespace Appliance

/-! ## Computed values -/

/-- What is there after a report, where equal values are the same. -/
theorem value_assign {α : Type} [BEq α] [LawfulBEq α] (old new : α) :
    (assign old (some new)).value = new := by
  rw [assign_some]
  split
  · rename_i hsame
    exact eq_of_beq hsame
  · rfl

namespace Measure

/-- Neither value is known, or both are and one is computed from the other. -/
def Balanced (m : Measure) : Prop :=
  m.device = none ∧ m.native = none ∨
    ∃ d n, m.device = some d ∧ m.native = some n ∧ (n = d / m.scale ∨ d = n * m.scale)

theorem balanced_clear (m : Measure) : m.clear.Balanced := .inl ⟨rfl, rfl⟩

theorem Balanced.setDevice {m : Measure} (h : m.Balanced) (x : Float) :
    (m.setDevice x).value.Balanced := by
  unfold Measure.setDevice
  split
  · exact h
  · exact .inr ⟨x, x / m.scale, rfl, rfl, .inl rfl⟩

theorem Balanced.setNative {m : Measure} (h : m.Balanced) (x : Float) :
    (m.setNative x).value.Balanced := by
  unfold Measure.setNative
  split
  · exact h
  · exact .inr ⟨x * m.scale, x, rfl, rfl, .inr rfl⟩

theorem Balanced.onMeasure {m : Measure} (h : m.Balanced) (r : Status.Revision) :
    (r.onMeasure m).Balanced := by
  cases r with
  | device x | deviceWith x _ => exact h.setDevice x
  | native x => exact h.setNative x
  | _ => exact h

end Measure

namespace Selection

/-- The preset is the one that the mode selects. -/
def Matched (x : Selection) : Prop := x.preset = x.mode.bind x.presets.preset?

theorem Matched.select {x : Selection} (h : x.Matched) (mode : Int64) :
    (x.select mode).value.Matched := by
  unfold Selection.select
  split
  · exact h
  · rfl

theorem Matched.onSelection {x : Selection} (h : x.Matched) (r : Status.Revision) :
    (r.onSelection x).Matched := by
  cases r with
  | mode mode => exact h.select mode
  | climate r => exact h.select r.mode
  | _ => exact h

end Selection

namespace Player

/-- The title is the one of the track. -/
def Titled (p : Player) : Prop := p.title = p.track.bind title?

theorem Titled.revise {p : Player} (h : p.Titled) (r : Player.Report) :
    (p.revise r).value.Titled := by
  change (assign p.title (r.song.map title?)).value =
    (assign p.track (r.song.map some)).value.bind title?
  cases r.song with
  | none => exact h
  | some song =>
    simp only [Option.map_some, value_assign]
    rfl

theorem Titled.onPlayer {p : Player} (h : p.Titled) (r : Status.Revision) :
    (r.onPlayer p).Titled := by
  cases r with
  | player r => exact h.revise r
  | _ => exact h

end Player

namespace Status

/-- What is computed from other values follows them. A measure may have been
    set in either unit. -/
structure Concordant (s : Status) : Prop where
  measure : ∀ m, s.measure = some m → m.Balanced
  selection : ∀ x, s.selection = some x → x.Matched
  player : ∀ p, s.player = some p → p.Titled

theorem concordant_clear (s : Status) : s.clear.Concordant := by
  refine ⟨fun m hm => ?_, fun x hx => ?_, fun p hp => ?_⟩
  · obtain ⟨m', -, rfl⟩ := Option.map_eq_some_iff.1 hm
    exact m'.balanced_clear
  · obtain ⟨x', -, rfl⟩ := Option.map_eq_some_iff.1 hx
    rfl
  · obtain ⟨p', -, rfl⟩ := Option.map_eq_some_iff.1 hp
    rfl

theorem Concordant.revise {s : Status} (h : s.Concordant) (r : Revision) :
    (s.revise r).value.Concordant := by
  refine ⟨fun m hm => ?_, fun x hx => ?_, fun p hp => ?_⟩
  · rw [measure_revise, Option.map_eq_some_iff] at hm
    obtain ⟨m', hm', rfl⟩ := hm
    exact (h.measure m' hm').onMeasure r
  · rw [selection_revise, Option.map_eq_some_iff] at hx
    obtain ⟨x', hx', rfl⟩ := hx
    exact (h.selection x' hx').onSelection r
  · rw [player_revise, Option.map_eq_some_iff] at hp
    obtain ⟨p', hp', rfl⟩ := hp
    exact (h.player p' hp').onPlayer r

end Status

/-! ## Entities in their careers -/

namespace Entity

theorem Made.concordant {e : Entity} (h : e.Made) : e.status.Concordant := by
  rw [← h.blank]
  exact e.status.concordant_clear

theorem Effect.concordant {e : Entity} {c : Call} {change : Change (Except Error Bool)}
    (h : e.status.Concordant) (heffect : Effect e c change) :
    change.entity.status.Concordant := by
  cases heffect with
  | refuses _ => exact h
  | ignores => exact h
  | revises r _ _ _ =>
    have hrevised := h.revise r
    exact ⟨hrevised.measure, hrevised.selection, hrevised.player⟩
  | clears => exact e.status.concordant_clear

/-- The second entity is still what the first was made as. -/
structure Upholds (e₀ e : Entity) : Prop where
  id : e.id = e₀.id
  kind : e.kind = e₀.kind
  commandedBy : e.commandedBy = e₀.commandedBy
  scale : e.status.measure.map (·.scale) = e₀.status.measure.map (·.scale)
  presets : e.status.selection.map (·.presets) = e₀.status.selection.map (·.presets)
  components : ∀ p, (e.status.datum? p).isSome = (e₀.status.datum? p).isSome
  concordant : e.status.Concordant
  /-- Nothing is known of an unavailable entity, nor of one that was just made. -/
  idle : e.status.available = false → e = { e₀ with namespaces := e.namespaces }
  lost : e.setUnavailable.entity = { e₀ with namespaces := e.namespaces }
  blank : e₀.status.clear = e₀.status

theorem upholds_of_kept {e₀ e : Entity} (h : Kept e₀ e) (hmade : e₀.Made)
    (hconcordant : e.status.Concordant) : Upholds e₀ e := by
  have hblank : e.status.clear = e₀.status := h.clear.trans hmade.blank
  refine ⟨h.id, h.kind, h.commandedBy, ?_, ?_, fun p => ?_, hconcordant, fun hidle => ?_, ?_,
    hmade.blank⟩
  · rw [← hblank, Status.clear, Option.map_map]
    rfl
  · rw [← hblank, Status.clear, Option.map_map]
    rfl
  · rw [← hblank, Status.isSome_datum?_clear]
  · rw [h.frame, h.idle hidle, hblank]
  · change { e with status := e.status.clear } = { e₀ with namespaces := e.namespaces }
    rw [h.frame, ← hblank]

/-- Whatever an entity is asked, it stays what it was made as. -/
theorem Career.upholds {e₀ e : Entity} (hmade : e₀.Made) (h : Career (fun _ => True) e₀ e) :
    Upholds e₀ e := by
  have hconcordant : e.status.Concordant :=
    h.invariant hmade hmade.concordant fun _ hinv _ heffect => heffect.concordant hinv
  exact upholds_of_kept (h.kept hmade) hmade hconcordant

/-- A player that was told of its ninth song. -/
def hummingPlayer : Entity :=
  ((Call.item .mp3 (.obj [("song", .int 9)])).run (mediaPlayer (.keyed (.int 0) "mp3"))).entity

theorem Career.upholds_player :
    Career (fun _ => True) (mediaPlayer (.keyed (.int 0) "mp3")) hummingPlayer ∧
      Upholds (mediaPlayer (.keyed (.int 0) "mp3")) hummingPlayer ∧
        hummingPlayer.status.player =
          some { track := some 9, title := some "White Noise" } := by
  have hcareer : Career (fun _ => True) (mediaPlayer (.keyed (.int 0) "mp3")) hummingPlayer :=
    .call .made trivial
  exact ⟨hcareer, Career.upholds (.mediaPlayer _) hcareer, rfl⟩

end Entity

end Appliance
