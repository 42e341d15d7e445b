-- SUMMARY: The modes of a diffuser's spray and the options they are offered as.

namespace Appliance

/-! ## Spray options -/

namespace Spray

/-- The options with their modes. -/
def options : List (Int64 × String) := [(2, "off"), (0, "eco"), (1, "continuous")]

/-- The option that a mode is shown as. -/
def option? (mode : Int64) : Option String := options.lookup mode

/-- The mode behind an option. -/
def mode? (option : String) : Option Int64 :=
  (options.find? (·.2 == option)).map (·.1)

theorem option?_of_mode? {option : String} {mode : Int64} (h : mode? option = some mode) :
    option? mode = some option := by
  simp only [mode?, Option.map_eq_some_iff] at h
  obtain ⟨p, hp, rfl⟩ := h
  have hname := List.find?_some hp
  have hmem := List.mem_of_find?_eq_some hp
  simp only [beq_iff_eq] at hname
  subst hname
  simp only [options, List.mem_cons, List.not_mem_nil, or_false] at hmem
  rcases hmem with rfl | rfl | rfl <;> rfl

end Spray

end Appliance
