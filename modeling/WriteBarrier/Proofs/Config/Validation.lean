import WriteBarrier.CardTable.Basic
/-!
Which configurations are accepted.

Main statements: a configuration is accepted exactly where its card shift is within the bounds, and
then its card size is a word; and no table is refused for a card shift within the bounds.
-/

namespace WriteBarrier

namespace BarrierConfig

variable {c : BarrierConfig}

/-- The cards are neither too small nor too large. -/
def Valid (c : BarrierConfig) : Prop :=
  minCardShift ≤ c.cardShift.toNat ∧ c.cardShift.toNat ≤ maxCardShift

instance (c : BarrierConfig) : Decidable c.Valid :=
  inferInstanceAs (Decidable (_ ∧ _))

theorem valid_default : ({} : BarrierConfig).Valid := by
  decide

theorem validate_of_valid (h : c.Valid) : c.validate = .ok () := by
  obtain ⟨hmin, hmax⟩ := h
  simp only [validate, Nat.not_lt.mpr hmin, Nat.not_lt.mpr hmax, if_false]

theorem exists_validate_eq_error (h : ¬c.Valid) : ∃ e, c.validate = .error e := by
  unfold validate
  by_cases hmin : c.cardShift.toNat < minCardShift
  · exact ⟨_, if_pos hmin⟩
  · have hmax : maxCardShift < c.cardShift.toNat :=
      Nat.lt_of_not_le fun hmax => h ⟨Nat.not_lt.mp hmin, hmax⟩
    exact ⟨_, (if_neg hmin).trans (if_pos hmax)⟩

theorem cardSize_of_valid (h : c.Valid) : c.cardSize = .ok (1 <<< c.cardShift.toUInt64) := by
  have hmax : c.cardShift.toNat < 64 := Nat.lt_of_le_of_lt h.2 (by decide)
  exact if_pos hmax

end BarrierConfig

/-- The layout of a range may have other defects. -/
theorem CardLayout.make_ne_configuration {c : BarrierConfig} (h : c.Valid) (base len : UInt64)
    (e : ConfigError) : make base len c.cardShift ≠ .error (.configuration e) := by
  unfold make
  rw [dif_pos (And.intro h.1 h.2)]
  split
  · split
    · split
      · exact nofun
      · exact nofun
    · exact nofun
  · exact nofun

theorem CardTable.new_ne_configuration {c : BarrierConfig} (h : c.Valid) (base len : UInt64)
    (e : ConfigError) : new base len c.cardShift ≠ .error (.configuration e) := by
  have hlayout := CardLayout.make_ne_configuration h base len e
  unfold new
  cases hmake : CardLayout.make base len c.cardShift with
  | ok layout => exact nofun
  | error defect =>
    intro hnew
    cases hnew
    exact hlayout hmake

end WriteBarrier
