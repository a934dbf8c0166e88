import WriteBarrier.Proofs.Config.Environment
import WriteBarrier.Proofs.Machine.Configuration
/-!
Starting with the configuration that the environment asks for.

Main statement: the environment always asks for some configuration.  Starting applies it if its card
shift is within the bounds, and else leaves the active configuration and the counting switch alone.
-/

namespace WriteBarrier

namespace Machine

variable {s : Machine} {config : BarrierConfig} {e : ConfigError}

/-- Whether the logger is enabled or not, a refusal comes to its own answer. -/
theorem applyConfig_of_validate_eq_error (h : config.validate = .error e) :
    ∃ s', s.applyConfig config = (s', .error (.error (.configuration e))) ∧
      s'.config = s.config ∧ s'.diagnostics.statsEnabled = s.diagnostics.statsEnabled := by
  obtain ⟨records, hlog⟩ := s.fst_logEvent (.rejected e.message)
  refine ⟨_, applyConfig_of_error h, ?_⟩
  rw [hlog]
  exact ⟨rfl, rfl⟩

theorem records_logEvent (s : Machine) (e : BarrierEvent) :
    s.diagnostics.records <+: (s.logEvent e).1.diagnostics.records := by
  obtain ⟨records, hlog⟩ := s.fst_logEvent e
  rw [hlog]
  exact List.prefix_append ..

theorem records_applyConfig (s : Machine) (config : BarrierConfig) :
    s.diagnostics.records <+: (s.applyConfig config).1.diagnostics.records := by
  cases hvalidate : config.validate with
  | error e =>
    rw [applyConfig_of_error hvalidate]
    exact s.records_logEvent _
  | ok _ =>
    simp only [applyConfig, hvalidate]
    cases config.cardSize with
    | error f => exact List.prefix_rfl
    | ok cardSize => exact List.prefix_append ..

/-- Reading the environment sends its warnings and answers the configuration that its texts ask for.
Starting sends them too, and applies the configuration as a whole if its card shift is within the
bounds; else it answers the defect, and the active configuration and the counting switch stay. -/
theorem step_environment_exact (s : Machine) :
    ∃ config warnings, Environment.Asks s.environment config warnings ∧
      s.step (.settings .fromEnvironment) =
        ({ s with diagnostics :=
            { s.diagnostics with records := s.diagnostics.records ++ warnings } },
          .ok (.config config)) ∧
      s.diagnostics.records ++ warnings <+:
        (s.step (.settings .start)).1.diagnostics.records ∧
      if 4 ≤ config.cardShift.toNat ∧ config.cardShift.toNat ≤ 20 then
        ∃ s', s.step (.settings .start) = (s', .ok (.config config)) ∧ Applied s s' config
      else
        ∃ e s', s.step (.settings .start) = (s', .error (.error (.configuration e))) ∧
          s'.config = s.config ∧ s'.diagnostics.statsEnabled = s.diagnostics.statsEnabled := by
  refine ⟨s.environment.config.1, s.environment.config.2, s.environment.config_asks, rfl,
    records_applyConfig s.readEnvironment.1 s.readEnvironment.2, ?_⟩
  split_ifs with hvalid
  · exact step_of_valid rfl hvalid
  · obtain ⟨e, hinvalid⟩ := BarrierConfig.exists_validate_eq_error hvalid
    exact ⟨e, applyConfig_of_validate_eq_error (s := s.readEnvironment.1) hinvalid⟩

end Machine

end WriteBarrier
