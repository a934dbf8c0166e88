import WriteBarrier.Proofs.Log.Logger
import WriteBarrier.Proofs.Machine.Notification
/-!
States that differ in their diagnostics and settings at most.

Main statement: whatever a command on settings answers, it leaves memory, tables and the calls of
managers as they are.
-/

namespace WriteBarrier

namespace Machine

variable {s s' : Machine}

/-- Everything that stores, notifications and card tables work on is the same. -/
structure Agrees (s s' : Machine) : Prop where
  build_eq : s'.build = s.build
  memory_eq : s'.memory = s.memory
  registry_eq : s'.registry = s.registry
  calls_eq : s'.calls = s.calls

theorem Agrees.refl (s : Machine) : Agrees s s :=
  ⟨rfl, rfl, rfl, rfl⟩

theorem Agrees.symm (h : Agrees s s') : Agrees s' s :=
  ⟨h.build_eq.symm, h.memory_eq.symm, h.registry_eq.symm, h.calls_eq.symm⟩

theorem Agrees.trans {after : Machine} (h : Agrees s s') (hrest : Agrees s' after) :
    Agrees s after where
  build_eq := hrest.build_eq.trans h.build_eq
  memory_eq := hrest.memory_eq.trans h.memory_eq
  registry_eq := hrest.registry_eq.trans h.registry_eq
  calls_eq := hrest.calls_eq.trans h.calls_eq

theorem Agrees.notified (h : Agrees s s') : Notified s s' [] :=
  .silent h.build_eq h.memory_eq h.registry_eq

/-! ### Settings -/

theorem logEvent_agrees (s : Machine) (e : BarrierEvent) : Agrees s (s.logEvent e).1 :=
  ⟨rfl, rfl, rfl, rfl⟩

/-- A configuration that is refused leaves no more than an event, which can always be logged. -/
theorem applyConfig_of_error {config : BarrierConfig} {e : ConfigError}
    (h : config.validate = .error e) :
    s.applyConfig config =
      ((s.logEvent (.rejected e.message)).1, .error (.error (.configuration e))) := by
  obtain ⟨diagnostics, hlog⟩ := s.logEvent_of_inRange (e := .rejected e.message) trivial
  simp only [applyConfig, h, hlog]

theorem applyConfig_agrees (s : Machine) (config : BarrierConfig) :
    Agrees s (s.applyConfig config).1 := by
  cases hvalidate : config.validate with
  | error e =>
    rw [applyConfig_of_error hvalidate]
    exact s.logEvent_agrees _
  | ok _ =>
    simp only [applyConfig, hvalidate]
    cases config.cardSize with
    | error f => exact ⟨rfl, rfl, rfl, rfl⟩
    | ok cardSize => exact ⟨rfl, rfl, rfl, rfl⟩

theorem fst_logged (result : Machine × Except Fault Unit) : (logged result).1 = result.1 := by
  rcases result with ⟨s, f | _⟩ <;> rfl

theorem settings_agrees (s : Machine) (c : SettingsCommand) : Agrees s (c.perform s).1 := by
  cases c with
  | start =>
    have hread : Agrees s s.readEnvironment.1 := ⟨rfl, rfl, rfl, rfl⟩
    exact hread.trans (applyConfig_agrees s.readEnvironment.1 s.readEnvironment.2)
  | startWith config => exact s.applyConfig_agrees config
  | logEvent e =>
    rw [SettingsCommand.perform, fst_logged]
    exact s.logEvent_agrees e
  | logSummary =>
    rw [SettingsCommand.perform, fst_logged]
    exact s.logEvent_agrees _
  | setEnvironment | fromEnvironment | activeConfig | configureLogger | eventCount | statistics
  | averageBytes | resetStatistics | enableStatistics => exact ⟨rfl, rfl, rfl, rfl⟩

end Machine

end WriteBarrier
