import WriteBarrier.Proofs.Machine.Step
import WriteBarrier.Proofs.Registry.Entries
/-!
What a command leaves alone, whether or not it comes to its end.

Main statements: an operation on memory touches neither the active configuration nor the logger, nor
the list of registered tables, nor any table that is not on it; and a command on card tables keeps
the configurations and every table that was made.
-/

namespace WriteBarrier

/-- The command does no more than store and notify. -/
def Command.Notifies (c : Command) : Prop :=
  (∀ cmd, c ≠ .settings cmd) ∧ ∀ cmd, c ≠ .cards cmd

namespace Machine

variable {s s' : Machine}

/-- The configuration, the logger and the registered tables are the same, and so is every table that
is not registered. -/
structure Undisturbed (s s' : Machine) : Prop where
  config_eq : s'.config = s.config
  logger_eq : s'.diagnostics.logger = s.diagnostics.logger
  entries_eq : s'.registry.entries = s.registry.entries
  size_eq : s'.registry.tables.size = s.registry.tables.size
  get?_eq : ∀ id, id ∉ s.registry.entries → s'.registry.get? id = s.registry.get? id

theorem Undisturbed.of_registry_eq (hconfig : s'.config = s.config)
    (hlogger : s'.diagnostics.logger = s.diagnostics.logger)
    (hregistry : s'.registry = s.registry) : Undisturbed s s' where
  config_eq := hconfig
  logger_eq := hlogger
  entries_eq := by rw [hregistry]
  size_eq := by rw [hregistry]
  get?_eq _ _ := by rw [hregistry]

theorem Undisturbed.trans {after : Machine} (h : Undisturbed s s') (hrest : Undisturbed s' after) :
    Undisturbed s after where
  config_eq := hrest.config_eq.trans h.config_eq
  logger_eq := hrest.logger_eq.trans h.logger_eq
  entries_eq := hrest.entries_eq.trans h.entries_eq
  size_eq := hrest.size_eq.trans h.size_eq
  get?_eq id hid := (hrest.get?_eq id (h.entries_eq ▸ hid)).trans (h.get?_eq id hid)

theorem deliver_undisturbed (s : Machine) (n : Notification) : Undisturbed s (s.deliver n).1 := by
  obtain ⟨manager, address, bytes⟩ := n
  cases manager with
  | discard => exact .of_registry_eq rfl rfl rfl
  | declared name => exact .of_registry_eq rfl rfl rfl
  | cardTable =>
    have hsize := Registry.size_markEntries s.registry.tables address
      (saturatingAdd address bytes) 0 s.registry.entries
    have hother : ∀ id, id ∉ s.registry.entries →
        (s.registry.record address bytes).1.get? id = s.registry.get? id :=
      fun id hid => Registry.getElem?_markEntries _ _ _ _ hid
    unfold deliver
    cases hrecord : s.registry.record address bytes with
    | mk registry recorded =>
      obtain rfl : (s.registry.record address bytes).1 = registry := by rw [hrecord]
      cases recorded with
      | error f => exact ⟨rfl, rfl, rfl, hsize, hother⟩
      | ok recorded =>
        have hlogger : (s.diagnostics.noteNotification address bytes recorded).logger =
            s.diagnostics.logger := by rw [Diagnostics.noteNotification_eq]
        exact ⟨rfl, hlogger, rfl, hsize, hother⟩

theorem notify_undisturbed (s : Machine) (n : Notification) : Undisturbed s (s.notify n).1 := by
  unfold notify
  split
  · exact s.deliver_undisturbed n
  · exact .of_registry_eq rfl rfl rfl

/-- Notifications leave the rest alone one after the other, up to the first that faults. -/
theorem notifyAll_undisturbed (s : Machine) (ns : List Notification) :
    Undisturbed s (s.notifyAll ns).1 := by
  induction ns generalizing s with
  | nil => exact .of_registry_eq rfl rfl rfl
  | cons n rest ih =>
    have hone := s.notify_undisturbed n
    rw [notifyAll]
    rcases hnotify : s.notify n with ⟨s₁, f | _⟩
    · simpa only [hnotify] using hone
    · simp only [hnotify] at hone
      exact hone.trans (ih s₁)

theorem absorb_undisturbed (s : Machine) (e : Effect) : Undisturbed s (s.absorb e).1 := by
  have hmemory : Undisturbed s { s with memory := e.memory } := .of_registry_eq rfl rfl rfl
  rw [fst_absorb]
  exact hmemory.trans (notifyAll_undisturbed { s with memory := e.memory } e.notifications)

/-- Commands that do no more than store and notify leave the rest alone. -/
theorem step_undisturbed (s : Machine) {c : Command} (hc : c.Notifies) :
    Undisturbed s (s.step c).1 := by
  cases c with
  | settings c => exact absurd rfl (hc.1 c)
  | cards c => exact absurd rfl (hc.2 c)
  | storage c => exact s.absorb_undisturbed (c.perform s.memory)
  | notify n =>
    simp only [step, fst_notified]
    exact s.notify_undisturbed n
  | deliver n =>
    simp only [step, fst_notified]
    exact s.deliver_undisturbed n

/-! ### Card tables -/

/-- What holds of a state and of all that can be done with a table holds after it. -/
theorem fst_withTable {p : Machine → Prop} {id : TableId}
    {act : CardTable → Machine × Outcome Answer} (hself : p s) (hact : ∀ t, p (act t).1) :
    p (s.withTable id act).1 := by
  unfold withTable
  cases s.registry.get? id with
  | none => exact hself
  | some t => exact hact t

/-- The configurations are the same, the lock of the logger is as it was, and every table that was
made is still there. -/
structure Kept (s s' : Machine) : Prop where
  config_eq : s'.config = s.config
  loggerConfig_eq : s'.diagnostics.logger.config = s.diagnostics.logger.config
  enabled_eq : s'.diagnostics.logger.enabled = s.diagnostics.logger.enabled
  poisoned_eq : s'.diagnostics.logger.poisoned = s.diagnostics.logger.poisoned
  size_le : s.registry.tables.size ≤ s'.registry.tables.size

theorem Kept.refl (s : Machine) : Kept s s :=
  ⟨rfl, rfl, rfl, rfl, le_rfl⟩

theorem Undisturbed.kept (h : Undisturbed s s') : Kept s s' where
  config_eq := h.config_eq
  loggerConfig_eq := by rw [h.logger_eq]
  enabled_eq := by rw [h.logger_eq]
  poisoned_eq := by rw [h.logger_eq]
  size_le := h.size_eq.ge

theorem Kept.trans {after : Machine} (h : Kept s s') (hrest : Kept s' after) : Kept s after where
  config_eq := hrest.config_eq.trans h.config_eq
  loggerConfig_eq := hrest.loggerConfig_eq.trans h.loggerConfig_eq
  enabled_eq := hrest.enabled_eq.trans h.enabled_eq
  poisoned_eq := hrest.poisoned_eq.trans h.poisoned_eq
  size_le := h.size_le.trans hrest.size_le

/-- The registry may change, as long as no table is lost. -/
theorem Kept.withRegistry {registry : Registry}
    (h : s.registry.tables.size ≤ registry.tables.size) : Kept s { s with registry } :=
  ⟨rfl, rfl, rfl, rfl, h⟩

/-- An event whose text can be written changes no more of the logger than its list of events. -/
theorem logEvent_kept (s : Machine) {e : BarrierEvent} (h : e.InRange) :
    Kept s (s.logEvent e).1 := by
  obtain ⟨records, hlog⟩ := s.diagnostics.logger.log_of_inRange s.clock h
  rw [logEvent, Diagnostics.logEvent, hlog]
  exact ⟨rfl, rfl, rfl, rfl, le_rfl⟩

theorem keepTable_kept (s : Machine) (made : Except BarrierError CardTable) :
    Kept s (s.keepTable made).1 := by
  cases made with
  | error e => exact Kept.refl s
  | ok t =>
    apply Kept.withRegistry
    simp only [Registry.insert, Array.size_push]
    exact Nat.le_succ _

theorem updateTable_kept (s : Machine) (id : TableId) (t : CardTable) :
    Kept s (s.updateTable id t) := by
  apply Kept.withRegistry
  simp only [Registry.update, Array.size_setIfInBounds, le_refl]

theorem registerTable_kept (s : Machine) (id : TableId) (t : CardTable) :
    Kept s (s.registerTable id t).1 := by
  have hlogged := s.logEvent_kept
    (e := .registered t.layout.base t.layout.len t.layout.cardSizeWord) t.layout.fits
  unfold registerTable
  rcases hlog : s.logEvent (.registered t.layout.base t.layout.len t.layout.cardSizeWord)
    with ⟨s₁, f | _⟩
  · simpa only [hlog] using hlogged
  · simp only [hlog] at hlogged
    exact hlogged.trans (.withRegistry le_rfl)

theorem unregisterTable_kept (s : Machine) (id : TableId) (t : CardTable) :
    Kept s (s.unregisterTable id t).1 := by
  unfold unregisterTable
  cases hremoved : s.registry.unregister id with
  | none => exact Kept.refl s
  | some registry =>
    have htables : s.registry.tables.size ≤ registry.tables.size := by
      simp only [Registry.tables_unregister hremoved, le_refl]
    have hlogged := (Kept.withRegistry htables).trans
      (logEvent_kept { s with registry } (e := .unregistered t.layout.base) trivial)
    rcases hlog : logEvent { s with registry } (.unregistered t.layout.base) with ⟨s₁, f | _⟩
    · simpa only [hlog] using hlogged
    · simpa only [hlog] using hlogged

/-- The record of a drain goes out before its event. -/
theorem noteDrain_kept (s : Machine) (base dirtyCards : UInt64) :
    Kept s { s with diagnostics := (s.diagnostics.noteDrain s.clock base dirtyCards).1 } := by
  have hemitted : Kept s
      { s with
        diagnostics := s.diagnostics.emit (Diagnostics.drainedRecord s.clock base dirtyCards) } :=
    ⟨rfl, rfl, rfl, rfl, le_rfl⟩
  exact hemitted.trans (logEvent_kept _ (e := .scanned base dirtyCards s.clock.elapsed) trivial)

theorem drainTable_kept (s : Machine) (id : TableId) (t : CardTable) :
    Kept s (s.drainTable id t).1 := by
  have hupdated := s.updateTable_kept id t.drain.table
  rw [drainTable]
  cases t.drain.stopped with
  | some f => exact hupdated
  | none =>
    have htold := hupdated.trans
      (noteDrain_kept _ t.layout.base (UInt64.ofNat t.drain.ranges.length))
    dsimp only
    split
    · exact htold
    · exact htold

theorem cards_kept (s : Machine) (c : CardCommand) : Kept s (c.perform s).1 := by
  cases c with
  | make | makeWith | makeActive => exact s.keepTable_kept _
  | register id => exact fst_withTable (Kept.refl s) (s.registerTable_kept id)
  | unregister id => exact fst_withTable (Kept.refl s) (s.unregisterTable_kept id)
  | drain id => exact fst_withTable (Kept.refl s) (s.drainTable_kept id)
  | clear id => exact fst_withTable (Kept.refl s) fun t => s.updateTable_kept id t.clear
  | dirtyRange id address bytes =>
    refine fst_withTable (Kept.refl s) fun t => ?_
    rcases t.dirtyRange address bytes with failure | ⟨marked, fresh⟩
    · exact Kept.refl s
    · exact s.updateTable_kept id marked
  | covers | isDirty | dirtyCount | dirtyCards | debug =>
    exact fst_withTable (Kept.refl s) fun _ => Kept.refl s

/-- Only a setting changes a configuration. -/
theorem step_kept (s : Machine) {c : Command} (hc : ∀ cmd, c ≠ .settings cmd) :
    Kept s (s.step c).1 := by
  by_cases hcards : ∃ cmd, c = .cards cmd
  · obtain ⟨cmd, rfl⟩ := hcards
    exact s.cards_kept cmd
  · exact (s.step_undisturbed ⟨hc, not_exists.mp hcards⟩).kept

/-! ### The list of registered tables -/

theorem entries_keepTable (s : Machine) (made : Except BarrierError CardTable) :
    (s.keepTable made).1.registry.entries = s.registry.entries := by
  cases made with
  | error e => rfl
  | ok t => rfl

theorem entries_withTable {id : TableId} {act : CardTable → Machine × Outcome Answer}
    (hact : ∀ t, (act t).1.registry.entries = s.registry.entries) :
    (s.withTable id act).1.registry.entries = s.registry.entries :=
  fst_withTable (p := fun s' => s'.registry.entries = s.registry.entries) rfl hact

theorem entries_cards (s : Machine) {c : CardCommand} (hregister : ∀ id, c ≠ .register id)
    (hunregister : ∀ id, c ≠ .unregister id) :
    (c.perform s).1.registry.entries = s.registry.entries := by
  cases c with
  | register id => exact absurd rfl (hregister id)
  | unregister id => exact absurd rfl (hunregister id)
  | make | makeWith | makeActive => exact s.entries_keepTable _
  | drain id =>
    refine entries_withTable fun t => ?_
    obtain ⟨diagnostics, hdrain⟩ := s.fst_drainTable id t
    rw [hdrain]
    rfl
  | dirtyRange id address bytes =>
    refine entries_withTable fun t => ?_
    rcases t.dirtyRange address bytes with failure | ⟨marked, fresh⟩
    · rfl
    · rfl
  | covers | isDirty | dirtyCount | dirtyCards | clear | debug =>
    exact entries_withTable fun _ => rfl

/-- Only registering and unregistering change the list of registered tables. -/
theorem entries_step (s : Machine) {c : Command} (hregister : ∀ id, c ≠ .cards (.register id))
    (hunregister : ∀ id, c ≠ .cards (.unregister id)) :
    (s.step c).1.registry.entries = s.registry.entries := by
  by_cases hsettings : ∃ cmd, c = .settings cmd
  · obtain ⟨cmd, rfl⟩ := hsettings
    rw [step, (s.settings_agrees cmd).registry_eq]
  · by_cases hcards : ∃ cmd, c = .cards cmd
    · obtain ⟨cmd, rfl⟩ := hcards
      exact s.entries_cards (fun id h => hregister id (congrArg _ h))
        fun id h => hunregister id (congrArg _ h)
    · exact (s.step_undisturbed ⟨not_exists.mp hsettings, not_exists.mp hcards⟩).entries_eq

end Machine

end WriteBarrier
