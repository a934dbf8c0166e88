import WriteBarrier.Proofs.Machine.Agreement
import WriteBarrier.Proofs.Machine.Draining
/-!
What one command of a run can do to memory and cards.

Main statement: a command takes cards from dirty to clean in the one table that it drains or clears,
and makes dirty exactly the cards that it marks, by a notification while the table records or by
marking the table itself.
-/

namespace WriteBarrier

/-- The command drains or clears the table, whatever comes of it. -/
def Command.Cleans (id : TableId) (c : Command) : Prop :=
  c = .cards (.drain id) ∨ c = .cards (.clear id)

/-- The command changes the state of no card. -/
def CardCommand.LeavesCards (c : CardCommand) : Prop :=
  ∀ id, c ≠ .drain id ∧ c ≠ .clear id ∧ ∀ address bytes, c ≠ .dirtyRange id address bytes

namespace Machine

variable {s s' : Machine} {id : TableId} {card : Nat}

/-- The notifications that a command hands to managers. -/
def notifications (s : Machine) : Command → List Notification
  | .settings _ | .cards _ => []
  | .storage c => s.heard (c.perform s.memory).notifications
  | .notify n => s.heard [n]
  | .deliver n => [n]

/-- The memory that a command leaves behind. -/
def memoryAfter (s : Machine) : Command → Memory
  | .storage c => (c.perform s.memory).memory
  | .settings _ | .cards _ | .notify _ | .deliver _ => s.memory

/-- The command marks the card: through a notification while the table records, or by marking a
range of the table that is not refused. -/
def Marks (s : Machine) (id : TableId) (card : Nat) (c : Command) : Prop :=
  s.registry.MarkedBy (s.notifications c) id card ∨
    ∃ address bytes fresh, c = .cards (.dirtyRange id address bytes) ∧
      (s.step c).2 = .ok (.count fresh) ∧ s.registry.Meets id card address.toNat bytes.toNat

/-- Everything that a command can do to memory and cards. -/
structure Advanced (s s' : Machine) (c : Command) : Prop where
  build_eq : s'.build = s.build
  memory_eq : s'.memory = s.memoryAfter c
  layout_eq : ∀ id l, s.registry.layout? id = some l → s'.registry.layout? id = some l
  dirty_iff : ∀ id card, s'.registry.Dirty id card ↔
    s.registry.Dirty id card ∧ ¬c.Cleans id ∨ s.Marks id card c

/-- Commands on card tables apart, a command does no more than notify. -/
theorem advanced_of_notified {c : Command} (hcards : ∀ cmd, c ≠ .cards cmd)
    (h : Notified { s with memory := s.memoryAfter c } s' (s.notifications c)) :
    Advanced s s' c where
  build_eq := h.build_eq
  memory_eq := h.memory_eq
  layout_eq id l hl := by rw [Registry.layout?_congr h.layouts_eq]; exact hl
  dirty_iff id card := by
    have hcleans : ¬c.Cleans id := by
      rintro (hdrain | hclear)
      · exact hcards _ hdrain
      · exact hcards _ hclear
    rw [h.dirty_iff]
    simp [Marks, hcards, hcleans]

/-! ### Card tables -/

/-- A command on card tables that neither cleans nor marks leaves all cards as they are. -/
theorem advanced_of_cards {c : CardCommand} (hc : c.LeavesCards) (hbuild : s'.build = s.build)
    (hmemory : s'.memory = s.memory)
    (hlayout : ∀ id l, s.registry.layout? id = some l → s'.registry.layout? id = some l)
    (hdirty : ∀ id card, s'.registry.Dirty id card ↔ s.registry.Dirty id card) :
    Advanced s s' (.cards c) where
  build_eq := hbuild
  memory_eq := hmemory
  layout_eq := hlayout
  dirty_iff id card := by
    obtain ⟨hdrain, hclear, hmark⟩ := hc id
    rw [hdirty]
    simp [Marks, notifications, Registry.MarkedBy, Command.Cleans, hdrain, hclear, hmark]

theorem advanced_of_tables {c : CardCommand} (hc : c.LeavesCards) (hbuild : s'.build = s.build)
    (hmemory : s'.memory = s.memory) (htables : s'.registry.tables = s.registry.tables) :
    Advanced s s' (.cards c) := by
  have hget : ∀ id, s'.registry.get? id = s.registry.get? id := by
    intro id
    rw [Registry.get?, Registry.get?, htables]
  refine advanced_of_cards hc hbuild hmemory ?_ ?_
  · intro id l hl
    rwa [Registry.layout?_eq_map, hget, ← Registry.layout?_eq_map]
  · intro id card
    rw [Registry.Dirty, hget, Registry.Dirty]

theorem withTable_advanced {c : CardCommand} {act : CardTable → Machine × Outcome Answer}
    (hc : c.LeavesCards) (hact : ∀ t, Advanced s (act t).1 (.cards c)) :
    Advanced s (s.withTable id act).1 (.cards c) := by
  unfold withTable
  cases s.registry.get? id with
  | none => exact advanced_of_tables hc rfl rfl rfl
  | some t => exact hact t

theorem keepTable_advanced {c : CardCommand} (hc : c.LeavesCards) (base len : UInt64)
    (shift : UInt32) : Advanced s (s.keepTable (CardTable.new base len shift)).1 (.cards c) := by
  unfold CardTable.new
  cases CardLayout.make base len shift with
  | error e => exact advanced_of_tables hc rfl rfl rfl
  | ok layout =>
    refine advanced_of_cards hc rfl rfl ?_ ?_
    · intro id l hl
      exact Registry.layout?_insert hl _
    · intro id card
      exact Registry.dirty_insert_clean s.registry layout

theorem keepTable_withConfig_advanced {c : CardCommand} (hc : c.LeavesCards) (base len : UInt64)
    (config : BarrierConfig) :
    Advanced s (s.keepTable (CardTable.withConfig base len config)).1 (.cards c) := by
  unfold CardTable.withConfig
  cases config.validate with
  | ok _ => exact keepTable_advanced hc base len config.cardShift
  | error e => exact advanced_of_tables hc rfl rfl rfl

/-- A table that was made can always be registered. -/
theorem registerTable_eq (s : Machine) (id : TableId) (t : CardTable) :
    ∃ diagnostics, s.registerTable id t =
      ({ s with registry := s.registry.register id, diagnostics },
        .ok (.count (s.registry.register id).entries.length)) := by
  obtain ⟨diagnostics, hlog⟩ := s.logEvent_of_inRange
    (e := .registered t.layout.base t.layout.len t.layout.cardSizeWord) t.layout.fits
  refine ⟨diagnostics, ?_⟩
  rw [registerTable, hlog]

theorem registerTable_advanced (s : Machine) (id : TableId) (t : CardTable) :
    Advanced s (s.registerTable id t).1 (.cards (.register id)) := by
  obtain ⟨diagnostics, hregister⟩ := s.registerTable_eq id t
  rw [hregister]
  exact advanced_of_tables (by simp [CardCommand.LeavesCards]) rfl rfl rfl

/-- An entry that a table has can always be removed. -/
theorem unregisterTable_eq_of_some {registry : Registry}
    (h : s.registry.unregister id = some registry) (t : CardTable) :
    ∃ diagnostics, s.unregisterTable id t =
      ({ s with registry, diagnostics }, .ok (.removal true registry.entries.length)) := by
  obtain ⟨diagnostics, hlog⟩ := Machine.logEvent_of_inRange { s with registry }
    (e := .unregistered t.layout.base) trivial
  refine ⟨diagnostics, ?_⟩
  simp only [unregisterTable, h, hlog]

theorem unregisterTable_eq_of_none (h : s.registry.unregister id = none) (t : CardTable) :
    s.unregisterTable id t = (s, .ok (.removal false s.registry.entries.length)) := by
  simp only [unregisterTable, h]

theorem unregisterTable_advanced (s : Machine) (id : TableId) (t : CardTable) :
    Advanced s (s.unregisterTable id t).1 (.cards (.unregister id)) := by
  have hc : (CardCommand.unregister id).LeavesCards := by simp [CardCommand.LeavesCards]
  cases hremoved : s.registry.unregister id with
  | none =>
    rw [unregisterTable_eq_of_none hremoved]
    exact advanced_of_tables hc rfl rfl rfl
  | some registry =>
    obtain ⟨diagnostics, hunregister⟩ := unregisterTable_eq_of_some hremoved t
    rw [hunregister]
    exact advanced_of_tables hc rfl rfl (Registry.tables_unregister hremoved)

/-- A command that cleans the table, and does nothing else to tables. -/
theorem advanced_of_clear {c : CardCommand} {act : CardTable → Machine × Outcome Answer}
    (hact : ∀ t, ∃ diagnostics,
      (act t).1 = { s with registry := s.registry.update id t.clear, diagnostics })
    (hcleans : ∀ other, (Command.cards c).Cleans other ↔ other = id)
    (hmarks : ∀ id address bytes, c ≠ .dirtyRange id address bytes) :
    Advanced s (s.withTable id act).1 (.cards c) := by
  have hsilent : ∀ other card, ¬s.Marks other card (.cards c) := by
    simp [Marks, notifications, Registry.MarkedBy, hmarks]
  unfold withTable
  cases hget : s.registry.get? id with
  | none =>
    refine ⟨rfl, rfl, fun _ _ h => h, ?_⟩
    intro other card
    by_cases hother : other = id
    · subst hother
      simp [Registry.not_dirty_of_get?_none hget, hsilent]
    · simp [hcleans, hother, hsilent]
  | some t =>
    obtain ⟨diagnostics, hact⟩ := hact t
    dsimp only
    rw [hact]
    refine ⟨rfl, rfl, ?_, ?_⟩
    · intro other l hl
      rwa [Registry.layout?_congr (Registry.layouts_update (u := t.clear) hget rfl)]
    · intro other card
      by_cases hother : other = id
      · subst hother
        simp [Registry.dirty_update_self hget, CardTable.isDirtyCard_clear, hcleans, hsilent]
      · simp [Registry.dirty_update_of_ne hother, hcleans, hother, hsilent]

theorem not_cleans_dirtyRange {other : TableId} {address bytes : UInt64} :
    ¬(Command.cards (.dirtyRange id address bytes)).Cleans other := by
  simp [Command.Cleans]

/-- Marking a range of a table marks cards of that table only, and only where it is not refused. -/
theorem marks_dirtyRange_iff {other : TableId} {address bytes : UInt64} :
    s.Marks other card (.cards (.dirtyRange id address bytes)) ↔
      other = id ∧ (∃ fresh, (s.step (.cards (.dirtyRange id address bytes))).2 =
        .ok (.count fresh)) ∧ s.registry.Meets id card address.toNat bytes.toNat := by
  constructor
  · rintro (⟨_, n, hn, _⟩ | ⟨_, _, fresh, hcommand, hok, hmeets⟩)
    · exact absurd hn List.not_mem_nil
    · cases hcommand
      exact ⟨rfl, ⟨fresh, hok⟩, hmeets⟩
  · rintro ⟨rfl, ⟨fresh, hok⟩, hmeets⟩
    exact Or.inr ⟨_, _, fresh, rfl, hok, hmeets⟩

theorem step_dirtyRange_of_ok (hget : s.registry.get? id = some t) {address bytes : UInt64}
    {marked : CardTable} {fresh : Nat} (h : t.dirtyRange address bytes = .ok (marked, fresh)) :
    s.step (.cards (.dirtyRange id address bytes)) =
      (s.updateTable id marked, .ok (.count fresh)) := by
  simp only [step, CardCommand.perform, withTable, hget, h]

theorem step_dirtyRange_of_error (hget : s.registry.get? id = some t) {address bytes : UInt64}
    {failure : Failure} (h : t.dirtyRange address bytes = .error failure) :
    s.step (.cards (.dirtyRange id address bytes)) = (s, .error failure) := by
  simp only [step, CardCommand.perform, withTable, hget, h]

/-- Marking a range of a table is refused and changes nothing, or it marks the table. -/
theorem step_dirtyRange_cases (s : Machine) (id : TableId) (address bytes : UInt64) :
    (∃ failure, s.step (.cards (.dirtyRange id address bytes)) = (s, .error failure)) ∨
      ∃ t marked fresh, s.registry.get? id = some t ∧
        s.step (.cards (.dirtyRange id address bytes)) =
          (s.updateTable id marked, .ok (.count fresh)) ∧
        t.Marked marked address.toNat bytes.toNat fresh := by
  cases hget : s.registry.get? id with
  | none =>
    refine Or.inl ⟨.unknownTable id, ?_⟩
    simp only [step, CardCommand.perform, withTable, hget]
  | some t =>
    by_cases hcovers : t.layout.covers address bytes = true
    · obtain ⟨marked, fresh, hok, hmarked⟩ := CardTable.dirtyRange_of_covers hcovers
      exact Or.inr ⟨t, marked, fresh, rfl, step_dirtyRange_of_ok hget hok, hmarked⟩
    · exact Or.inl ⟨.error (.addressOutOfRange address bytes),
        step_dirtyRange_of_error hget (CardTable.dirtyRange_of_not_covers hcovers)⟩

theorem dirtyRange_advanced (s : Machine) (id : TableId) (address bytes : UInt64) :
    Advanced s (s.step (.cards (.dirtyRange id address bytes))).1
      (.cards (.dirtyRange id address bytes)) := by
  rcases s.step_dirtyRange_cases id address bytes with
    ⟨failure, hstep⟩ | ⟨t, marked, fresh, hget, hstep, hmarked⟩
  · rw [hstep]
    refine ⟨rfl, rfl, fun _ _ hl => hl, ?_⟩
    intro other card
    simp [marks_dirtyRange_iff, hstep, not_cleans_dirtyRange]
  · refine ⟨by rw [hstep]; rfl, by rw [hstep]; rfl, ?_, ?_⟩
    · intro other l hl
      rw [hstep]
      have hlayouts := Registry.layouts_update hget hmarked.layout_eq
      exact (Registry.layout?_congr hlayouts other).trans hl
    · intro other card
      rw [marks_dirtyRange_iff, hstep]
      by_cases hother : other = id
      · subst hother
        rw [updateTable, Registry.dirty_update_self hget, hmarked.isDirtyCard_iff,
          Registry.dirty_iff_of_get? hget, Registry.meets_iff_of_get? hget]
        simp [not_cleans_dirtyRange]
      · rw [updateTable, Registry.dirty_update_of_ne hother]
        simp [not_cleans_dirtyRange, hother]

theorem cards_advanced (s : Machine) (c : CardCommand) :
    Advanced s (c.perform s).1 (.cards c) := by
  cases c with
  | make base len shift =>
    exact keepTable_advanced (by simp [CardCommand.LeavesCards]) base len shift
  | makeWith base len config =>
    exact keepTable_withConfig_advanced (by simp [CardCommand.LeavesCards]) base len config
  | makeActive base len =>
    exact keepTable_advanced (by simp [CardCommand.LeavesCards]) base len s.config.cardShift
  | register id =>
    exact withTable_advanced (by simp [CardCommand.LeavesCards]) (s.registerTable_advanced id)
  | unregister id =>
    exact withTable_advanced (by simp [CardCommand.LeavesCards]) (s.unregisterTable_advanced id)
  | dirtyRange id address bytes => exact dirtyRange_advanced s id address bytes
  | drain id =>
    exact advanced_of_clear (s.fst_drainTable id) (by simp [Command.Cleans, eq_comm]) (by simp)
  | clear id =>
    exact advanced_of_clear (fun _ => ⟨s.diagnostics, rfl⟩) (by simp [Command.Cleans, eq_comm])
      (by simp)
  | covers | isDirty | dirtyCount | dirtyCards | debug =>
    refine withTable_advanced (by simp [CardCommand.LeavesCards]) ?_
    intro t
    exact advanced_of_tables (by simp [CardCommand.LeavesCards]) rfl rfl rfl

/-- A command that neither cleans nor marks leaves every card as it is. -/
theorem dirty_cards_iff {c : CardCommand} (hc : c.LeavesCards) :
    (s.step (.cards c)).1.registry.Dirty id card ↔ s.registry.Dirty id card := by
  obtain ⟨hdrain, hclear, hmark⟩ := hc id
  rw [step, (s.cards_advanced c).dirty_iff]
  simp [Marks, notifications, Registry.MarkedBy, Command.Cleans, hdrain, hclear, hmark]

/-- A command does to memory and cards what its notifications, and its own work on card tables, say
that it does, and nothing else. -/
theorem step_advanced (c : Command) (hfit : s.CardsFit) : Advanced s (s.step c).1 c := by
  cases c with
  | settings c => exact advanced_of_notified (by simp) (s.settings_agrees c).notified
  | cards c => exact s.cards_advanced c
  | storage c =>
    obtain ⟨s', habsorb, hnotified⟩ := absorb_notified (c.perform s.memory) hfit
    rw [step, habsorb]
    exact advanced_of_notified (by simp) hnotified
  | notify n =>
    obtain ⟨s', hnotify, hnotified⟩ := notify_notified n hfit
    rw [step, hnotify]
    exact advanced_of_notified (by simp) hnotified
  | deliver n =>
    obtain ⟨s', hdeliver, hnotified⟩ := deliver_notified n hfit
    rw [step, hdeliver]
    exact advanced_of_notified (by simp) hnotified

end Machine

end WriteBarrier
