import WriteBarrier.Proofs.Machine.StorageRuns
/-!
Objects under construction.

Main statement: while an object is built, managers are told of the barriered stores and of nothing
else; the end of the construction tells of the whole object once.  So every card with a byte of the
object is dirty then, whatever was stored unbarriered and whatever was drained before.
-/

namespace WriteBarrier

namespace Command

/-- What may happen while an object is built: stores into it, through its guard or into its pointer
fields themselves, which may have managers of their own, and anything that a collector does to card
tables. -/
inductive Constructs (object : Construction) : Command → Prop where
  | store (c : GuardedStore) : Constructs object (.storage (.construct object c))
  | set (manager : Manager) (slot pointer : UInt64) :
      Constructs object (.storage (.tracked manager (.set slot pointer)))
  | setUnbarriered (manager : Manager) (slot pointer : UInt64) :
      Constructs object (.storage (.tracked manager (.setUnbarriered slot pointer)))
  | plain (c : PlainCommand) : Constructs object (.storage (.plain c))
  | cards (c : CardCommand) : Constructs object (.cards c)
  | settings (c : SettingsCommand) : Constructs object (.settings c)

/-- The report of a barriered store into a field. -/
def setReport? : Command → Option Notification
  | .storage (.construct object (.barriered slot _)) => some ⟨object.manager, slot, pointerSize⟩
  | .storage (.tracked manager (.set slot _)) => some ⟨manager, slot, pointerSize⟩
  | _ => none

end Command

namespace Machine

variable {s : Machine} {object : Construction} {c : Command} {cs : List Command} {id : TableId}
  {card : Nat}

theorem build_step (s : Machine) (c : Command) : (s.step c).1.build = s.build := by
  cases c with
  | settings c => exact (s.settings_agrees c).build_eq
  | cards c => exact (s.cards_advanced c).build_eq
  | storage c => exact (s.step_storage_frame c).1
  | notify n =>
    rw [step, fst_notified, notify]
    split
    · exact (s.deliver_frame n).1
    · rfl
  | deliver n =>
    rw [step, fst_notified]
    exact (s.deliver_frame n).1

theorem build_run (s : Machine) (cs : List Command) : (s.run cs).1.build = s.build := by
  induction cs generalizing s with
  | nil => rfl
  | cons c rest ih => rw [run_cons, ih, build_step]

/-! ### During the construction -/

theorem notifications_of_constructs (hnotifies : s.build = .notifying) (hc : c.Constructs object) :
    s.notifications c = c.setReport?.toList := by
  cases hc with
  | cards | settings => rfl
  | store c =>
    rw [notifications, heard_of_notifying hnotifies]
    cases c <;> rfl
  | set | setUnbarriered =>
    rw [notifications, heard_of_notifying hnotifies]
    rfl
  | plain c =>
    rw [notifications, heard_of_notifying hnotifies, StorageCommand.perform,
      PlainCommand.notifications_perform]
    rfl

/-- The induction is on the commands; none of them changes the build. -/
theorem told_of_constructs (hnotifies : s.build = .notifying)
    (hcs : ∀ c ∈ cs, c.Constructs object) : s.told cs = cs.filterMap Command.setReport? := by
  induction cs generalizing s with
  | nil => rfl
  | cons c rest ih =>
    rw [List.forall_mem_cons] at hcs
    rw [told, notifications_of_constructs hnotifies hcs.1,
      ih ((s.build_step c).trans hnotifies) hcs.2]
    cases hreport : c.setReport? <;> simp [hreport]

/-! ### Its end -/

/-- The end of a construction is its report and nothing else. -/
theorem step_finish (hnotifies : s.build = .notifying) (object : Construction) :
    s.step (.storage (.finish object)) =
      notified (s.deliver ⟨object.manager, object.address, object.size⟩) :=
  absorb_report hnotifies s.memory _

theorem notifications_finish (hnotifies : s.build = .notifying) (object : Construction) :
    s.notifications (.storage (.finish object)) =
      [⟨object.manager, object.address, object.size⟩] :=
  heard_of_notifying hnotifies _

/-- The end of a construction that the card tables are told of leaves no card of it clean. -/
theorem dirty_of_finish (hnotifies : s.build = .notifying) (hmanager : object.manager = .cardTable)
    (hfit : s.CardsFit) (hregistered : id ∈ s.registry.entries)
    (hmeets : s.registry.Meets id card object.address.toNat object.size.toNat) :
    (s.step (.storage (.finish object))).1.registry.Dirty id card := by
  obtain ⟨s', hdeliver, hnotified⟩ :=
    deliver_notified ⟨object.manager, object.address, object.size⟩ hfit
  rw [step_finish hnotifies, hdeliver, fst_notified, hnotified.dirty_iff]
  exact Or.inr (Registry.markedBy_singleton_iff.mpr ⟨hregistered, hmanager, hmeets⟩)

/-- An object is published completely.  In a build that notifies, the barriered stores of its
construction are told of in order, and the end of the construction adds one notification, to the
object's manager, of the whole object, which may have no bytes; it leaves memory alone.  If the card
tables are that manager, then all cards of registered tables with a byte of the object are dirty in
the end, and so are those of every slot in the object, however it was stored and whatever was drained
since. -/
theorem run_construction (hnotifies : s.build = .notifying) (object : Construction)
    (hcs : ∀ c ∈ cs, c.Constructs object) :
    s.told cs = cs.filterMap Command.setReport? ∧
      s.told (cs ++ [.storage (.finish object)]) = cs.filterMap Command.setReport? ++
        [⟨object.manager, object.address, object.size⟩] ∧
      (s.run cs).1.step (.storage (.finish object)) =
        notified ((s.run cs).1.deliver ⟨object.manager, object.address, object.size⟩) ∧
      (s.run (cs ++ [.storage (.finish object)])).1.memory = (s.run cs).1.memory ∧
      (object.manager = .cardTable → (s.run cs).1.CardsFit →
        ((s.run cs).1.step (.storage (.finish object))).2 = .ok .nothing ∧
        ∀ id ∈ (s.run cs).1.registry.entries,
          (∀ card, (s.run cs).1.registry.Meets id card object.address.toNat object.size.toNat →
            (s.run (cs ++ [.storage (.finish object)])).1.registry.Dirty id card) ∧
          ∀ slot, object.address.toNat ≤ slot →
            slot + 8 ≤ object.address.toNat + object.size.toNat →
            ∀ card, (s.run cs).1.registry.Meets id card slot 8 →
              (s.run (cs ++ [.storage (.finish object)])).1.registry.Dirty id card) := by
  have htold := told_of_constructs hnotifies hcs
  have hbuild : (s.run cs).1.build = .notifying := (s.build_run cs).trans hnotifies
  have hfinish := step_finish hbuild object
  refine ⟨htold, ?_, hfinish, ?_, ?_⟩
  · rw [told_append, htold, told, told, List.append_nil, notifications_finish hbuild]
  · rw [run_concat, hfinish, fst_notified]
    exact ((s.run cs).1.deliver_frame _).2
  · intro hmanager hfit
    refine ⟨?_, ?_⟩
    · obtain ⟨s', hdeliver, _⟩ :=
        deliver_notified ⟨object.manager, object.address, object.size⟩ hfit
      rw [hfinish, hdeliver]
      rfl
    · intro id hregistered
      have hobject : ∀ card,
          (s.run cs).1.registry.Meets id card object.address.toNat object.size.toNat →
          (s.run (cs ++ [.storage (.finish object)])).1.registry.Dirty id card := by
        intro card hmeets
        rw [run_concat]
        exact dirty_of_finish hbuild hmanager hfit hregistered hmeets
      refine ⟨hobject, ?_⟩
      rintro slot hlo hhi card ⟨l, hlayout, hmeets⟩
      exact hobject card ⟨l, hlayout, hmeets.mono hlo hhi⟩

namespace Overlap

/-- An object that starts before the second table and ends inside it. -/
def straddling : Construction :=
  ⟨.cardTable, 0x1018, 0x20⟩

/-- Stores of all kinds into the object, with both tables drained in between. -/
def building : List Command :=
  [.storage (.construct straddling (.value 0x1018 5)),
    .storage (.construct straddling (.barriered 0x1020 7)), .cards (.drain 0),
    .storage (.construct straddling (.unbarriered 0x1030 9)),
    .storage (.tracked recorder (.set 0x1028 3)), .cards (.drain 1)]

end Overlap

/-- A slot that was stored unbarriered lies in clean cards until the construction ends. -/
theorem run_overlap_building :
    Overlap.machine.build = .notifying ∧ (∀ c ∈ Overlap.building, c.Constructs Overlap.straddling) ∧
      (Overlap.machine.run Overlap.building).1.CardsFit ∧
      Overlap.machine.told (Overlap.building ++ [.storage (.finish Overlap.straddling)]) =
        [⟨.cardTable, 0x1020, 8⟩, ⟨Overlap.recorder, 0x1028, 8⟩, ⟨.cardTable, 0x1018, 0x20⟩] ∧
      ¬(Overlap.machine.run Overlap.building).1.registry.Dirty 0 3 ∧
      (Overlap.machine.run (Overlap.building ++
        [.storage (.finish Overlap.straddling)])).1.registry.Dirty 0 3 := by
  have hnotifies : Overlap.machine.build = .notifying := rfl
  have hcs : ∀ c ∈ Overlap.building, c.Constructs Overlap.straddling := by
    simp only [Overlap.building, List.forall_mem_cons]
    exact ⟨.store _, .store _, .cards _, .store _, .set _ _ _, .cards _, by simp⟩
  have hfit : (Overlap.machine.run Overlap.building).1.CardsFit := by decide +kernel
  obtain ⟨_, htold, _, _, hpublished⟩ := run_construction hnotifies Overlap.straddling hcs
  obtain ⟨_, hdirty⟩ := hpublished rfl hfit
  refine ⟨hnotifies, hcs, hfit, htold, by decide +kernel, ?_⟩
  -- the last byte of the slot lies in the last card of the first table
  have hmeets : (Overlap.machine.run Overlap.building).1.registry.Meets 0 3 0x1030 8 :=
    ⟨Overlap.low, by decide +kernel, 0x1037, by decide, by decide, by decide, by decide⟩
  exact (hdirty 0 (by decide +kernel)).2 0x1030 (by decide) (by decide) 3 hmeets

end Machine

end WriteBarrier
