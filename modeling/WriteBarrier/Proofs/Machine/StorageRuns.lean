import WriteBarrier.Proofs.Machine.History
import WriteBarrier.Proofs.Policy.Selection
import WriteBarrier.Proofs.Storage.TrackedReports
/-!
Runs of operations on memory.

Main statement: an operation on memory reports one range or none, after it has stored.  As memory
has no part in a notification, a run of operations comes to all of its stores, followed by what it
told in order.
-/

namespace WriteBarrier

/-! ### One report or none -/

namespace Effect

/-- The operation reports one range or none. -/
def ReportsOnce (e : Effect) : Prop :=
  e.notifications = [] ∨ ∃ n, e.notifications = [n]

variable {m : Memory}

theorem reportsOnce_silent (m : Memory) (answer : Answer) : (silent m answer).ReportsOnce :=
  Or.inl rfl

theorem reportsOnce_failed (m : Memory) (failure : Failure) : (failed m failure).ReportsOnce :=
  Or.inl rfl

theorem reportsOnce_singleton (n : Notification) (outcome : Outcome Answer) :
    ReportsOnce ⟨m, [n], outcome⟩ :=
  Or.inr ⟨n, rfl⟩

theorem reportsOnce_written (m : Memory) (report : Except Fault Notification) (answer : Answer) :
    (written m (report.map fun n => [n]) answer).ReportsOnce := by
  cases report with
  | error f => exact Or.inl rfl
  | ok n => exact Or.inr ⟨n, rfl⟩

theorem reportsOnce_tracked (manager : Manager) (m : Memory) (c : TrackedCommand) :
    (c.perform manager m).ReportsOnce := by
  rw [ReportsOnce, c.notifications_perform manager m]
  cases c.report? manager with
  | none => exact Or.inl rfl
  | some n => exact Or.inr ⟨n, rfl⟩

theorem reportsOnce_report (m : Memory) (target : BulkTarget) (address count : UInt64)
    (answer : Answer) : (written m (target.report address count) answer).ReportsOnce := by
  unfold BulkTarget.report
  cases target.manager? with
  | none => exact Or.inl rfl
  | some manager => exact reportsOnce_written ..

theorem reportsOnce_memory (m : Memory) (c : MemoryCommand) : (c.perform m).ReportsOnce := by
  have hcopy : ∀ target dest destCount source sourceCount,
      (Bulk.copyArray m target dest destCount source sourceCount).ReportsOnce := by
    intro target dest destCount source sourceCount
    unfold Bulk.copyArray
    split
    · exact reportsOnce_report ..
    · exact reportsOnce_failed ..
  unfold MemoryCommand.perform
  cases c with
  | poke | pokeWords | peek | words | move | zero => exact reportsOnce_silent ..
  | writeBarrier => exact reportsOnce_report ..
  | copyArray => exact hcopy ..
  | copySlice =>
    dsimp only
    split
    · exact hcopy ..
    · exact reportsOnce_failed ..

end Effect

theorem StorageCommand.perform_reportsOnce (m : Memory) (c : StorageCommand) :
    (c.perform m).ReportsOnce := by
  cases c with
  | tracked manager c => exact Effect.reportsOnce_tracked manager m c
  | plain c => exact Or.inl (c.notifications_perform m)
  | field allocator c =>
    cases c with
    | set slot pointer =>
      dsimp only [perform, FieldCommand.perform]
      split
      · exact Effect.reportsOnce_singleton ..
      · exact Effect.reportsOnce_silent ..
    | null | build | setUnbarriered | read => exact Effect.reportsOnce_silent ..
  | memory c => exact Effect.reportsOnce_memory m c
  | construct object c =>
    cases c with
    | value | unbarriered => exact Effect.reportsOnce_silent ..
    | barriered => exact Effect.reportsOnce_singleton ..
  | finish object => exact Effect.reportsOnce_singleton ..

/-- The memory after operations. -/
def StorageCommand.storeAll (m : Memory) (cs : List StorageCommand) : Memory :=
  cs.foldl (fun m c => (c.perform m).memory) m

/-- The manager is one that the user declares. -/
def Manager.isDeclared : Manager → Bool
  | declared _ => true
  | discard | cardTable => false

namespace Machine

variable {s : Machine}

/-! ### Notifications and memory -/

/-- Memory has no part in a notification. -/
theorem deliver_withMemory (s : Machine) (m : Memory) (n : Notification) :
    { s with memory := m }.deliver n =
      ({ (s.deliver n).1 with memory := m }, (s.deliver n).2) := by
  obtain ⟨manager, address, bytes⟩ := n
  cases manager with
  | discard | declared => rfl
  | cardTable =>
    simp only [deliver]
    rcases s.registry.record address bytes with ⟨registry, f | recorded⟩
    · rfl
    · rfl

theorem deliver_frame (s : Machine) (n : Notification) :
    (s.deliver n).1.build = s.build ∧ (s.deliver n).1.memory = s.memory := by
  obtain ⟨manager, address, bytes⟩ := n
  cases manager with
  | discard | declared => exact ⟨rfl, rfl⟩
  | cardTable =>
    simp only [deliver]
    rcases s.registry.record address bytes with ⟨registry, f | recorded⟩
    · exact ⟨rfl, rfl⟩
    · exact ⟨rfl, rfl⟩

theorem run_deliver_cons (s : Machine) (n : Notification) (rest : List Notification) :
    (s.run ((n :: rest).map .deliver)).1 = ((s.deliver n).1.run (rest.map .deliver)).1 := by
  rw [List.map_cons, run_cons, step, fst_notified]

theorem run_deliver_withMemory (s : Machine) (m : Memory) (ns : List Notification) :
    ({ s with memory := m }.run (ns.map .deliver)).1 =
      { (s.run (ns.map .deliver)).1 with memory := m } := by
  induction ns generalizing s with
  | nil => rfl
  | cons n rest ih =>
    rw [run_deliver_cons, run_deliver_cons, deliver_withMemory]
    exact ih (s.deliver n).1

/-- Notifications change neither the build nor memory. -/
theorem run_deliver_frame (s : Machine) (ns : List Notification) :
    (s.run (ns.map .deliver)).1.build = s.build ∧
      (s.run (ns.map .deliver)).1.memory = s.memory := by
  induction ns generalizing s with
  | nil => exact ⟨rfl, rfl⟩
  | cons n rest ih =>
    obtain ⟨hbuild, hmemory⟩ := s.deliver_frame n
    rw [run_deliver_cons, (ih _).1, (ih _).2]
    exact ⟨hbuild, hmemory⟩

theorem calls_deliver (s : Machine) (n : Notification) :
    (s.deliver n).1.calls = s.calls ++ [n].filter (·.manager.isDeclared) := by
  obtain ⟨manager, address, bytes⟩ := n
  cases manager with
  | discard => exact (List.append_nil _).symm
  | declared name => rfl
  | cardTable =>
    simp only [deliver]
    rcases s.registry.record address bytes with ⟨registry, f | recorded⟩
    · exact (List.append_nil _).symm
    · exact (List.append_nil _).symm

/-- Declared managers are told of their notifications in order, and of no others. -/
theorem calls_run_deliver (s : Machine) (ns : List Notification) :
    (s.run (ns.map .deliver)).1.calls = s.calls ++ ns.filter (·.manager.isDeclared) := by
  induction ns generalizing s with
  | nil => exact (List.append_nil _).symm
  | cons n rest ih =>
    rw [run_deliver_cons, ih, calls_deliver, List.append_assoc, ← List.filter_append,
      List.singleton_append]

/-! ### One operation -/

/-- One notification, or none, is handed on in a build that notifies. -/
theorem fst_notifyAll (s : Machine) {ns : List Notification} (h : ns = [] ∨ ∃ n, ns = [n]) :
    (s.notifyAll ns).1 = (s.run ((s.heard ns).map .deliver)).1 := by
  by_cases hnotifies : s.build.notifies = true
  · rw [heard, if_pos hnotifies]
    rcases h with rfl | ⟨n, rfl⟩
    · rfl
    · rw [run_deliver_cons, notifyAll, notify, if_pos hnotifies]
      rcases s.deliver n with ⟨s₁, f | _⟩
      · rfl
      · rfl
  · rw [heard, if_neg hnotifies]
    rcases h with rfl | ⟨n, rfl⟩
    · rfl
    · rw [notifyAll, notify, if_neg hnotifies]
      rfl

/-- An operation stores, and hands its report on. -/
theorem step_storage (s : Machine) (c : StorageCommand) :
    (s.step (.storage c)).1 = ({ s with memory := (c.perform s.memory).memory }.run
      ((s.notifications (.storage c)).map .deliver)).1 := by
  rw [step, fst_absorb]
  exact fst_notifyAll _ (c.perform_reportsOnce s.memory)

theorem step_storage_frame (s : Machine) (c : StorageCommand) :
    (s.step (.storage c)).1.build = s.build ∧
      (s.step (.storage c)).1.memory = (c.perform s.memory).memory := by
  rw [step_storage]
  exact run_deliver_frame { s with memory := (c.perform s.memory).memory } _

/-! ### Runs -/

/-- The induction is on the run; as memory has no part in a notification, all stores can be made
first. -/
theorem run_storage_eq (s : Machine) (cs : List StorageCommand) :
    (s.run (cs.map .storage)).1 = ({ s with memory := StorageCommand.storeAll s.memory cs }.run
      ((s.told (cs.map .storage)).map .deliver)).1 := by
  induction cs generalizing s with
  | nil => rfl
  | cons c rest ih =>
    calc (s.run ((c :: rest).map .storage)).1
        = ((s.step (.storage c)).1.run (rest.map .storage)).1 := rfl
      _ = ({ (s.step (.storage c)).1 with
              memory := StorageCommand.storeAll (c.perform s.memory).memory rest }.run
            (((s.step (.storage c)).1.told (rest.map .storage)).map .deliver)).1 := by
          rw [ih, (s.step_storage_frame c).2]
      _ = (({ s with memory := StorageCommand.storeAll (c.perform s.memory).memory rest }.run
              ((s.notifications (.storage c)).map .deliver)).1.run
            (((s.step (.storage c)).1.told (rest.map .storage)).map .deliver)).1 := by
          rw [step_storage, ← run_deliver_withMemory]
      _ = _ := by
          rw [← run_append, ← List.map_append]
          rfl

theorem run_storage_frame (s : Machine) (cs : List StorageCommand) :
    (s.run (cs.map .storage)).1.build = s.build ∧
      (s.run (cs.map .storage)).1.memory = StorageCommand.storeAll s.memory cs := by
  rw [run_storage_eq]
  exact run_deliver_frame { s with memory := StorageCommand.storeAll s.memory cs } _

end Machine

end WriteBarrier
