import WriteBarrier.Proofs.Machine.StorageRuns
import WriteBarrier.Proofs.Policy.Selection
/-!
Code that works on pointer fields through their common interface.

Main statement: the same operations do the same to memory and read the same pointers whichever
allocators' fields they work on; and all else that they do is to hand one notification of the slot
to the allocator's manager for each `set`, in order, where the allocator selects tracked storage.
-/

namespace WriteBarrier

namespace FieldCommand

/-- The memory after an operation on a field. -/
def store (m : Memory) : FieldCommand → Memory
  | null slot => m.setWord slot.toNat 0
  | build slot pointer | set slot pointer | setUnbarriered slot pointer =>
      m.setWord slot.toNat pointer
  | read _ => m

/-- The pointer that the field holds after an operation on it. -/
def held (m : Memory) : FieldCommand → UInt64
  | null _ => 0
  | build _ pointer | set _ pointer | setUnbarriered _ pointer => pointer
  | read slot => m.word slot.toNat

/-- The slot that an operation reports if its storage is tracked. -/
def reportedSlot? : FieldCommand → Option UInt64
  | set slot _ => some slot
  | null _ | build .. | setUnbarriered .. | read _ => none

/-- The pointers that operations leave in their fields, in order. -/
def allHeld (m : Memory) : List FieldCommand → List UInt64
  | [] => []
  | c :: rest => c.held m :: allHeld (c.store m) rest

end FieldCommand

namespace Allocator

variable {a : Allocator} {c : FieldCommand} {cs : List FieldCommand}

/-- The notifications of operations on an allocator's fields: one of the slot for each `set`, if the
fields are tracked. -/
def fieldReports (a : Allocator) (cs : List FieldCommand) : List Notification :=
  match a.pointerStorage pointedWord with
  | .tracked _ => (cs.filterMap FieldCommand.reportedSlot?).map (⟨a.manager, ·, pointerSize⟩)
  | .plain => []

/-- Fields are tracked for the allocator's own manager. -/
theorem pointerStorage_eq (a : Allocator) (target : Element) :
    a.pointerStorage target = .tracked a.manager ∨ a.pointerStorage target = .plain := by
  unfold pointerStorage
  cases a.elementPolicy (.pointer target) with
  | barriered => exact Or.inl rfl
  | unbarriered => exact Or.inr rfl

theorem fieldReports_nil (a : Allocator) : a.fieldReports [] = [] := by
  unfold fieldReports
  cases a.pointerStorage pointedWord <;> rfl

theorem fieldReports_cons (a : Allocator) (c : FieldCommand) (rest : List FieldCommand) :
    a.fieldReports (c :: rest) = a.fieldReports [c] ++ a.fieldReports rest := by
  unfold fieldReports
  cases a.pointerStorage pointedWord with
  | plain => rfl
  | tracked => cases c <;> rfl

/-- An operation on a field, whatever its storage: the storage decides about the report alone. -/
theorem perform_field (a : Allocator) (c : FieldCommand) (m : Memory) :
    (StorageCommand.field a c).perform m =
      ⟨c.store m, a.fieldReports [c],
        .ok (.fieldPointer (c.held m) (a.pointerStorage pointedWord).isTracked)⟩ := by
  rw [StorageCommand.perform, fieldReports]
  rcases a.pointerStorage_eq pointedWord with hstorage | hstorage
  · rw [hstorage]
    cases c <;> rfl
  · rw [hstorage]
    cases c <;> rfl

end Allocator

namespace Machine

variable {s s' : Machine} {a b : Allocator} {c : FieldCommand} {cs : List FieldCommand}

/-- The operations, carried out on an allocator's fields. -/
def onFields (a : Allocator) (cs : List FieldCommand) : List Command :=
  cs.map fun c => .storage (.field a c)

/-! ### One operation -/

theorem step_field_frame (s : Machine) (a : Allocator) (c : FieldCommand) :
    (s.step (.storage (.field a c))).1.build = s.build ∧
      (s.step (.storage (.field a c))).1.memory = c.store s.memory := by
  have hframe := s.step_storage_frame (.field a c)
  rwa [a.perform_field] at hframe

theorem heard_step_field (s : Machine) (a : Allocator) (c : FieldCommand)
    (ns : List Notification) : (s.step (.storage (.field a c))).1.heard ns = s.heard ns := by
  rw [heard, heard, (s.step_field_frame a c).1]

/-- Reading a field reports nothing, so it never fails. -/
theorem step_read (s : Machine) (a : Allocator) (slot : UInt64) :
    s.step (.storage (.field a (.read slot))) =
      (s, .ok (.fieldPointer (s.memory.word slot.toNat)
        (a.pointerStorage pointedWord).isTracked)) := by
  have hreports : a.fieldReports [.read slot] = [] := by
    unfold Allocator.fieldReports
    cases a.pointerStorage pointedWord <;> rfl
  rw [step, a.perform_field, hreports]
  rfl

/-! ### Runs -/

/-- Each `set` of a tracked field reports its slot in a build that notifies, and nothing else does. -/
theorem told_fields (s : Machine) (a : Allocator) (cs : List FieldCommand) :
    s.told (onFields a cs) = s.heard (a.fieldReports cs) := by
  induction cs generalizing s with
  | nil => rw [a.fieldReports_nil, heard_nil, onFields, List.map_nil, told]
  | cons c rest ih =>
    rw [a.fieldReports_cons c rest, heard_append, ← s.heard_step_field a c (a.fieldReports rest),
      ← ih, onFields, List.map_cons, told, notifications, a.perform_field]
    rfl

theorem storeAll_fields (m : Memory) (a : Allocator) (cs : List FieldCommand) :
    StorageCommand.storeAll m (cs.map (.field a)) = cs.foldl FieldCommand.store m := by
  rw [StorageCommand.storeAll, List.foldl_map]
  simp only [a.perform_field]

/-- Operations on fields store, and hand their reports on one after the other. -/
theorem run_fields_eq (s : Machine) (a : Allocator) (cs : List FieldCommand) :
    (s.run (onFields a cs)).1 =
      ({ s with memory := cs.foldl FieldCommand.store s.memory }.run
        ((s.heard (a.fieldReports cs)).map .deliver)).1 := by
  have hcommands : onFields a cs = (cs.map (.field a)).map .storage := by
    rw [onFields, List.map_map]
    rfl
  rw [← told_fields, hcommands, run_storage_eq, storeAll_fields]

theorem memory_run_fields (s : Machine) (a : Allocator) (cs : List FieldCommand) :
    (s.run (onFields a cs)).1.memory = cs.foldl FieldCommand.store s.memory := by
  rw [run_fields_eq]
  exact (run_deliver_frame { s with memory := cs.foldl FieldCommand.store s.memory } _).2

/-- No operation on a field fails, and each answers the pointer that the field then holds. -/
theorem run_fields_answers (a : Allocator) (cs : List FieldCommand) (hfit : s.CardsFit) :
    (s.run (onFields a cs)).2 =
      (FieldCommand.allHeld s.memory cs).map fun pointer =>
        .ok (.fieldPointer pointer (a.pointerStorage pointedWord).isTracked) := by
  induction cs generalizing s with
  | nil => rfl
  | cons c rest ih =>
    obtain ⟨s₁, habsorb, hnotified⟩ :=
      absorb_notified ((StorageCommand.field a c).perform s.memory) hfit
    have hrest := ih (hnotified.cardsFit hfit)
    have hmemory : s₁.memory = c.store s.memory := by
      rw [hnotified.memory_eq, a.perform_field]
    rw [a.perform_field] at habsorb
    rw [hmemory] at hrest
    simp only [onFields, List.map_cons, run, step, a.perform_field, habsorb,
      FieldCommand.allHeld] at hrest ⊢
    rw [hrest]

/-- Field code is independent of the storage that its allocator selects.  The same operations on the
fields of any two allocators, from states with the same memory, leave the same memory after each of
them, so that every field then reads the same, tracked or not.  The allocator's manager is told of
the slot of each `set`, in order, and of nothing else, and of nothing at all where the allocator's
fields are plain or the build is silent; and this is all that a run does to the rest of the state.
Where the registered tables have fewer cards than a word can count, no operation fails and all of
them answer the same pointers. -/
theorem run_fields_agree (a b : Allocator) (cs : List FieldCommand)
    (hmemory : s'.memory = s.memory) :
    (∀ n, (s'.run (onFields b (cs.take n))).1.memory = (s.run (onFields a (cs.take n))).1.memory ∧
      (∀ slot, ∃ pointer,
        ((s.run (onFields a (cs.take n))).1.step (.storage (.field a (.read slot)))).2 =
          .ok (.fieldPointer pointer (a.pointerStorage pointedWord).isTracked) ∧
        ((s'.run (onFields b (cs.take n))).1.step (.storage (.field b (.read slot)))).2 =
          .ok (.fieldPointer pointer (b.pointerStorage pointedWord).isTracked)) ∧
      s.told (onFields a (cs.take n)) = s.heard (a.fieldReports (cs.take n)) ∧
      (s.run (onFields a (cs.take n))).1 =
        ({ s with memory := (s.run (onFields a (cs.take n))).1.memory }.run
          ((s.heard (a.fieldReports (cs.take n))).map .deliver)).1) ∧
    (s.CardsFit → s'.CardsFit → ∃ pointers : List UInt64,
      (s.run (onFields a cs)).2 = pointers.map (fun pointer =>
        .ok (.fieldPointer pointer (a.pointerStorage pointedWord).isTracked)) ∧
      (s'.run (onFields b cs)).2 = pointers.map fun pointer =>
        .ok (.fieldPointer pointer (b.pointerStorage pointedWord).isTracked)) := by
  constructor
  · intro n
    have hsame : (s'.run (onFields b (cs.take n))).1.memory =
        (s.run (onFields a (cs.take n))).1.memory := by
      rw [memory_run_fields, memory_run_fields, hmemory]
    refine ⟨hsame, ?_, s.told_fields a (cs.take n), ?_⟩
    · intro slot
      refine ⟨(s.run (onFields a (cs.take n))).1.memory.word slot.toNat, ?_, ?_⟩
      · rw [step_read]
      · rw [step_read, hsame]
    · rw [memory_run_fields]
      exact s.run_fields_eq a (cs.take n)
  · intro hfit hfit'
    refine ⟨FieldCommand.allHeld s.memory cs, run_fields_answers a cs hfit, ?_⟩
    rw [run_fields_answers b cs hfit', hmemory]

namespace Overlap

/-- Code that links, clears and reads fields in three slots, in two ways of storing. -/
def linking : List FieldCommand :=
  [.null 0x1000, .set 0x1000 7, .setUnbarriered 0x1008 9, .build 0x1010 5, .set 0x1008 0,
    .read 0x1000]

end Overlap

/-- On tracked fields of traced objects, and on fields outside the collector's memory in a state
that has no tables. -/
theorem run_overlap_linking :
    Overlap.fresh.memory = Overlap.machine.memory ∧
      Overlap.machine.CardsFit ∧ Overlap.fresh.CardsFit ∧
      (Overlap.fresh.run (onFields (.ofTag .heap) Overlap.linking)).1.memory =
        (Overlap.machine.run (onFields Allocator.recorded Overlap.linking)).1.memory ∧
      (Overlap.machine.run (onFields Allocator.recorded Overlap.linking)).1.calls =
        [⟨Overlap.recorder, 0x1000, 8⟩, ⟨Overlap.recorder, 0x1008, 8⟩] ∧
      ∃ pointers : List UInt64,
        (Overlap.machine.run (onFields Allocator.recorded Overlap.linking)).2 =
          pointers.map (fun pointer => .ok (.fieldPointer pointer true)) ∧
        (Overlap.fresh.run (onFields (.ofTag .heap) Overlap.linking)).2 =
          pointers.map fun pointer => .ok (.fieldPointer pointer false) := by
  have hmemory : Overlap.fresh.memory = Overlap.machine.memory := rfl
  have hfit : Overlap.machine.CardsFit := by decide +kernel
  have hfit_fresh : Overlap.fresh.CardsFit := by decide +kernel
  obtain ⟨hstates, hanswers⟩ :=
    run_fields_agree Allocator.recorded (.ofTag .heap) Overlap.linking hmemory
  obtain ⟨hsame, _, _, hreports⟩ := hstates 6
  have hend : (Overlap.machine.run (onFields Allocator.recorded Overlap.linking)).1 = _ := hreports
  refine ⟨hmemory, hfit, hfit_fresh, hsame, ?_, hanswers hfit hfit_fresh⟩
  rw [hend]
  decide +kernel

end Machine

end WriteBarrier
