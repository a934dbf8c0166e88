import WriteBarrier.Machine.Run
/-!
Operations on memory with their managers forgotten.

Main statement: forgetting every manager that an operation names, in element types, allocators and
sources alike, changes the managers that it tells and nothing else.  So two operations that name
different managers, and are otherwise the same, leave the same memory and come to the same outcome.
-/

namespace WriteBarrier

/-! ### Types and allocators -/

namespace Element

/-- The type with every manager in it forgotten. -/
def erased : Element → Element
  | scalar s => scalar s
  | declared name size => declared name size
  | pointer target => pointer target.erased
  | readPointer target => readPointer target.erased
  | tracked target _ => tracked target.erased .discard
  | plainPointer target => plainPointer target.erased
  | plainField value => plainField value.erased
  | barrierTag => barrierTag

@[simp]
theorem size_erased (e : Element) : e.erased.size = e.size := by
  induction e with
  | plainField value ih => exact ih
  | scalar | declared | pointer | readPointer | tracked | plainPointer | barrierTag => rfl

@[simp]
theorem shape_erased (e : Element) : e.erased.shape = e.shape := by
  cases e <;> rfl

@[simp]
theorem nonLeafPolicy_erased (e : Element) : e.erased.nonLeafPolicy = e.nonLeafPolicy := by
  cases e <;> rfl

end Element

/-- The tag with its manager forgotten. -/
def AllocatorTag.erased : AllocatorTag → AllocatorTag
  | heap => heap
  | managed _ => managed .discard
  | nonLeaf _ => nonLeaf .discard
  | leaf _ => leaf .discard

namespace Allocator

/-- The allocator with its manager forgotten. -/
def erased : Allocator → Allocator
  | ofTag tag => ofTag tag.erased
  | declared name tag => declared name tag.erased

theorem tag_erased (a : Allocator) : a.erased.tag = a.tag.erased := by
  cases a <;> rfl

@[simp]
theorem manager_erased (a : Allocator) : a.erased.manager = .discard := by
  unfold manager
  rw [tag_erased]
  cases a.tag <;> rfl

/-- No policy asks for a manager. -/
@[simp]
theorem elementPolicy_erased (a : Allocator) (e : Element) :
    a.erased.elementPolicy e.erased = a.elementPolicy e := by
  unfold elementPolicy
  rw [tag_erased]
  cases a.tag <;> simp [AllocatorTag.erased, AllocatorTag.elementPolicy, AllocatorTag.policy]

@[simp]
theorem requiresBarrierFor_erased (a : Allocator) (e : Element) :
    a.erased.requiresBarrierFor e.erased = a.requiresBarrierFor e := by
  simp only [requiresBarrierFor, elementPolicy_erased]

end Allocator

/-- The storage with its manager forgotten. -/
def PointerStorage.erased : PointerStorage → PointerStorage
  | tracked _ => tracked .discard
  | plain => plain

theorem Allocator.pointerStorage_erased (a : Allocator) (target : Element) :
    a.erased.pointerStorage target.erased = (a.pointerStorage target).erased := by
  have hpolicy := a.elementPolicy_erased (.pointer target)
  simp only [Element.erased] at hpolicy
  unfold pointerStorage
  rw [hpolicy]
  cases a.elementPolicy (.pointer target) with
  | barriered => simp only [manager_erased, PointerStorage.erased]
  | unbarriered => rfl

/-! ### Notifications and effects -/

/-- The notification with its manager forgotten. -/
def Notification.erased (n : Notification) : Notification :=
  { n with manager := .discard }

theorem Notification.ofArray_erased (manager : Manager) (address size count : UInt64) :
    ofArray .discard address size count = (ofArray manager address size count).map erased := by
  unfold ofArray
  cases checkedMul size count <;> rfl

namespace Effect

/-- The effect with the managers that it tells forgotten. -/
def erased (e : Effect) : Effect :=
  { e with notifications := e.notifications.map .erased }

@[simp]
theorem erased_silent (m : Memory) (answer : Answer) : (silent m answer).erased = silent m answer :=
  rfl

@[simp]
theorem erased_failed (m : Memory) (failure : Failure) :
    (failed m failure).erased = failed m failure :=
  rfl

theorem erased_written (m : Memory) (report : Except Fault (List Notification)) (answer : Answer) :
    (written m report answer).erased =
      written m (report.map (List.map .erased)) answer := by
  cases report <;> rfl

end Effect

/-! ### Operations on tracked pointers -/

namespace Tracked

variable (manager : Manager) (m : Memory)

@[simp]
theorem set_erased (slot pointer : UInt64) (answer : Answer) :
    (set manager m slot pointer answer).erased = set .discard m slot pointer answer := by
  simp only [set, Effect.erased, List.map_cons, List.map_nil, Notification.erased]

@[simp]
theorem writtenArray_erased (dest count : UInt64) :
    (writtenArray manager m dest count).erased = writtenArray .discard m dest count := by
  unfold writtenArray
  rw [Effect.erased_written, Notification.ofArray_erased manager]
  cases Notification.ofArray manager dest pointerSize count <;> rfl

@[simp]
theorem moveArray_erased (dest source count : UInt64) :
    (moveArray manager m dest source count).erased = moveArray .discard m dest source count :=
  writtenArray_erased ..

@[simp]
theorem copyArrayFromRaw_erased (dest destCount : UInt64) (source : List UInt64) :
    (copyArrayFromRaw manager m dest destCount source).erased =
      copyArrayFromRaw .discard m dest destCount source := by
  unfold copyArrayFromRaw
  split
  · exact writtenArray_erased ..
  · exact Effect.erased_failed ..

@[simp]
theorem copyArray_erased (dest destCount source sourceCount : UInt64) :
    (copyArray manager m dest destCount source sourceCount).erased =
      copyArray .discard m dest destCount source sourceCount := by
  unfold copyArray
  split
  · exact writtenArray_erased ..
  · exact Effect.erased_failed ..

@[simp]
theorem moveWithin_erased (slice length start stop dest : UInt64) :
    (moveWithin manager m slice length start stop dest).erased =
      moveWithin .discard m slice length start stop dest := by
  unfold moveWithin
  cases moveCount length start stop dest with
  | ok count => exact moveArray_erased ..
  | error failure => exact Effect.erased_failed ..

end Tracked

/-- The operation with the manager of its source forgotten. -/
def TrackedCommand.erased : TrackedCommand → TrackedCommand
  | assign slot source _ => assign slot source .discard
  | c => c

theorem TrackedCommand.perform_erased (manager : Manager) (m : Memory) (c : TrackedCommand) :
    c.erased.perform .discard m = (c.perform manager m).erased := by
  cases c with
  | null | build | set | setUnbarriered | replace | assign | read | target | equals | equalsRaw
  | moveWithin | clearSlice | moveArray | copyArrayFromRaw | copyArray | clearArray =>
    simp [erased, perform, Tracked.clearArray]
  | copyFromRaw slice length source =>
    simp only [erased, perform]
    split
    · exact (Tracked.copyArrayFromRaw_erased ..).symm
    · rfl
  | copyFromTracked slice length source sourceLength =>
    simp only [erased, perform]
    split
    · exact (Tracked.copyArray_erased ..).symm
    · rfl

/-! ### The other operations -/

theorem PlainCommand.erased_perform (m : Memory) (c : PlainCommand) :
    (c.perform m).erased = c.perform m := by
  cases c with
  | setTarget slot value =>
    simp only [perform]
    split
    · exact Effect.erased_silent ..
    · exact Effect.erased_silent ..
  | set | copy | read | target | equals | equalsRaw => exact Effect.erased_silent ..

theorem FieldCommand.perform_erased (storage : PointerStorage) (m : Memory) (c : FieldCommand) :
    c.perform storage.erased m = (c.perform storage m).erased := by
  have hshown : ∀ pointer, shown storage.erased pointer = shown storage pointer := by
    cases storage <;> exact fun _ => rfl
  cases c with
  | set slot pointer =>
    cases storage with
    | tracked manager => exact (Tracked.set_erased manager m slot pointer _).symm
    | plain => exact (Effect.erased_silent ..).symm
  | null | build | setUnbarriered | read => simp only [perform, hshown, Effect.erased_silent]

namespace BulkTarget

/-- The target with every manager in it forgotten. -/
def erased (t : BulkTarget) : BulkTarget :=
  ⟨t.allocator.erased, t.element.erased, t.decides.erased⟩

/-- Whether anybody is told about a bulk store is no matter of who it is. -/
theorem manager?_erased (t : BulkTarget) :
    t.erased.manager? = t.manager?.map fun _ => .discard := by
  obtain ⟨allocator, element, decides⟩ := t
  have hbarrier := allocator.requiresBarrierFor_erased decides
  cases element <;> simp only [erased, Element.erased, manager?, hbarrier, Option.map_some] <;>
    cases allocator.requiresBarrierFor decides <;> simp

theorem report_erased (t : BulkTarget) (address count : UInt64) :
    t.erased.report address count =
      (t.report address count).map (List.map Notification.erased) := by
  unfold report
  rw [manager?_erased]
  cases t.manager? with
  | none => rfl
  | some manager =>
    have hsize : t.erased.element.size = t.element.size := t.element.size_erased
    simp only [Option.map_some, hsize, Notification.ofArray_erased manager]
    cases Notification.ofArray manager address t.element.size count <;> rfl

end BulkTarget

theorem Bulk.copyArray_erased (m : Memory) (target : BulkTarget)
    (dest destCount source sourceCount : UInt64) :
    Bulk.copyArray m target.erased dest destCount source sourceCount =
      (Bulk.copyArray m target dest destCount source sourceCount).erased := by
  have hbytes : elementBytes target.erased.element sourceCount =
      elementBytes target.element sourceCount := by
    simp only [elementBytes, BulkTarget.erased, Element.size_erased]
  unfold Bulk.copyArray
  split
  · rw [Effect.erased_written, ← BulkTarget.report_erased, hbytes]
  · rfl

/-- The operation with every manager in it forgotten. -/
def MemoryCommand.erased : MemoryCommand → MemoryCommand
  | writeBarrier target address count => writeBarrier target.erased address count
  | copyArray target dest destCount source sourceCount =>
      copyArray target.erased dest destCount source sourceCount
  | copySlice allocator element dest destCount source sourceCount =>
      copySlice allocator.erased element.erased dest destCount source sourceCount
  | move element dest source count => move element.erased dest source count
  | zero element dest count => zero element.erased dest count
  | c => c

theorem MemoryCommand.perform_erased (m : Memory) (c : MemoryCommand) :
    c.erased.perform m = (c.perform m).erased := by
  cases c with
  | poke | pokeWords | peek | words => rfl
  | writeBarrier target address count =>
    simp only [erased, perform, BulkTarget.report_erased, Effect.erased_written]
  | copyArray target dest destCount source sourceCount => exact Bulk.copyArray_erased ..
  | copySlice allocator element dest destCount source sourceCount =>
    simp only [erased, perform]
    split
    · exact Bulk.copyArray_erased m (.plain allocator element) ..
    · rfl
  | move | zero => simp only [erased, perform, Bulk.elementBytes, Element.size_erased,
      Effect.erased_silent]

/-- The object with its manager forgotten. -/
def Construction.erased (object : Construction) : Construction :=
  { object with manager := .discard }

theorem Construction.store_erased (object : Construction) (m : Memory) (c : GuardedStore) :
    object.erased.store m c = (object.store m c).erased := by
  cases c with
  | value | unbarriered => exact (Effect.erased_silent ..).symm
  | barriered slot pointer => exact (Tracked.set_erased object.manager m slot pointer _).symm

namespace StorageCommand

/-- The operation with every manager in it forgotten. -/
def erased : StorageCommand → StorageCommand
  | tracked _ c => tracked .discard c.erased
  | plain c => plain c
  | field allocator c => field allocator.erased c
  | memory c => memory c.erased
  | construct object c => construct object.erased c
  | finish object => finish object.erased

/-- Forgetting the managers that an operation names forgets the managers that it tells, and nothing
else. -/
theorem perform_erased (m : Memory) (c : StorageCommand) :
    c.erased.perform m = (c.perform m).erased := by
  cases c with
  | tracked manager c => exact c.perform_erased manager m
  | plain c => exact (c.erased_perform m).symm
  | field allocator c =>
    have hstorage : allocator.erased.pointerStorage pointedWord =
        (allocator.pointerStorage pointedWord).erased := allocator.pointerStorage_erased pointedWord
    simp only [erased, perform, hstorage]
    exact c.perform_erased _ m
  | memory c => exact c.perform_erased m
  | construct object c => exact object.store_erased m c
  | finish object => rfl

/-- The operations are the same but for the managers that they name. -/
def SameButManagers (c c' : StorageCommand) : Prop :=
  c.erased = c'.erased

instance (c c' : StorageCommand) : Decidable (SameButManagers c c') :=
  inferInstanceAs (Decidable (_ = _))

variable {c c' : StorageCommand}

theorem SameButManagers.erased_perform (h : SameButManagers c c') (m : Memory) :
    (c'.perform m).erased = (c.perform m).erased := by
  rw [← perform_erased, ← perform_erased, h]

theorem SameButManagers.memory_eq (h : SameButManagers c c') (m : Memory) :
    (c'.perform m).memory = (c.perform m).memory :=
  (congrArg Effect.memory (h.erased_perform m) :)

theorem SameButManagers.outcome_eq (h : SameButManagers c c') (m : Memory) :
    (c'.perform m).outcome = (c.perform m).outcome :=
  (congrArg Effect.outcome (h.erased_perform m) :)

end StorageCommand

end WriteBarrier
