import WriteBarrier.Proofs.Machine.Notification
import WriteBarrier.Proofs.Storage.Reporting
/-!
The storage that an allocator selects for raw pointers.

Main statement: where a barrier is needed, the storage is tracked for the allocator's own manager,
stays so under every other allocator, and reports every bulk store to that manager alone; otherwise
the storage is plain and no store through it is reported.
-/

namespace WriteBarrier

/-- A raw pointer to the target, through which it may be written or only read. -/
inductive Element.PointsTo : Element → Element → Prop where
  | pointer (target : Element) : PointsTo (.pointer target) target
  | readPointer (target : Element) : PointsTo (.readPointer target) target

/-- The command stores as `write` does and issues one notification, which a build that notifies
hands to its manager. -/
structure MemoryCommand.Tells (c : MemoryCommand) (write : Memory → Memory) (n : Notification) :
    Prop where
  perform_eq : ∀ m, c.perform m = ⟨write m, [n], .ok .nothing⟩
  step_eq : ∀ s : Machine, s.build = .notifying →
    s.step (.storage (.memory c)) =
      Machine.notified ({ s with memory := write s.memory }.deliver n)

theorem MemoryCommand.tells_of_perform_eq {c : MemoryCommand} {write : Memory → Memory}
    {n : Notification} (h : ∀ m, c.perform m = ⟨write m, [n], .ok .nothing⟩) :
    c.Tells write n where
  perform_eq := h
  step_eq s hnotifies := by
    rw [Machine.step, StorageCommand.perform, h]
    exact Machine.absorb_report hnotifies _ n

/-- Elements whose bulk stores tell one manager once of the whole destination, whichever allocator
and policy they are made under. -/
structure Element.ReportsTo (e : Element) (manager : Manager) : Prop where
  writeBarrier : ∀ (allocator : Allocator) (decides : Element) (address count : UInt64),
    8 * count.toNat < 2 ^ 64 →
    (MemoryCommand.writeBarrier ⟨allocator, e, decides⟩ address count).Tells id
      ⟨manager, address, 8 * count⟩
  copyArray : ∀ (allocator : Allocator) (decides : Element)
    (dest destCount source sourceCount : UInt64), 8 * destCount.toNat < 2 ^ 64 →
    sourceCount ≤ destCount →
    (MemoryCommand.copyArray ⟨allocator, e, decides⟩ dest destCount source sourceCount).Tells
      (fun m => m.move dest.toNat source.toNat (8 * sourceCount.toNat))
      ⟨manager, dest, 8 * destCount⟩

theorem Element.reportsTo_tracked (pointee : Element) (manager : Manager) :
    (Element.tracked pointee manager).ReportsTo manager where
  writeBarrier allocator decides address count hspace := by
    apply MemoryCommand.tells_of_perform_eq
    intro m
    rw [MemoryCommand.perform, BulkTarget.report_of_tracked rfl,
      Notification.ofArray_slots manager address hspace]
    rfl
  copyArray allocator decides dest destCount source sourceCount hspace hle := by
    apply MemoryCommand.tells_of_perform_eq
    intro m
    rw [MemoryCommand.perform, Bulk.copyArray, if_pos hle, BulkTarget.report_of_tracked rfl,
      Notification.ofArray_slots manager dest hspace, Bulk.elementBytes_tracked rfl]
    rfl

/-- Nothing that is done with a plain pointer is reported. -/
theorem PlainCommand.notifications_perform (m : Memory) (c : PlainCommand) :
    (c.perform m).notifications = [] := by
  cases c with
  | set | copy | read | target | equals | equalsRaw => rfl
  | setTarget slot value =>
    dsimp only [perform]
    split <;> rfl

theorem FieldCommand.notifications_perform_plain (m : Memory) (c : FieldCommand) :
    (c.perform .plain m).notifications = [] := by
  cases c <;> rfl

namespace Allocator

variable {a : Allocator} {t target : Element}

/-- Tracked storage stays tracked for its own manager. -/
theorem arrayItem_tracked (b : Allocator) (target : Element) (manager : Manager) :
    b.arrayItem (.tracked target manager) = .tracked target manager := by
  unfold arrayItem
  split <;> rfl

/-- Whether the target may be written has no part in the policy of a raw pointer. -/
theorem elementPolicy_of_pointsTo (ht : t.PointsTo target) :
    a.elementPolicy t = a.elementPolicy (.pointer target) := by
  cases ht with
  | pointer => rfl
  | readPointer =>
    unfold elementPolicy
    cases a.tag <;> rfl

theorem requiresBarrierFor_iff {e : Element} :
    a.requiresBarrierFor e = true ↔ a.elementPolicy e = .barriered := by
  unfold requiresBarrierFor
  cases a.elementPolicy e <;> simp [Policy.requiresBarrier]

theorem not_requiresBarrierFor_iff {e : Element} :
    a.requiresBarrierFor e = false ↔ a.elementPolicy e = .unbarriered := by
  unfold requiresBarrierFor
  cases a.elementPolicy e <;> simp [Policy.requiresBarrier]

theorem arrayItem_of_barriered (ht : t.PointsTo target) (h : a.elementPolicy t = .barriered) :
    a.arrayItem t = .tracked target a.manager := by
  rw [arrayItem, h]
  cases ht <;> rfl

theorem arrayItem_of_unbarriered {e : Element} (h : a.elementPolicy e = .unbarriered) :
    a.arrayItem e = e := by
  rw [arrayItem, h]

theorem pointerStorage_of_barriered (ht : t.PointsTo target) (h : a.elementPolicy t = .barriered) :
    a.pointerStorage target = .tracked a.manager := by
  rw [pointerStorage, ← elementPolicy_of_pointsTo ht, h]

theorem pointerStorage_of_unbarriered (ht : t.PointsTo target)
    (h : a.elementPolicy t = .unbarriered) : a.pointerStorage target = .plain := by
  rw [pointerStorage, ← elementPolicy_of_pointsTo ht, h]

/-- Where an allocator needs a barrier for a raw pointer, arrays and fields of it are tracked for
the allocator's manager.  Selecting again, for any allocator, changes nothing, and every bulk store
is reported to that manager once, whichever allocator and policy it is made under.  Where no barrier
is needed, an array holds the pointer itself, and no store through a field is reported. -/
theorem selected_of_pointsTo (a : Allocator) (ht : t.PointsTo target) :
    (a.requiresBarrierFor t = true →
      a.arrayItem t = .tracked target a.manager ∧
      a.fieldPointer target = .tracked target a.manager ∧
      (∀ b : Allocator, b.arrayItem (a.arrayItem t) = a.arrayItem t) ∧
      (a.arrayItem t).ReportsTo a.manager) ∧
    (a.requiresBarrierFor t = false →
      a.arrayItem t = t ∧
      a.fieldPointer target = .plainPointer target ∧
      (∀ (m : Memory) (c : FieldCommand),
        (c.perform (a.pointerStorage target) m).notifications = []) ∧
      ∀ (m : Memory) (c : PlainCommand), (c.perform m).notifications = []) := by
  constructor
  · intro hrequires
    rw [requiresBarrierFor_iff] at hrequires
    rw [arrayItem_of_barriered ht hrequires, fieldPointer, pointerStorage_of_barriered ht hrequires]
    exact ⟨rfl, rfl, fun b => b.arrayItem_tracked target a.manager,
      Element.reportsTo_tracked target a.manager⟩
  · intro hrequires
    rw [not_requiresBarrierFor_iff] at hrequires
    rw [arrayItem_of_unbarriered hrequires, fieldPointer,
      pointerStorage_of_unbarriered ht hrequires]
    exact ⟨rfl, rfl, FieldCommand.notifications_perform_plain, PlainCommand.notifications_perform⟩

/-- An allocator of traced objects that tells a declared manager. -/
def recorded : Allocator :=
  .declared "nodes" (.nonLeaf Machine.Overlap.recorder)

theorem selected_recorded_readPointer :
    recorded.requiresBarrierFor (.readPointer (.scalar .uint8)) = true ∧
      recorded.fieldPointer (.scalar .uint8) = .tracked (.scalar .uint8) Machine.Overlap.recorder ∧
      (Machine.Overlap.machine.step (.storage (.memory (.copyArray
          ⟨.ofTag (.nonLeaf .cardTable), recorded.arrayItem (.readPointer (.scalar .uint8)),
            .scalar .int32⟩ 0x1000 3 0x1040 2)))).1.calls =
        [⟨Machine.Overlap.recorder, 0x1000, 24⟩] ∧
      (ofTag (.leaf .cardTable)).requiresBarrierFor (.readPointer (.scalar .uint8)) = false ∧
      (ofTag (.leaf .cardTable)).fieldPointer (.scalar .uint8) =
        .plainPointer (.scalar .uint8) := by
  have hpoints := Element.PointsTo.readPointer (.scalar .uint8)
  have hrequires : recorded.requiresBarrierFor (.readPointer (.scalar .uint8)) = true := rfl
  have hleaf : (ofTag (.leaf .cardTable)).requiresBarrierFor (.readPointer (.scalar .uint8)) =
      false := rfl
  obtain ⟨_, htracked, _, hreports⟩ := (selected_of_pointsTo recorded hpoints).1 hrequires
  obtain ⟨_, hplain, _⟩ := (selected_of_pointsTo (.ofTag (.leaf .cardTable)) hpoints).2 hleaf
  refine ⟨hrequires, htracked, ?_, hleaf, hplain⟩
  have htells := hreports.copyArray (.ofTag (.nonLeaf .cardTable)) (.scalar .int32) 0x1000 3 0x1040 2
    (by decide) (by decide)
  rw [htells.step_eq Machine.Overlap.machine rfl]
  decide +kernel

end Allocator

end WriteBarrier
