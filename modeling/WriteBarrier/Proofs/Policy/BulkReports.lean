import WriteBarrier.Proofs.Policy.Selection
/-!
Who is told about a bulk store.

Main statements: stores need a barrier in managed memory for pointer-shaped elements, in non-leaf
memory for every element but one, and nowhere else, whichever element decides.  A bulk store of
tracked pointers tells their own manager and any other tells the allocator's where a barrier is
needed; its report is one range with all elements, and has no length where the range is no word.
-/

namespace WriteBarrier

theorem Element.nonLeafPolicy_eq_barriered_iff {e : Element} :
    e.nonLeafPolicy = .barriered ↔ e ≠ .scalar .int32 := by
  unfold nonLeafPolicy
  split
  · simp
  · next h => exact iff_of_true rfl h

/-- The memory of an allocator and the element resolve the policy together: managed memory needs a
barrier for pointer-shaped elements, non-leaf memory for every element but the 32-bit signed integer,
and all other memory for none. -/
theorem Allocator.requiresBarrierFor_iff_tag {a : Allocator} {e : Element} :
    a.requiresBarrierFor e = true ↔
      (∃ manager, a.tag = .managed manager ∧ e.shape = .pointerShaped) ∨
        ∃ manager, a.tag = .nonLeaf manager ∧ e ≠ .scalar .int32 := by
  rw [requiresBarrierFor_iff, elementPolicy]
  cases a.tag with
  | heap => simp [AllocatorTag.elementPolicy, AllocatorTag.policy, Policy.both]
  | leaf manager => simp [AllocatorTag.elementPolicy, AllocatorTag.policy, Policy.both]
  | managed manager =>
    cases hshape : e.shape <;>
      simp [AllocatorTag.elementPolicy, AllocatorTag.policy, Policy.both, Shape.policy, hshape]
  | nonLeaf manager =>
    rw [AllocatorTag.elementPolicy, Element.nonLeafPolicy_eq_barriered_iff]
    simp

namespace BulkTarget

variable {t : BulkTarget} {manager : Manager} {count : UInt64}

/-- The manager that has to be told about a bulk store: that of the tracked pointers, whatever memory
they lie in; for other elements that of the allocator, if the element that decides needs a barrier
there. -/
inductive Due (t : BulkTarget) : Manager → Prop where
  | own {pointee : Element} {manager : Manager} (helement : t.element = .tracked pointee manager) :
      Due t manager
  | allocator (helement : ∀ pointee manager, t.element ≠ .tracked pointee manager)
      (hrequires : t.allocator.requiresBarrierFor t.decides = true) : Due t t.allocator.manager

theorem manager?_eq_some_iff : t.manager? = some manager ↔ t.Due manager := by
  constructor
  · intro h
    unfold manager? at h
    split at h
    · next pointee own helement =>
      cases h
      exact .own helement
    · next helement =>
      split at h
      · next hrequires =>
        cases h
        exact .allocator helement hrequires
      · cases h
  · intro h
    unfold manager?
    cases h with
    | own helement => rw [helement]
    | allocator helement hrequires =>
      split
      · next pointee own htracked => exact absurd htracked (helement pointee own)
      · exact if_pos hrequires

theorem manager?_eq_none_iff : t.manager? = none ↔ ∀ manager, ¬t.Due manager := by
  simp only [← manager?_eq_some_iff, Option.eq_none_iff_forall_ne_some, ne_eq]

/-- The length of a number of elements as a word. -/
theorem size_mul_count (e : Element) (count : UInt64) :
    e.size * count = UInt64.ofNat (Bulk.elementBytes e count) := by
  rw [Bulk.elementBytes, UInt64.ofNat_mul, UInt64.ofNat_toNat, UInt64.ofNat_toNat]

theorem report_of_due (h : t.Due manager) (address : UInt64)
    (hspace : Bulk.elementBytes t.element count < 2 ^ 64) :
    t.report address count =
      .ok [⟨manager, address, UInt64.ofNat (Bulk.elementBytes t.element count)⟩] := by
  rw [report, manager?_eq_some_iff.mpr h]
  dsimp only
  rw [Notification.ofArray_of_lt manager address hspace, size_mul_count]
  rfl

theorem report_of_not_due (h : ∀ manager, ¬t.Due manager) (address count : UInt64) :
    t.report address count = .ok [] := by
  rw [report, manager?_eq_none_iff.mpr h]

/-- The length of the range is computed only if somebody is to be told. -/
theorem report_of_overflow (h : t.Due manager) (address : UInt64)
    (hspace : 2 ^ 64 ≤ Bulk.elementBytes t.element count) :
    t.report address count = .error .mulOverflow := by
  rw [report, manager?_eq_some_iff.mpr h]
  dsimp only
  rw [Notification.ofArray, checkedMul_of_le hspace]
  rfl

end BulkTarget

end WriteBarrier
