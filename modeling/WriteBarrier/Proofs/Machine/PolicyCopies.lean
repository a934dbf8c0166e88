import WriteBarrier.Proofs.Machine.ArrayStore
import WriteBarrier.Proofs.Memory.Moving
import WriteBarrier.Proofs.Policy.BulkReports
/-!
Copies under the barrier policy of their destination.

Main statement: a copy that fits into its destination moves its source there, leaves every other byte
alone, and then tells the one manager that has to be told of the whole destination; a copy that does
not fit changes nothing and tells nobody.  A report without a copy tells the same manager, and stops
exactly where there is one to tell and the length of the range is no word.
-/

namespace WriteBarrier

open Bulk

namespace Machine

variable {s : Machine} {t : BulkTarget} {address : UInt64} {bytes : Nat}

/-- The result is that of telling whoever has to be told about a bulk store of a range, in a build
that notifies, from the state that the store left. -/
structure Told (s : Machine) (t : BulkTarget) (address : UInt64) (bytes : Nat)
    (result : Machine × Outcome Answer) : Prop where
  of_due : ∀ manager, t.Due manager →
    result = notified (s.notify ⟨manager, address, UInt64.ofNat bytes⟩)
  of_not_due : (∀ manager, ¬t.Due manager) → result = (s, .ok .nothing)

/-- Somebody has to be told, but the length of the range is no word. -/
def Unreportable (t : BulkTarget) (bytes : Nat) : Prop :=
  (∃ manager, t.Due manager) ∧ 2 ^ 64 ≤ bytes

theorem told_absorb (s : Machine) (m : Memory) (address count : UInt64)
    (h : ¬Unreportable t (elementBytes t.element count)) :
    Told { s with memory := m } t address (elementBytes t.element count)
      (s.absorb (.written m (t.report address count) .nothing)) where
  of_due manager hdue := by
    have hspace : elementBytes t.element count < 2 ^ 64 :=
      Nat.lt_of_not_le fun hle => h ⟨⟨manager, hdue⟩, hle⟩
    rw [BulkTarget.report_of_due hdue address hspace]
    exact s.absorb_singleton m _
  of_not_due hnone := by
    rw [BulkTarget.report_of_not_due hnone]
    rfl

theorem absorb_of_unreportable (s : Machine) (m : Memory) (address count : UInt64)
    (h : Unreportable t (elementBytes t.element count)) :
    s.absorb (.written m (t.report address count) .nothing) =
      ({ s with memory := m }, .error (.fault .mulOverflow)) := by
  obtain ⟨⟨manager, hdue⟩, hspace⟩ := h
  rw [BulkTarget.report_of_overflow hdue address hspace]
  rfl

/-- Telling a manager goes through where the registered tables have fewer cards than a word counts. -/
theorem Told.outcome_eq {result : Machine × Outcome Answer} (h : Told s t address bytes result)
    (hfit : s.CardsFit) : result.2 = .ok .nothing := by
  by_cases hdue : ∃ manager, t.Due manager
  · obtain ⟨manager, hdue⟩ := hdue
    rw [h.of_due manager hdue, snd_notified_notify _ hfit]
  · rw [h.of_not_due (not_exists.mp hdue)]

/-- A copy that fits moves its source and then reports the whole destination. -/
theorem copyArray_of_le (m : Memory) {dest destCount source sourceCount : UInt64}
    (hle : sourceCount ≤ destCount) :
    copyArray m t dest destCount source sourceCount =
      .written (m.move dest.toNat source.toNat (elementBytes t.element sourceCount))
        (t.report dest destCount) .nothing :=
  if_pos hle

theorem copyArray_of_lt (m : Memory) {dest destCount source sourceCount : UInt64}
    (hlt : destCount < sourceCount) :
    copyArray m t dest destCount source sourceCount =
      .failed m (.fault (.copyTooLong sourceCount destCount)) :=
  if_neg (UInt64.not_le.mpr hlt)

/-- A copy whose destination has a length and may be written. -/
theorem told_copyArray (s : Machine) (dest source : UInt64) {destCount sourceCount : UInt64}
    (hspace : elementBytes t.element destCount < 2 ^ 64) (hle : sourceCount ≤ destCount) :
    Told
      { s with
        memory := s.memory.move dest.toNat source.toNat (elementBytes t.element sourceCount) }
      t dest (elementBytes t.element destCount)
      (s.absorb (copyArray s.memory t dest destCount source sourceCount)) := by
  rw [copyArray_of_le s.memory hle]
  exact s.told_absorb _ dest destCount fun h => Nat.not_le.mpr hspace h.2

/-- A copy under a policy that fits into its destination moves its source there and changes no other
byte, and the manager that has to be told, if there is one, is told once of the whole destination;
one that does not fit is refused, or stopped, and changes nothing.  A report as such tells the same
manager of any range, and it stops exactly where one has to be told and the length is no word, which
it does in every build. -/
theorem step_policy_exact (s : Machine) (t : BulkTarget) :
    (∀ dest destCount source sourceCount : UInt64,
      elementBytes t.element destCount < 2 ^ 64 →
      s.memory.Writable dest.toNat (elementBytes t.element destCount) →
      (destCount < sourceCount →
        s.step (.storage (.memory (.copyArray t dest destCount source sourceCount))) =
          (s, .error (.fault (.copyTooLong sourceCount destCount))) ∧
        s.step (.storage (.memory
            (.copySlice t.allocator t.element dest destCount source sourceCount))) =
          (s, .error (.error (.lengthMismatch destCount sourceCount)))) ∧
      (sourceCount ≤ destCount → ∃ m,
        s.memory.Moved m dest.toNat source.toNat (elementBytes t.element sourceCount) ∧
        Told { s with memory := m } t dest (elementBytes t.element destCount)
          (s.step (.storage (.memory (.copyArray t dest destCount source sourceCount)))) ∧
        Told { s with memory := m } (.plain t.allocator t.element) dest
          (elementBytes t.element destCount)
          (s.step (.storage (.memory
            (.copySlice t.allocator t.element dest destCount source sourceCount)))) ∧
        (s.CardsFit →
          (s.step (.storage (.memory (.copyArray t dest destCount source sourceCount)))).2 =
            .ok .nothing ∧
          (s.step (.storage (.memory
            (.copySlice t.allocator t.element dest destCount source sourceCount)))).2 =
            .ok .nothing))) ∧
    (∀ address count : UInt64,
      (Unreportable t (elementBytes t.element count) →
        s.step (.storage (.memory (.writeBarrier t address count))) =
          (s, .error (.fault .mulOverflow))) ∧
      (¬Unreportable t (elementBytes t.element count) →
        Told s t address (elementBytes t.element count)
          (s.step (.storage (.memory (.writeBarrier t address count))))) ∧
      (s.CardsFit →
        ((∃ fault, (s.step (.storage (.memory (.writeBarrier t address count)))).2 =
          .error fault) ↔ Unreportable t (elementBytes t.element count)))) ∧
    ∀ (a : Allocator) (e : Element), a.requiresBarrierFor e = true ↔
      (∃ manager, a.tag = .managed manager ∧ e.shape = .pointerShaped) ∨
        ∃ manager, a.tag = .nonLeaf manager ∧ e ≠ .scalar .int32 := by
  refine ⟨?_, ?_, fun _ _ => Allocator.requiresBarrierFor_iff_tag⟩
  · intro dest destCount source sourceCount hspace hheld
    constructor
    · intro hlt
      have hle : ¬sourceCount ≤ destCount := UInt64.not_le.mpr hlt
      simp only [step, StorageCommand.perform, MemoryCommand.perform, copyArray_of_lt _ hlt,
        if_neg hle]
      exact ⟨rfl, rfl⟩
    · intro hle
      have hpart : elementBytes t.element sourceCount ≤ elementBytes t.element destCount :=
        Nat.mul_le_mul_left _ (UInt64.le_iff_toNat_le.mp hle)
      have harray := s.told_copyArray dest source hspace hle
      have hslice := s.told_copyArray (t := .plain t.allocator t.element) dest source hspace hle
      simp only [step, StorageCommand.perform, MemoryCommand.perform, if_pos hle]
      exact ⟨_, Memory.moved_move source.toNat (hheld.mono hpart), harray, hslice,
        fun hfit => ⟨harray.outcome_eq hfit, hslice.outcome_eq hfit⟩⟩
  · intro address count
    have hstop := s.absorb_of_unreportable (t := t) s.memory address count
    have htold := s.told_absorb (t := t) s.memory address count
    refine ⟨hstop, htold, fun hfit => ⟨?_, fun h => ⟨_, congrArg Prod.snd (hstop h)⟩⟩⟩
    rintro ⟨fault, hfault⟩
    by_contra h
    have hok := (htold h).outcome_eq hfit
    rw [step, StorageCommand.perform, MemoryCommand.perform, hok] at hfault
    cases hfault

/-- Three words are copied to the front of four, of which the recorder is told together; two words
do not hold three; a report of too many words is stopped; and an element that asks for a barrier has
none in leaf memory. -/
theorem step_policy_recorded :
    (∃ m, Overlap.holding.memory.Moved m 0x1050 0x1028 24 ∧
      Overlap.holding.step (.storage (.memory (.copyArray
          (.plain Allocator.recorded (.scalar .uint64)) 0x1050 4 0x1028 3))) =
        ({ Overlap.holding with memory := m, calls := [⟨Overlap.recorder, 0x1050, 32⟩] },
          .ok .nothing)) ∧
      Overlap.holding.step (.storage (.memory
          (.copySlice Allocator.recorded (.scalar .uint64) 0x1050 2 0x1028 3))) =
        (Overlap.holding, .error (.error (.lengthMismatch 2 3))) ∧
      Overlap.holding.step (.storage (.memory (.writeBarrier
          (.plain Allocator.recorded (.scalar .uint64)) 0x1050 0x2000000000000000))) =
        (Overlap.holding, .error (.fault .mulOverflow)) ∧
      Overlap.holding.step (.storage (.memory (.writeBarrier
          ⟨.ofTag (.leaf Overlap.recorder), .scalar .uint64, .barrierTag⟩ 0x1050 4))) =
        (Overlap.holding, .ok .nothing) := by
  obtain ⟨hcopy, hreport, _⟩ :=
    step_policy_exact Overlap.holding (.plain Allocator.recorded (.scalar .uint64))
  have hdue : (BulkTarget.plain Allocator.recorded (.scalar .uint64)).Due Overlap.recorder :=
    BulkTarget.manager?_eq_some_iff.mp rfl
  refine ⟨?_, ?_, ?_, ?_⟩
  · obtain ⟨m, hmoved, htold, _⟩ :=
      (hcopy 0x1050 4 0x1028 3 (by decide) (by decide +kernel)).2 (by decide)
    exact ⟨m, hmoved, htold.of_due Overlap.recorder hdue⟩
  · exact ((hcopy 0x1050 2 0x1028 3 (by decide) (by decide +kernel)).1 (by decide)).2
  · exact (hreport 0x1050 0x2000000000000000).1 ⟨⟨Overlap.recorder, hdue⟩, by decide⟩
  · have hsilent := (step_policy_exact Overlap.holding
      ⟨.ofTag (.leaf Overlap.recorder), .scalar .uint64, .barrierTag⟩).2.1 0x1050 4
    have hnone : ∀ manager,
        ¬BulkTarget.Due ⟨.ofTag (.leaf Overlap.recorder), .scalar .uint64, .barrierTag⟩ manager :=
      BulkTarget.manager?_eq_none_iff.mp rfl
    exact (hsilent.2.1 fun h => h.1.elim hnone).of_not_due hnone

end Machine

end WriteBarrier
