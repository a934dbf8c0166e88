import WriteBarrier.Proofs.Machine.Counting
import WriteBarrier.Proofs.Storage.ArrayStore
/-!
A bulk store against stores of one slot after the other.

Main statement: both leave the same memory, the same cards and the same counts of dirtied cards and
reported bytes, and the one counts an unrecorded write exactly where the other does.
-/

namespace WriteBarrier

/-- The report of one slot after the other. -/
def slotReports (array : UInt64) : Nat → List Notification
  | 0 => []
  | count + 1 => ⟨.cardTable, array, pointerSize⟩ :: slotReports (array + pointerSize) count

/-- The report of as many slots at once. -/
def arrayReport (array : UInt64) (count : Nat) : Notification :=
  ⟨.cardTable, array, UInt64.ofNat (8 * count)⟩

/-- Pointers stored into consecutive slots, one after the other. -/
def storeEach (array : UInt64) : List UInt64 → List Command
  | [] => []
  | p :: rest =>
    .storage (.tracked .cardTable (.set array p)) :: storeEach (array + pointerSize) rest

variable {array : UInt64} {count : Nat}

theorem toNat_pointerSize : pointerSize.toNat = 8 :=
  rfl

theorem toNat_nextSlot (hspace : array.toNat + 8 * (count + 1) < 2 ^ 64) :
    (array + pointerSize).toNat = array.toNat + 8 := by
  apply toNat_add_of_lt
  change array.toNat + 8 < 2 ^ 64
  omega

theorem toNat_bytes_arrayReport (hspace : array.toNat + 8 * count < 2 ^ 64) :
    (arrayReport array count).bytes.toNat = 8 * count :=
  UInt64.toNat_ofNat_of_lt' (by change 8 * count < 2 ^ 64; omega)

namespace Registry

variable (r : Registry)

/-- The slots of an array have bytes in the cards that the whole array has bytes in. -/
theorem exists_slotReports_iff (hspace : array.toNat + 8 * count < 2 ^ 64) (id : TableId)
    (card : Nat) :
    (∃ n ∈ slotReports array count,
        n.manager = .cardTable ∧ r.Meets id card n.address.toNat n.bytes.toNat) ↔
      r.Meets id card array.toNat (8 * count) := by
  induction count generalizing array with
  | zero => simp [slotReports, not_meets_zero]
  | succ count ih =>
    have hnext := toNat_nextSlot hspace
    have hsplit : 8 * (count + 1) = 8 + 8 * count := by omega
    rw [slotReports, List.exists_mem_cons_iff, ih (by omega), hnext, toNat_pointerSize, hsplit,
      meets_add_iff, and_iff_right rfl]

/-- The reports of the slots mark the cards that the report of the array marks. -/
theorem markedBy_slotReports_iff (hspace : array.toNat + 8 * count < 2 ^ 64) (id : TableId)
    (card : Nat) :
    r.MarkedBy (slotReports array count) id card ↔
      r.MarkedBy [arrayReport array count] id card := by
  have hmanager : (arrayReport array count).manager = .cardTable := rfl
  rw [markedBy_singleton_iff, and_iff_right hmanager, toNat_bytes_arrayReport hspace, MarkedBy,
    r.exists_slotReports_iff hspace]
  rfl

theorem charge_arrayReport (hspace : array.toNat + 8 * count < 2 ^ 64) :
    r.charge (arrayReport array count) =
      { notifyCalls := 1
        bytesNotified := UInt64.ofNat (8 * count)
        unrecordedWrites := if r.Uncovered array.toNat (8 * count) then 1 else 0 } := by
  have hcharge := r.charge_cardTable array (arrayReport array count).bytes
  rwa [toNat_bytes_arrayReport hspace] at hcharge

/-- The number of consecutive slots with a byte outside every registered table. -/
def uncoveredSlots (address : Nat) : Nat → Nat
  | 0 => 0
  | count + 1 => (if r.Uncovered address 8 then 1 else 0) + uncoveredSlots (address + 8) count

theorem uncoveredSlots_le (address count : Nat) : r.uncoveredSlots address count ≤ count := by
  induction count generalizing address with
  | zero => exact Nat.le_refl 0
  | succ count ih =>
    have hrest := ih (address + 8)
    rw [uncoveredSlots]
    split <;> omega

theorem uncoveredSlots_eq_zero_iff {address : Nat} :
    r.uncoveredSlots address count = 0 ↔ ¬r.Uncovered address (8 * count) := by
  induction count generalizing address with
  | zero => simp [uncoveredSlots, not_uncovered_zero]
  | succ count ih =>
    have hsplit : 8 * (count + 1) = 8 + 8 * count := by omega
    rw [uncoveredSlots, Nat.add_eq_zero_iff, ih, hsplit, uncovered_add_iff, not_or]
    simp

/-- The slots come to one call each, to all bytes of the array, and to one unrecorded write for
each slot with an uncovered byte. -/
theorem sum_charge_slotReports (hspace : array.toNat + 8 * count < 2 ^ 64) :
    ((slotReports array count).map r.charge).sum =
      { notifyCalls := UInt64.ofNat count
        bytesNotified := UInt64.ofNat (8 * count)
        unrecordedWrites := UInt64.ofNat (r.uncoveredSlots array.toNat count) } := by
  induction count generalizing array with
  | zero => rfl
  | succ count ih =>
    have hnext := toNat_nextSlot hspace
    have hsplit : 8 * (count + 1) = 8 + 8 * count := by omega
    rw [slotReports, List.map_cons, List.sum_cons, ih (by omega), charge_cardTable, hnext,
      toNat_pointerSize, hsplit, uncoveredSlots]
    ext1
    · exact (UInt64.add_comm _ _).trans (UInt64.ofNat_add count 1).symm
    · exact (UInt64.ofNat_add 8 (8 * count)).symm
    · rfl
    · rw [Counters.unrecordedWrites_add]
      split
      · exact (UInt64.ofNat_add 1 _).symm
      · exact (UInt64.ofNat_add 0 _).symm

end Registry

namespace Machine

variable {s : Machine} {pointers : List UInt64}

/-- Pointers stored one after the other: each store succeeds, and the run is a store of all of them
with the report of one slot after the other. -/
theorem run_storeEach (hnotifies : s.build = .notifying)
    (hcounts : s.diagnostics.statsEnabled = true) (hfit : s.CardsFit)
    (hspace : array.toNat + 8 * pointers.length < 2 ^ 64) :
    ∃ s', s.run (storeEach array pointers) =
        (s', List.replicate pointers.length (.ok .nothing)) ∧
      Counted { s with memory := s.memory.setWords array.toNat pointers } s'
        (slotReports array pointers.length) := by
  induction pointers generalizing s array with
  | nil => exact ⟨s, rfl, .silent s⟩
  | cons p rest ih =>
    have hnext := toNat_nextSlot hspace
    rw [List.length_cons] at hspace
    obtain ⟨s₁, hset, hone⟩ := step_storage_counted (c := .tracked .cardTable (.set array p)) rfl
      hnotifies hcounts hfit
    have hroom : (array + pointerSize).toNat + 8 * rest.length < 2 ^ 64 := by omega
    obtain ⟨s₂, hrun, hrest⟩ := ih (hone.build_eq.trans hnotifies)
      (hone.statsEnabled_eq.trans hcounts) (hone.cardsFit (hfit.withMemory _)) hroom
    refine ⟨s₂, ?_, ?_⟩
    · simp only [storeEach, run, hset, hrun, List.length_cons, List.replicate_succ]
    · rw [hone.memory_eq, hnext] at hrest
      dsimp only at hrest
      rw [Memory.setWords]
      exact (hone.withMemory _).trans hrest

/-- A bulk store is a store of all pointers with one report of the array. -/
theorem step_storesArray {c : TrackedCommand} (hnotifies : s.build = .notifying)
    (hcounts : s.diagnostics.statsEnabled = true) (hfit : s.CardsFit)
    (hspace : array.toNat + 8 * pointers.length < 2 ^ 64)
    (hc : c.StoresArray s.memory array pointers) :
    ∃ s', s.step (.storage (.tracked .cardTable c)) = (s', .ok .nothing) ∧
      Counted { s with memory := s.memory.setWords array.toNat pointers } s'
        [arrayReport array pointers.length] :=
  step_storage_counted (hc.perform_eq (by omega) .cardTable) hnotifies hcounts hfit

/-- A bulk store of pointers and a loop that sets one slot after the other end with the same memory,
the same cards, and the same counts of dirtied cards and reported bytes.  The loop counts an
unrecorded write for each slot with a byte outside every registered table, the bulk store one if
there is such a slot. -/
theorem step_storesArray_eq_run {c : TrackedCommand} (hnotifies : s.build = .notifying)
    (hcounts : s.diagnostics.statsEnabled = true) (hfit : s.CardsFit)
    (hspace : array.toNat + 8 * pointers.length < 2 ^ 64)
    (hc : c.StoresArray s.memory array pointers) :
    ∃ bulk each, s.step (.storage (.tracked .cardTable c)) = (bulk, .ok .nothing) ∧
      s.run (storeEach array pointers) =
        (each, List.replicate pointers.length (.ok .nothing)) ∧
      each.memory = bulk.memory ∧ each.registry = bulk.registry ∧
      each.diagnostics.counters.cardsDirtied = bulk.diagnostics.counters.cardsDirtied ∧
      each.diagnostics.counters.bytesNotified = bulk.diagnostics.counters.bytesNotified ∧
      ∃ k ≤ pointers.length, k = s.registry.uncoveredSlots array.toNat pointers.length ∧
        each.diagnostics.counters.unrecordedWrites =
          s.diagnostics.counters.unrecordedWrites + UInt64.ofNat k ∧
        bulk.diagnostics.counters.unrecordedWrites =
          s.diagnostics.counters.unrecordedWrites + if k = 0 then 0 else 1 := by
  obtain ⟨bulk, hbulk, hone⟩ := step_storesArray hnotifies hcounts hfit hspace hc
  obtain ⟨each, heach, hall⟩ := run_storeEach hnotifies hcounts hfit hspace
  have hregistry : each.registry = bulk.registry := by
    apply Registry.eq_of_dirty_iff
    · rw [hall.entries_eq, hone.entries_eq]
    · rw [hall.layouts_eq, hone.layouts_eq]
    · intro id card
      rw [hall.dirty_iff, hone.dirty_iff, Registry.markedBy_slotReports_iff _ hspace]
  have hcounts_each := hall.counters_eq
  have hcounts_bulk := hone.counters_eq
  rw [Registry.sum_charge_slotReports _ hspace, hregistry] at hcounts_each
  rw [List.map_singleton, List.sum_singleton, Registry.charge_arrayReport _ hspace] at hcounts_bulk
  refine ⟨bulk, each, hbulk, heach, hall.memory_eq.trans hone.memory_eq.symm, hregistry, ?_, ?_,
    _, s.registry.uncoveredSlots_le .., rfl, ?_, ?_⟩
  · rw [hcounts_each, hcounts_bulk]
    rfl
  · rw [hcounts_each, hcounts_bulk]
    rfl
  · rw [hcounts_each]
    exact UInt64.add_zero _
  · rw [hcounts_bulk]
    simp only [Registry.uncoveredSlots_eq_zero_iff, ite_not]
    exact UInt64.add_zero _

namespace Overlap

def held : List UInt64 :=
  [0x1008, 0x1010, 0x1018, 0x1020, 0x1028]

/-- The pointers lie in an array of one slot more, which ends outside both tables. -/
def holding : Machine :=
  { machine with memory := machine.memory.setWords 0x1028 held }

end Overlap

theorem step_overlap_moveWithin :
    Overlap.holding.CardsFit ∧
      (TrackedCommand.moveWithin 0x1028 6 0 5 1).StoresArray Overlap.holding.memory 0x1030
        Overlap.held ∧
      ∃ bulk each,
        Overlap.holding.step (.storage (.tracked .cardTable (.moveWithin 0x1028 6 0 5 1))) =
          (bulk, .ok .nothing) ∧
        Overlap.holding.run (storeEach 0x1030 Overlap.held) =
          (each, List.replicate 5 (.ok .nothing)) ∧
        each.memory = bulk.memory ∧ each.registry = bulk.registry ∧
        bulk.diagnostics.counters = ⟨1, 40, 3, 1⟩ ∧
        each.diagnostics.counters = ⟨5, 40, 3, 2⟩ := by
  have hfit : Overlap.holding.CardsFit := by decide +kernel
  have hstores : (TrackedCommand.moveWithin 0x1028 6 0 5 1).StoresArray Overlap.holding.memory
      0x1030 Overlap.held :=
    .moved ⟨rfl, by decide⟩ (by decide) rfl (by decide +kernel)
  obtain ⟨bulk, each, hbulk, heach, hmemory, hregistry, _⟩ :=
    step_storesArray_eq_run rfl rfl hfit (by decide) hstores
  have hcounts_bulk : (Overlap.holding.step (.storage
      (.tracked .cardTable (.moveWithin 0x1028 6 0 5 1)))).1.diagnostics.counters =
        ⟨1, 40, 3, 1⟩ := by decide +kernel
  have hcounts_each : (Overlap.holding.run
      (storeEach 0x1030 Overlap.held)).1.diagnostics.counters = ⟨5, 40, 3, 2⟩ := by decide +kernel
  rw [hbulk] at hcounts_bulk
  rw [heach] at hcounts_each
  exact ⟨hfit, hstores, bulk, each, hbulk, heach, hmemory, hregistry, hcounts_bulk, hcounts_each⟩

end Machine

end WriteBarrier
