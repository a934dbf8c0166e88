import WriteBarrier.Machine.Run
import WriteBarrier.Proofs.Memory.Frame
import WriteBarrier.Proofs.Words
/-!
Stores of tracked pointers, and what is reported of them.

Main statement: an operation on tracked slots of the card tables that is not called unbarriered
changes a word of memory only to null, or it reports a range with the whole word.
-/

namespace WriteBarrier

/-- The memory ends before the end of the address space, as memory that was handed out does. -/
def Memory.InAddressSpace (m : Memory) : Prop :=
  m.start + m.bytes.size < 2 ^ 64

/-- Aligned slots that lie in the memory. -/
def Memory.HoldsSlots (m : Memory) (array count : UInt64) : Prop :=
  array.toNat % 8 = 0 ∧ m.Holds array.toNat (8 * count.toNat)

instance (m : Memory) : Decidable m.InAddressSpace :=
  inferInstanceAs (Decidable (_ < _))

instance (m : Memory) (array count : UInt64) : Decidable (m.HoldsSlots array count) :=
  inferInstanceAs (Decidable (_ ∧ _))

/-- The card tables are told of the whole word. -/
def Notification.Reports (n : Notification) (slot : Nat) : Prop :=
  n.manager = .cardTable ∧ n.address.toNat ≤ slot ∧ slot + 8 ≤ n.address.toNat + n.bytes.toNat

/-- A range whose length is a word can be reported. -/
theorem Notification.ofArray_of_lt (manager : Manager) (address : UInt64) {size count : UInt64}
    (h : size.toNat * count.toNat < 2 ^ 64) :
    ofArray manager address size count = .ok ⟨manager, address, size * count⟩ := by
  rw [ofArray, checkedMul_of_lt h]

/-- Slots are reported as one range. -/
theorem Notification.ofArray_slots (manager : Manager) (address : UInt64) {count : UInt64}
    (h : 8 * count.toNat < 2 ^ 64) :
    ofArray manager address pointerSize count = .ok ⟨manager, address, 8 * count⟩ :=
  @ofArray_of_lt manager address pointerSize count h

/-- Tracked pointers report to their own manager, whichever allocator and policy they are written
under. -/
theorem BulkTarget.report_of_tracked {target : BulkTarget} {pointee : Element} {manager : Manager}
    (h : target.element = .tracked pointee manager) (address count : UInt64) :
    target.report address count =
      (Notification.ofArray manager address pointerSize count).map fun n => [n] := by
  simp only [report, manager?, h]
  rfl

theorem Bulk.elementBytes_tracked {e pointee : Element} {manager : Manager}
    (h : e = .tracked pointee manager) (count : UInt64) : elementBytes e count = 8 * count.toNat := by
  rw [elementBytes, h]
  rfl

namespace Effect

variable {m m' : Memory} {e : Effect} {array count : UInt64}

/-- An operation that hides no pointer: an aligned word is what it was, or null, or reported. -/
structure Reported (e : Effect) (m : Memory) : Prop where
  start_eq : e.memory.start = m.start
  size_eq : e.memory.bytes.size = m.bytes.size
  word_cases : ∀ slot, slot % 8 = 0 → m.Holds slot 8 →
    e.memory.word slot = m.word slot ∨ e.memory.word slot = 0 ∨
      ∃ n ∈ e.notifications, n.Reports slot

theorem reported_of_eq (h : e.memory = m) : e.Reported m := by
  refine ⟨by rw [h], by rw [h], ?_⟩
  intro slot _ _
  exact Or.inl (by rw [h])

/-- A write into aligned slots changes no other slot. -/
theorem reported_of_written {address n : Nat} {ns : List Notification} {outcome : Outcome Answer}
    (haligned : address % 8 = 0) (hwritten : m.Written m' address (8 * n))
    (hinside : ∀ slot, address ≤ slot → slot + 8 ≤ address + 8 * n → m.Holds slot 8 →
      m'.word slot = 0 ∨ ∃ told ∈ ns, told.Reports slot) :
    Reported ⟨m', ns, outcome⟩ m where
  start_eq := hwritten.start_eq
  size_eq := hwritten.size_eq
  word_cases slot hslot hheld := by
    by_cases hoff : slot + 8 ≤ address ∨ address + 8 * n ≤ slot
    · exact Or.inl (hwritten.word_eq hoff)
    · exact Or.inr (hinside slot (by omega) (by omega) hheld)

theorem ofArray_eq_ok (hspace : m.InAddressSpace) (hslots : m.HoldsSlots array count) :
    ∃ bytes, Notification.ofArray .cardTable array pointerSize count =
        .ok ⟨.cardTable, array, bytes⟩ ∧ bytes.toNat = 8 * count.toNat := by
  obtain ⟨_, hlo, hhi⟩ := hslots
  have hlt : 8 * count.toNat < 2 ^ 64 := by
    unfold Memory.InAddressSpace at hspace
    omega
  exact ⟨8 * count, Notification.ofArray_slots .cardTable array hlt, toNat_mul_of_lt hlt⟩

/-- A write into slots that are reported together hides nothing. -/
theorem written_reported (hspace : m.InAddressSpace) (hslots : m.HoldsSlots array count)
    (hwritten : m.Written m' array.toNat (8 * count.toNat)) (answer : Answer) :
    (written m' ((Notification.ofArray .cardTable array pointerSize count).map fun n => [n])
      answer).Reported m := by
  obtain ⟨bytes, harray, hbytes⟩ := ofArray_eq_ok hspace hslots
  rw [harray]
  apply reported_of_written hslots.1 hwritten
  intro slot hlo hhi _
  exact Or.inr ⟨_, List.mem_singleton_self _, rfl, hlo, by rwa [hbytes]⟩

theorem set_reported (hslot : m.HoldsSlots array 1) (pointer : UInt64) (answer : Answer) :
    (Tracked.set .cardTable m array pointer answer).Reported m := by
  apply reported_of_written (n := 1) hslot.1 (m.written_setWord array.toNat pointer)
  intro slot hlo hhi _
  exact Or.inr ⟨_, List.mem_singleton_self _, rfl, hlo, hhi⟩

theorem null_reported (hslot : m.HoldsSlots array 1) (answer : Answer) :
    (silent (m.setWord array.toNat 0) answer).Reported m := by
  apply reported_of_written (n := 1) hslot.1 (m.written_setWord array.toNat 0)
  intro slot hlo hhi hheld
  obtain rfl : slot = array.toNat := by omega
  exact Or.inl (Memory.word_setWord_self hheld 0)

theorem clearArray_reported (hslots : m.HoldsSlots array count) :
    (Tracked.clearArray m array count).Reported m := by
  apply reported_of_written hslots.1 (m.written_zero array.toNat (Tracked.slotBytes count))
  intro slot hlo hhi hheld
  exact Or.inl (Memory.word_zero ⟨hlo, hhi⟩ hheld)

end Effect

/-! ### The operations -/

/-- A slot of an array that ends inside the address space. -/
theorem Tracked.toNat_slotAt {array index : UInt64}
    (h : array.toNat + 8 * index.toNat < 2 ^ 64) :
    (slotAt array index).toNat = array.toNat + 8 * index.toNat := by
  have hlt : pointerSize.toNat * index.toNat < 2 ^ 64 := by
    change 8 * index.toNat < 2 ^ 64
    omega
  have hoffset : (pointerSize * index).toNat = 8 * index.toNat := toNat_mul_of_lt hlt
  rw [slotAt, toNat_add_of_lt (by omega), hoffset]

theorem Memory.HoldsSlots.slotAt {m : Memory} {array length index count : UInt64}
    (h : m.HoldsSlots array length) (hspace : m.InAddressSpace)
    (hle : index.toNat + count.toNat ≤ length.toNat) :
    m.HoldsSlots (Tracked.slotAt array index) count := by
  obtain ⟨haligned, hlo, hhi⟩ := h
  unfold InAddressSpace at hspace
  unfold HoldsSlots Holds
  rw [Tracked.toNat_slotAt (by omega)]
  omega

/-- A range is moved exactly where it lies in the slice and the slice has room for it. -/
theorem Tracked.moveCount_eq_ok_iff {length start stop dest count : UInt64} :
    moveCount length start stop dest = .ok count ↔
      (start.toNat + count.toNat = stop.toNat ∧ stop.toNat ≤ length.toNat) ∧
        dest.toNat + count.toNat ≤ length.toNat := by
  unfold moveCount
  split
  · next hrange =>
    obtain ⟨hstop, hlength⟩ := hrange
    rw [UInt64.le_iff_toNat_le] at hstop hlength
    have hsub := toNat_sub_of_le hstop
    rw [checkedSub_of_le hstop]
    split
    · next hdest =>
      rw [UInt64.le_iff_toNat_le] at hdest
      rw [checkedSub_of_le hdest]
      simp only [Outcome.ofChecked, bind, Except.bind]
      split
      · next hroom =>
        rw [UInt64.le_iff_toNat_le, toNat_sub_of_le hdest] at hroom
        rw [Except.ok.injEq, ← UInt64.toNat_inj]
        omega
      · next hroom =>
        rw [UInt64.le_iff_toNat_le, toNat_sub_of_le hdest] at hroom
        simp only [reduceCtorEq, false_iff]
        omega
    · next hdest =>
      rw [UInt64.le_iff_toNat_le] at hdest
      simp only [Outcome.ofChecked, bind, Except.bind, reduceCtorEq, false_iff]
      omega
  · next hrange =>
    rw [UInt64.le_iff_toNat_le, UInt64.le_iff_toNat_le] at hrange
    simp only [reduceCtorEq, false_iff]
    omega

theorem Tracked.moveCount_le {length start stop dest count : UInt64}
    (h : moveCount length start stop dest = .ok count) :
    dest.toNat + count.toNat ≤ length.toNat :=
  (moveCount_eq_ok_iff.mp h).2

/-- The operations that are not called unbarriered, on slots that lie aligned in memory. -/
def TrackedCommand.Barriered (m : Memory) : TrackedCommand → Prop
  | .build .. | .setUnbarriered .. => False
  | .null slot | .set slot _ | .replace slot _ | .assign slot .. => m.HoldsSlots slot 1
  | .read _ | .target _ | .equals .. | .equalsRaw .. => True
  | .moveWithin array count .. | .copyFromRaw array count _ | .copyFromTracked array count ..
  | .clearSlice array count | .moveArray array _ count | .copyArrayFromRaw array count _
  | .copyArray array count .. | .clearArray array count => m.HoldsSlots array count

/-- The policy-driven copies into arrays of slots that belong to the card tables, whichever
allocator they lie in and whichever element type decides. -/
def MemoryCommand.Barriered (m : Memory) : MemoryCommand → Prop
  | .copyArray target dest destCount .. =>
    (∃ pointee, target.element = .tracked pointee .cardTable) ∧ m.HoldsSlots dest destCount
  | .copySlice _ element dest destCount .. =>
    (∃ pointee, element = .tracked pointee .cardTable) ∧ m.HoldsSlots dest destCount
  | .peek .. | .words .. | .writeBarrier .. => True
  | .poke .. | .pokeWords .. | .move .. | .zero .. => False

/-- The operations on memory that do not go behind the collector's back. -/
def StorageCommand.Barriered (m : Memory) : StorageCommand → Prop
  | .tracked manager c => manager = .cardTable ∧ c.Barriered m
  | .memory c => c.Barriered m
  | .plain _ | .field .. | .construct .. | .finish _ => False

section Congruence

variable {m m' : Memory} (hstart : m'.start = m.start) (hsize : m'.bytes.size = m.bytes.size)

include hstart hsize

theorem Memory.inAddressSpace_congr : m'.InAddressSpace ↔ m.InAddressSpace := by
  rw [InAddressSpace, InAddressSpace, hstart, hsize]

theorem Memory.holdsSlots_congr {array count : UInt64} :
    m'.HoldsSlots array count ↔ m.HoldsSlots array count := by
  rw [HoldsSlots, HoldsSlots, holds_congr hstart hsize]

theorem StorageCommand.barriered_congr (c : StorageCommand) : c.Barriered m' ↔ c.Barriered m := by
  have hslots : ∀ array count, m'.HoldsSlots array count ↔ m.HoldsSlots array count :=
    fun _ _ => Memory.holdsSlots_congr hstart hsize
  cases c with
  | tracked manager c => cases c <;> simp only [Barriered, TrackedCommand.Barriered, hslots]
  | memory c => cases c <;> simp only [Barriered, MemoryCommand.Barriered, hslots]
  | plain | field | construct | finish => exact Iff.rfl

end Congruence

namespace Effect

variable {m : Memory} {array count : UInt64}

theorem failed_reported (m : Memory) (failure : Failure) : (failed m failure).Reported m :=
  reported_of_eq rfl

theorem moveArray_reported (hspace : m.InAddressSpace) (hslots : m.HoldsSlots array count)
    (source : UInt64) : (Tracked.moveArray .cardTable m array source count).Reported m :=
  written_reported hspace hslots (m.written_move ..) _

theorem moveWithin_reported (hspace : m.InAddressSpace) (hslots : m.HoldsSlots array count)
    (start stop dest : UInt64) :
    (Tracked.moveWithin .cardTable m array count start stop dest).Reported m := by
  unfold Tracked.moveWithin
  cases hmove : Tracked.moveCount count start stop dest with
  | error failure => exact failed_reported m failure
  | ok moved =>
    exact moveArray_reported hspace (hslots.slotAt hspace (Tracked.moveCount_le hmove)) _

theorem copyArrayFromRaw_reported (hspace : m.InAddressSpace) (hslots : m.HoldsSlots array count)
    (source : List UInt64) :
    (Tracked.copyArrayFromRaw .cardTable m array count source).Reported m := by
  unfold Tracked.copyArrayFromRaw
  split
  · next hle =>
    have hwritten := (m.written_setWords array.toNat source).mono (Nat.mul_le_mul_left 8 hle)
    exact written_reported hspace hslots hwritten _
  · exact failed_reported m _

theorem copyArray_reported (hspace : m.InAddressSpace) (hslots : m.HoldsSlots array count)
    (source sourceCount : UInt64) :
    (Tracked.copyArray .cardTable m array count source sourceCount).Reported m := by
  unfold Tracked.copyArray
  split
  · next hle =>
    rw [UInt64.le_iff_toNat_le] at hle
    have hwritten := (m.written_move array.toNat source.toNat (Tracked.slotBytes sourceCount)).mono
      (Nat.mul_le_mul_left 8 hle)
    exact written_reported hspace hslots hwritten _
  · exact failed_reported m _

theorem tracked_reported (hspace : m.InAddressSpace) {c : TrackedCommand} (hc : c.Barriered m) :
    (c.perform .cardTable m).Reported m := by
  unfold TrackedCommand.perform
  cases c with
  | build | setUnbarriered => exact hc.elim
  | null slot => exact null_reported hc _
  | set slot pointer => exact set_reported hc pointer _
  | replace slot pointer => exact set_reported hc pointer _
  | assign slot source sourceManager => exact set_reported hc (m.word source.toNat) _
  | read | target | equals | equalsRaw => exact reported_of_eq rfl
  | moveWithin slice length start stop dest => exact moveWithin_reported hspace hc start stop dest
  | copyFromRaw slice length source =>
    dsimp only
    split
    · exact copyArrayFromRaw_reported hspace hc source
    · exact failed_reported m _
  | copyFromTracked slice length source sourceLength =>
    dsimp only
    split
    · exact copyArray_reported hspace hc source sourceLength
    · exact failed_reported m _
  | clearSlice slice length => exact clearArray_reported hc
  | moveArray dest source count => exact moveArray_reported hspace hc source
  | copyArrayFromRaw dest destCount source => exact copyArrayFromRaw_reported hspace hc source
  | copyArray dest destCount source sourceCount =>
    exact copyArray_reported hspace hc source sourceCount
  | clearArray dest count => exact clearArray_reported hc

/-- Slots that belong to the card tables report to them, whoever hands out their memory. -/
theorem bulk_copyArray_reported (hspace : m.InAddressSpace) {target : BulkTarget}
    (htarget : ∃ pointee, target.element = .tracked pointee .cardTable)
    (hslots : m.HoldsSlots array count) (source sourceCount : UInt64) :
    (Bulk.copyArray m target array count source sourceCount).Reported m := by
  obtain ⟨pointee, helement⟩ := htarget
  unfold Bulk.copyArray
  split
  · next hle =>
    rw [UInt64.le_iff_toNat_le] at hle
    have hbytes : Bulk.elementBytes target.element sourceCount = 8 * sourceCount.toNat :=
      Bulk.elementBytes_tracked helement sourceCount
    have hwritten := (m.written_move array.toNat source.toNat (8 * sourceCount.toNat)).mono
      (Nat.mul_le_mul_left 8 hle)
    rw [BulkTarget.report_of_tracked helement, hbytes]
    exact written_reported hspace hslots hwritten _
  · exact failed_reported m _

theorem memory_reported (hspace : m.InAddressSpace) {c : MemoryCommand} (hc : c.Barriered m) :
    (c.perform m).Reported m := by
  unfold MemoryCommand.perform
  cases c with
  | poke | pokeWords | move | zero => exact hc.elim
  | peek | words => exact reported_of_eq rfl
  | writeBarrier target address count =>
    dsimp only [written]
    split <;> exact reported_of_eq rfl
  | copyArray target dest destCount source sourceCount =>
    exact bulk_copyArray_reported hspace hc.1 hc.2 source sourceCount
  | copySlice allocator element dest destCount source sourceCount =>
    dsimp only
    split
    · exact bulk_copyArray_reported hspace hc.1 hc.2 source sourceCount
    · exact failed_reported m _

/-- An operation that does not go behind the collector's back changes an aligned word only to null,
or reports it. -/
theorem storage_reported (hspace : m.InAddressSpace) {c : StorageCommand} (hc : c.Barriered m) :
    (c.perform m).Reported m := by
  cases c with
  | tracked manager c =>
    obtain ⟨rfl, hc⟩ := hc
    exact tracked_reported hspace hc
  | memory c => exact memory_reported hspace hc
  | plain | field | construct | finish => exact hc.elim

end Effect

end WriteBarrier
