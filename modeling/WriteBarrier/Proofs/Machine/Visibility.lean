import WriteBarrier.Proofs.Machine.History
import WriteBarrier.Proofs.Storage.Reporting
/-!
What the collector can rely on.

Main statement: while a table is registered and nothing goes behind the collector's back, every slot
that has come to hold another pointer since the last drain of the table lies in dirty cards.
-/

namespace WriteBarrier

namespace Command

def drains (id : TableId) : Command → Bool
  | .cards (.drain other) => other == id
  | _ => false

/-- The command neither goes behind the collector's back nor forgets the table's dirty cards. -/
def Barriered (id : TableId) (m : Memory) : Command → Prop
  | .settings _ | .notify _ | .deliver _ => True
  | .cards c => c ≠ .clear id
  | .storage c => c.Barriered m

theorem drains_iff {id : TableId} {c : Command} :
    c.drains id = true ↔ c = .cards (.drain id) := by
  unfold drains
  split <;> simp_all

/-- A barriered command cleans a table only by draining it. -/
theorem Barriered.cleans_iff {id : TableId} {m : Memory} {c : Command} (h : c.Barriered id m) :
    c.Cleans id ↔ c.drains id = true := by
  rw [drains_iff, Cleans, or_iff_left_iff_imp]
  rintro rfl
  exact absurd rfl h

theorem barriered_congr {id : TableId} {m m' : Memory} (hstart : m'.start = m.start)
    (hsize : m'.bytes.size = m.bytes.size) (c : Command) :
    c.Barriered id m' ↔ c.Barriered id m := by
  cases c with
  | storage c => exact StorageCommand.barriered_congr hstart hsize c
  | settings | cards | notify | deliver => exact Iff.rfl

end Command

namespace Machine

variable {s : Machine} {id : TableId} {l : CardLayout} {since : Memory} {c : Command}

/-- The memory when the table was last drained in a run, and `since` where it was not. -/
def memoryAtDrain (id : TableId) (since : Memory) (s : Machine) : List Command → Memory
  | [] => since
  | c :: rest =>
    (s.step c).1.memoryAtDrain id (if c.drains id then s.memory else since) rest

/-- The collector can see every slot that has come to hold another pointer: all cards that it meets
are dirty. -/
structure Watches (s : Machine) (id : TableId) (l : CardLayout) (since : Memory) : Prop where
  notifies : s.build = .notifying
  inAddressSpace : s.memory.InAddressSpace
  layout_eq : s.registry.layout? id = some l
  dirty : ∀ slot, slot % 8 = 0 → s.memory.Holds slot 8 → s.memory.word slot ≠ 0 →
    s.memory.word slot ≠ since.word slot → ∀ card, l.Meets card slot 8 → s.registry.Dirty id card

/-- What a barriered command does to memory, and what it tells of it. -/
theorem memoryAfter_reported (hnotifies : s.build = .notifying)
    (hspace : s.memory.InAddressSpace) (hc : c.Barriered id s.memory) (outcome : Outcome Answer) :
    Effect.Reported ⟨s.memoryAfter c, s.notifications c, outcome⟩ s.memory := by
  cases c with
  | settings | cards | notify | deliver => exact Effect.reported_of_eq rfl
  | storage c =>
    obtain ⟨hstart, hsize, hwords⟩ := Effect.storage_reported hspace hc
    have hheard : s.notifications (.storage c) = (c.perform s.memory).notifications :=
      heard_of_notifying hnotifies _
    refine ⟨hstart, hsize, ?_⟩
    rw [hheard]
    exact hwords

/-- The cards of a reported slot are marked, if the table records. -/
theorem marks_of_reports {n : Notification} {slot card : Nat} (hn : n ∈ s.notifications c)
    (hreports : n.Reports slot) (hregistered : id ∈ s.registry.entries)
    (hlayout : s.registry.layout? id = some l) (hmeets : l.Meets card slot 8) :
    s.Marks id card c := by
  obtain ⟨hmanager, hlo, hhi⟩ := hreports
  exact Or.inl ⟨hregistered, n, hn, hmanager, l, hlayout, hmeets.mono hlo hhi⟩

/-- One barriered command keeps the collector informed. -/
theorem Watches.step (h : s.Watches id l since) (hfit : s.CardsFit)
    (hregistered : id ∈ s.registry.entries) (hc : c.Barriered id s.memory) :
    (s.step c).1.Watches id l (if c.drains id then s.memory else since) := by
  have hstep := step_advanced c hfit
  obtain ⟨hstart, hsize, hwords⟩ :=
    memoryAfter_reported h.notifies h.inAddressSpace hc (.ok .nothing)
  refine ⟨hstep.build_eq.trans h.notifies, ?_, hstep.layout_eq id l h.layout_eq, ?_⟩
  · rw [hstep.memory_eq]
    exact (Memory.inAddressSpace_congr hstart hsize).mpr h.inAddressSpace
  · intro slot haligned hheld hnonnull hchanged card hmeets
    rw [hstep.memory_eq] at hheld hnonnull hchanged
    have hheld : s.memory.Holds slot 8 := (Memory.holds_congr hstart hsize).mp hheld
    rw [hstep.dirty_iff]
    by_cases hdrains : c.drains id = true
    · -- a drain leaves memory alone, so no slot differs from what it was at the drain
      rw [if_pos hdrains] at hchanged
      obtain rfl := Command.drains_iff.mp hdrains
      exact absurd rfl hchanged
    · rw [if_neg hdrains] at hchanged
      rcases hwords slot haligned hheld with hsame | hnull | ⟨n, hn, hreports⟩
      · have hsame : (s.memoryAfter c).word slot = s.memory.word slot := hsame
        rw [hsame] at hnonnull hchanged
        have hdirty := h.dirty slot haligned hheld hnonnull hchanged card hmeets
        exact Or.inl ⟨hdirty, mt hc.cleans_iff.mp hdrains⟩
      · exact absurd hnull hnonnull
      · exact Or.inr (marks_of_reports hn hreports hregistered h.layout_eq hmeets)

theorem Watches.run {cs : List Command} (h : s.Watches id l since)
    (hfit : s.Throughout CardsFit cs)
    (hregistered : s.Throughout (fun s => id ∈ s.registry.entries) cs)
    (hcs : ∀ c ∈ cs, c.Barriered id s.memory) :
    (s.run cs).1.Watches id l (s.memoryAtDrain id since cs) := by
  induction cs generalizing s since with
  | nil => exact h
  | cons c rest ih =>
    obtain ⟨hc, hrest⟩ := List.forall_mem_cons.mp hcs
    obtain ⟨hstart, hsize, _⟩ :=
      memoryAfter_reported h.notifies h.inAddressSpace hc (.ok .nothing)
    rw [run_cons, memoryAtDrain]
    apply ih (h.step hfit.1 hregistered.1 hc) hfit.2 hregistered.2
    intro d hd
    rw [(step_advanced c hfit.1).memory_eq, Command.barriered_congr hstart hsize]
    exact hrest d hd

/-- No pointer store hides from the collector: in a build that notifies, while a table is registered
and every operation on tracked slots reports, a slot whose pointer is not null and not the one that
it held at the last drain of the table lies in dirty cards of the table. -/
theorem run_pointer_dirty {cs : List Command} {t : CardTable} (hnotifies : s.build = .notifying)
    (hspace : s.memory.InAddressSpace) (hget : s.registry.get? id = some t)
    (hfit : s.Throughout CardsFit cs)
    (hregistered : s.Throughout (fun s => id ∈ s.registry.entries) cs)
    (hcs : ∀ c ∈ cs, c.Barriered id s.memory) {slot : Nat} (haligned : slot % 8 = 0)
    (hheld : (s.run cs).1.memory.Holds slot 8) (hnonnull : (s.run cs).1.memory.word slot ≠ 0)
    (hchanged : (s.run cs).1.memory.word slot ≠ (s.memoryAtDrain id s.memory cs).word slot)
    {card : Nat} (hmeets : t.layout.Meets card slot 8) :
    (s.run cs).1.registry.Dirty id card := by
  have hstart : s.Watches id t.layout s.memory :=
    ⟨hnotifies, hspace, Registry.layout?_of_get? hget, fun _ _ _ _ hdiffers => absurd rfl hdiffers⟩
  have hrun := hstart.run hfit hregistered hcs
  exact hrun.dirty slot haligned hheld hnonnull hchanged card hmeets

namespace Overlap

/-- A pointer is stored and a table drained, pointers are copied into an array and the other table
drained, the pointer is copied on by a policy that asks for no barrier, and a slot is cleared. -/
def stores : List Command :=
  [.storage (.tracked .cardTable (.set 0x1008 0x1040)), .cards (.drain 0),
    .storage (.tracked .cardTable (.copyArrayFromRaw 0x1010 3 [0x1008, 0x1010])),
    .cards (.drain 1),
    .storage (.memory (.copyArray
      ⟨.ofTag .heap, .tracked (.scalar .uint64) .cardTable, .scalar .int32⟩ 0x1020 2 0x1008 1)),
    .storage (.tracked .cardTable (.clearArray 0x1010 1))]

end Overlap

theorem run_overlap_pointer_dirty :
    (∀ c ∈ Overlap.stores, c.Barriered 1 Overlap.machine.memory) ∧
      (Overlap.machine.run Overlap.stores).1.memory.word 0x1020 = 0x1040 ∧
      (Overlap.machine.memoryAtDrain 1 Overlap.machine.memory Overlap.stores).word 0x1020 = 0 ∧
      (Overlap.machine.run Overlap.stores).1.registry.Dirty 1 0 := by
  have hcs : ∀ c ∈ Overlap.stores, c.Barriered 1 Overlap.machine.memory := by
    have hfirst : Overlap.machine.memory.HoldsSlots 0x1008 1 := by decide +kernel
    have harray : Overlap.machine.memory.HoldsSlots 0x1010 3 := by decide +kernel
    have hcopy : Overlap.machine.memory.HoldsSlots 0x1020 2 := by decide +kernel
    have hclear : Overlap.machine.memory.HoldsSlots 0x1010 1 := by decide +kernel
    simp only [Overlap.stores, List.forall_mem_cons]
    exact ⟨⟨rfl, hfirst⟩, nofun, ⟨rfl, harray⟩, nofun, ⟨⟨_, rfl⟩, hcopy⟩, ⟨rfl, hclear⟩, nofun⟩
  have hnow : (Overlap.machine.run Overlap.stores).1.memory.word 0x1020 = 0x1040 := by
    decide +kernel
  have hthen : (Overlap.machine.memoryAtDrain 1 Overlap.machine.memory Overlap.stores).word 0x1020
      = 0 := by decide +kernel
  refine ⟨hcs, hnow, hthen, ?_⟩
  apply run_pointer_dirty rfl (by decide +kernel) rfl (by decide +kernel) (by decide +kernel) hcs
    (show 0x1020 % 8 = 0 from rfl) (by decide +kernel)
  · rw [hnow]
    decide
  · rw [hnow, hthen]
    decide
  · exact ⟨0x1020, by decide, by decide, by decide +kernel, by decide +kernel⟩

end Machine

end WriteBarrier
