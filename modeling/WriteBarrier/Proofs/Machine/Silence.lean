import WriteBarrier.Proofs.Machine.History
import WriteBarrier.Proofs.Storage.Managers
/-!
Runs of a build that drops every notification.

Main statement: operations on memory do the same to memory in both builds, and come to the same
outcomes, failures included; in the silent one they do nothing else.  The managers that they name
may differ from one build to the other, as the standard one does.
-/

namespace WriteBarrier

namespace Machine

variable {s on off : Machine} {c c' : StorageCommand} {cs cs' : List StorageCommand}

theorem notifyAll_of_silent (h : s.build = .silent) (ns : List Notification) :
    s.notifyAll ns = (s, .ok ()) := by
  induction ns with
  | nil => rfl
  | cons n rest ih =>
    have hnotify : s.notify n = (s, .ok ()) := by
      rw [notify, h]
      rfl
    simp only [notifyAll, hnotify, ih]

/-- A silent build takes over the memory of an operation and nothing else. -/
theorem absorb_of_silent (h : s.build = .silent) (e : Effect) :
    s.absorb e = ({ s with memory := e.memory }, e.outcome) := by
  have hall := notifyAll_of_silent (s := { s with memory := e.memory }) h e.notifications
  simp only [absorb, hall]

/-- The memory is the same; one state drops notifications and the other can take them all. -/
structure Mirrored (on off : Machine) : Prop where
  silent : off.build = .silent
  memory_eq : off.memory = on.memory
  fits : on.CardsFit

/-- One operation keeps the memory the same and comes to the same outcome. -/
theorem Mirrored.step (h : Mirrored on off) (hsame : c.SameButManagers c') :
    ∃ on' outcome, on.step (.storage c) = (on', outcome) ∧
      off.step (.storage c') = ({ off with memory := on'.memory }, outcome) ∧
      Mirrored on' { off with memory := on'.memory } := by
  obtain ⟨on', habsorb, hnotified⟩ := absorb_notified (c.perform on.memory) h.fits
  have hmemory : (c'.perform on.memory).memory = on'.memory :=
    (hsame.memory_eq on.memory).trans hnotified.memory_eq.symm
  refine ⟨on', (c.perform on.memory).outcome, habsorb, ?_, h.silent, rfl,
    hnotified.cardsFit (h.fits.withMemory _)⟩
  calc off.step (.storage c')
      = ({ off with memory := (c'.perform off.memory).memory }, (c'.perform off.memory).outcome) :=
        absorb_of_silent h.silent _
    _ = ({ off with memory := on'.memory }, (c.perform on.memory).outcome) := by
        rw [h.memory_eq, hmemory, hsame.outcome_eq]

/-- A run keeps the memory the same and comes to the same outcomes.  The induction is on the pairs
of operations. -/
theorem Mirrored.run (h : Mirrored on off)
    (hsame : List.Forall₂ StorageCommand.SameButManagers cs cs') :
    ∃ on' outcomes, on.run (cs.map .storage) = (on', outcomes) ∧
      off.run (cs'.map .storage) = ({ off with memory := on'.memory }, outcomes) := by
  induction hsame generalizing on off with
  | nil =>
    refine ⟨on, [], rfl, ?_⟩
    rw [← h.memory_eq]
    rfl
  | cons hfirst _ ih =>
    obtain ⟨on₁, outcome, hon, hoff, hmirrored⟩ := h.step hfirst
    obtain ⟨on₂, outcomes, hrest, hrest'⟩ := ih hmirrored
    refine ⟨on₂, outcome :: outcomes, ?_, ?_⟩
    · simp only [List.map_cons, Machine.run, hon, hrest]
    · simp only [List.map_cons, Machine.run, hoff, hrest']

/-- A run of operations on memory answers and fails in a silent build as it does in any other, and
leaves the same memory after every step.  The silent build keeps all else as it is: no card, no
counter and no manager learns of the run. -/
theorem run_storage_of_silent (hsilent : off.build = .silent) (hmemory : off.memory = on.memory)
    (hfit : on.CardsFit) (hsame : List.Forall₂ StorageCommand.SameButManagers cs cs') :
    (off.run (cs'.map .storage)).2 = (on.run (cs.map .storage)).2 ∧
      ∀ n, (off.run ((cs'.take n).map .storage)).1 =
        { off with memory := (on.run ((cs.take n).map .storage)).1.memory } := by
  have hmirrored : Mirrored on off := ⟨hsilent, hmemory, hfit⟩
  constructor
  · obtain ⟨on', outcomes, hon, hoff⟩ := hmirrored.run hsame
    rw [hon, hoff]
  · intro n
    obtain ⟨on', outcomes, hon, hoff⟩ := hmirrored.run (List.forall₂_take n hsame)
    rw [hon, hoff]

namespace Overlap

/-- Stores through the standard manager of a build; a report whose length is no word; and a whole
object. -/
def standardStores (b : Build) : List StorageCommand :=
  [.tracked (.standard b) (.set 0x1008 7),
    .field (.ofTag (.nonLeaf (.standard b))) (.set 0x1010 9),
    .memory (.writeBarrier (.plain (.ofTag (.managed (.standard b))) (.pointer (.scalar .uint64)))
      0x1000 0x2000000000000001),
    .finish ⟨.standard b, 0x1000, 0x40⟩]

/-- The two tables in a build that does not notify. -/
def silent : Machine :=
  { machine with build := .silent }

end Overlap

theorem run_overlap_silent :
    Overlap.silent.build = .silent ∧ Overlap.silent.memory = Overlap.machine.memory ∧
      Overlap.machine.CardsFit ∧
      List.Forall₂ StorageCommand.SameButManagers (Overlap.standardStores .notifying)
        (Overlap.standardStores .silent) ∧
      (Overlap.silent.run ((Overlap.standardStores .silent).map .storage)).2 =
        [.ok .nothing, .ok (.fieldPointer 9 true), .error (.fault .mulOverflow), .ok .nothing] ∧
      (Overlap.silent.run ((Overlap.standardStores .silent).map .storage)).1.registry =
        Overlap.machine.registry ∧
      (Overlap.machine.run
        ((Overlap.standardStores .notifying).map .storage)).1.registry.Dirty 0 3 := by
  have hsilent : Overlap.silent.build = .silent := rfl
  have hmemory : Overlap.silent.memory = Overlap.machine.memory := rfl
  have hfit : Overlap.machine.CardsFit := by decide +kernel
  have hsame : List.Forall₂ StorageCommand.SameButManagers (Overlap.standardStores .notifying)
      (Overlap.standardStores .silent) := by decide +kernel
  obtain ⟨houtcomes, hstates⟩ := run_storage_of_silent hsilent hmemory hfit hsame
  have hlast : (Overlap.silent.run ((Overlap.standardStores .silent).map .storage)).1 = _ :=
    hstates 4
  refine ⟨hsilent, hmemory, hfit, hsame, ?_, ?_, by decide +kernel⟩
  · rw [houtcomes]
    decide +kernel
  · rw [hlast]
    rfl

end Machine

end WriteBarrier
