import WriteBarrier.Machine.Run
import WriteBarrier.Proofs.Registry.Recording
/-!
What a notification does to the state of a run.

Main statements: where the registered tables have fewer cards together than a word can count, no
notification faults; a notification of the card tables is accounted for exactly, at every address;
and the notifications of an operation on memory dirty exactly the cards of registered tables that they
meet.
-/

namespace WriteBarrier

/-- A note of a notification in one equation: the counters move only while notifications are
counted, and the record of an uncovered byte is sent in any case. -/
theorem Diagnostics.noteNotification_eq (d : Diagnostics) (address bytes : UInt64)
    (recorded : Registry.Recorded) :
    d.noteNotification address bytes recorded =
      { d with
        counters :=
          if d.statsEnabled then
            { notifyCalls := d.counters.notifyCalls + 1
              bytesNotified := d.counters.bytesNotified + bytes
              cardsDirtied := d.counters.cardsDirtied + recorded.cards
              unrecordedWrites := d.counters.unrecordedWrites +
                if recorded.covered < bytes then 1 else 0 }
          else d.counters
        records := d.records ++
          if recorded.covered < bytes then [unrecorded address bytes recorded.covered]
          else [] } := by
  obtain ⟨statsEnabled, counters, logger, records⟩ := d
  by_cases hlt : recorded.covered < bytes
  · cases statsEnabled <;>
      simp [noteNotification, countNotification, emit, Counters.recordNotify,
        Counters.recordUnrecorded, hlt]
  · cases statsEnabled <;>
      simp [noteNotification, countNotification, Counters.recordNotify, hlt]

/-- The table records, and a notification of the card tables has a byte in the card. -/
def Registry.MarkedBy (r : Registry) (ns : List Notification) (id : TableId) (card : Nat) : Prop :=
  id ∈ r.entries ∧ ∃ n ∈ ns,
    n.manager = .cardTable ∧ r.Meets id card n.address.toNat n.bytes.toNat

theorem Registry.markedBy_singleton_iff {r : Registry} {n : Notification} {id : TableId}
    {card : Nat} : r.MarkedBy [n] id card ↔
      id ∈ r.entries ∧ n.manager = .cardTable ∧ r.Meets id card n.address.toNat n.bytes.toNat := by
  simp [MarkedBy]

/-- Neither the order of the notifications matters to the cards that they mark, nor the order or
the repetition of the entries. -/
theorem Registry.markedBy_congr {r r' : Registry} {ns ns' : List Notification} {id : TableId}
    {card : Nat} (hentries : ∀ id, id ∈ r'.entries ↔ id ∈ r.entries)
    (hlayouts : r'.layouts = r.layouts) (hns : ∀ n, n ∈ ns' ↔ n ∈ ns) :
    r'.MarkedBy ns' id card ↔ r.MarkedBy ns id card := by
  simp only [MarkedBy, hentries, meets_congr hlayouts, hns]

namespace Machine

variable {s s' : Machine}

/-- The registered tables have fewer cards together than a word can count. -/
def CardsFit (s : Machine) : Prop :=
  s.registry.registeredCards < 2 ^ 64

instance (s : Machine) : Decidable s.CardsFit :=
  inferInstanceAs (Decidable (_ < _))

theorem CardsFit.withMemory (h : s.CardsFit) (m : Memory) : CardsFit { s with memory := m } :=
  h

/-- A write is handed to the card tables without a fault. -/
theorem deliver_cardTable (address bytes : UInt64) (hfit : s.CardsFit) :
    ∃ marked recorded,
      s.deliver ⟨.cardTable, address, bytes⟩ =
        ({ s with
            registry := marked
            diagnostics := s.diagnostics.noteNotification address bytes recorded }, .ok ()) ∧
      Registry.Marked s.registry marked s.registry.entries address.toNat bytes.toNat ∧
      recorded.cards.toNat = (s.registry.newlyDirty marked).card ∧
      recorded.covered.toNat = (s.registry.coveredSet address.toNat bytes.toNat).card := by
  obtain ⟨marked, recorded, hrecord, hmarked, hcards, hcovered⟩ :=
    Registry.record_eq_ok s.registry address bytes hfit
  refine ⟨marked, recorded, ?_, hmarked, hcards, hcovered⟩
  simp only [deliver, hrecord]

theorem covered_lt_iff {recorded : Registry.Recorded} {r : Registry} {address bytes : UInt64}
    (h : recorded.covered.toNat = (r.coveredSet address.toNat bytes.toNat).card) :
    recorded.covered < bytes ↔ r.Uncovered address.toNat bytes.toNat := by
  rw [UInt64.lt_iff_toNat_lt, h, Registry.card_coveredSet_lt_iff]

/-- One notification of the card tables is accounted for exactly: one call, its bytes, the cards
that it took from clean to dirty in any table, each once, and one unrecorded write if one of its
bytes lies in no registered table.  An uncovered byte is told of whether or not notifications are
counted. -/
theorem deliver_accounting (s : Machine) (address bytes : UInt64) (hfit : s.CardsFit) :
    ∃ s', s.deliver ⟨.cardTable, address, bytes⟩ = (s', .ok ()) ∧
      s'.diagnostics =
        { s.diagnostics with
          counters :=
            if s.diagnostics.statsEnabled then
              { notifyCalls := s.diagnostics.counters.notifyCalls + 1
                bytesNotified := s.diagnostics.counters.bytesNotified + bytes
                cardsDirtied := s.diagnostics.counters.cardsDirtied +
                  UInt64.ofNat (s.registry.newlyDirty s'.registry).card
                unrecordedWrites := s.diagnostics.counters.unrecordedWrites +
                  if s.registry.Uncovered address.toNat bytes.toNat then 1 else 0 }
            else s.diagnostics.counters
          records := s.diagnostics.records ++
            if s.registry.Uncovered address.toNat bytes.toNat then
              [{ level := .trace
                 target := "fwb::barrier::card_table"
                 message := "Unrecorded write barrier: " ++ Text.hex address ++ "+" ++
                   Text.decimal bytes ++ " (" ++ Text.decimal (UInt64.ofNat
                     (s.registry.coveredSet address.toNat bytes.toNat).card) ++
                   " bytes covered)" }]
            else [] } := by
  obtain ⟨marked, recorded, hdeliver, _, hcards, hcovered⟩ := deliver_cardTable address bytes hfit
  refine ⟨_, hdeliver, ?_⟩
  have huncovered := covered_lt_iff hcovered
  dsimp only
  rw [Diagnostics.noteNotification_eq, ← hcards, ← hcovered, UInt64.ofNat_toNat,
    UInt64.ofNat_toNat]
  simp only [huncovered]
  rfl

namespace Overlap

/-- Sixty-four bytes in cards of sixteen. -/
def low : CardLayout :=
  ⟨0x1000, 0x40, 4, by decide, by decide, by decide, by decide, by decide⟩

/-- Forty bytes in cards of thirty-two, which start in the middle of the other table. -/
def high : CardLayout :=
  ⟨0x1020, 0x28, 5, by decide, by decide, by decide, by decide, by decide⟩

/-- Two tables that overlap, of which the first records twice. -/
def machine : Machine where
  build := .notifying
  clock := ⟨"", 0⟩
  memory := .zeroed 0x1000 0x80
  registry := ⟨#[.clean low, .clean high], [0, 1, 0]⟩

/-- A manager that the user declares. -/
def recorder : Manager :=
  .declared "recorder"

end Overlap

theorem deliver_accounting_overlap :
    Overlap.machine.CardsFit ∧
      ∃ s', Overlap.machine.deliver ⟨.cardTable, 0x1018, 0x40⟩ = (s', .ok ()) ∧
        s'.diagnostics.counters = ⟨1, 64, 5, 1⟩ := by
  have hfit : Overlap.machine.CardsFit := by decide +kernel
  obtain ⟨s', hdeliver, hdiagnostics⟩ := deliver_accounting Overlap.machine 0x1018 0x40 hfit
  obtain rfl : (Overlap.machine.deliver ⟨.cardTable, 0x1018, 0x40⟩).1 = s' := by rw [hdeliver]
  refine ⟨hfit, _, hdeliver, ?_⟩
  rw [hdiagnostics]
  decide +kernel

/-! ### The notifications of a command -/

/-- The notifications that a build hands on. -/
def heard (s : Machine) (ns : List Notification) : List Notification :=
  if s.build.notifies then ns else []

theorem heard_of_notifying (h : s.build = .notifying) (ns : List Notification) :
    s.heard ns = ns := by
  rw [heard, h]
  rfl

theorem heard_nil : s.heard [] = [] := by
  unfold heard
  split <;> rfl

theorem heard_append (first rest : List Notification) :
    s.heard (first ++ rest) = s.heard first ++ s.heard rest := by
  unfold heard
  split <;> rfl

theorem notify_of_notifying (h : s.build = .notifying) (n : Notification) :
    s.notify n = s.deliver n := by
  rw [notify, h]
  rfl

theorem fst_notified (result : Machine × Except Fault Unit) : (notified result).1 = result.1 := by
  rcases result with ⟨s, f | _⟩
  · rfl
  · rfl

theorem fst_absorb (s : Machine) (e : Effect) :
    (s.absorb e).1 = ({ s with memory := e.memory }.notifyAll e.notifications).1 := by
  unfold absorb
  rcases notifyAll { s with memory := e.memory } e.notifications with ⟨s₁, f | _⟩
  · rfl
  · rfl

/-- An operation with one report leaves its memory behind and notifies the manager of the report. -/
theorem absorb_singleton (s : Machine) (m : Memory) (n : Notification) :
    s.absorb ⟨m, [n], .ok .nothing⟩ = notified ({ s with memory := m }.notify n) := by
  simp only [absorb, notifyAll]
  generalize Machine.notify { s with memory := m } n = result
  obtain ⟨s', f | _⟩ := result
  · rfl
  · rfl

/-- An operation with one report, in a build that notifies, hands the report to its manager. -/
theorem absorb_report (hnotifies : s.build = .notifying) (m : Memory) (n : Notification) :
    s.absorb ⟨m, [n], .ok .nothing⟩ = notified ({ s with memory := m }.deliver n) := by
  rw [absorb_singleton, notify_of_notifying (s := { s with memory := m }) hnotifies]

/-- `s'` is the state after some notifications reached their managers. -/
structure Notified (s s' : Machine) (ns : List Notification) : Prop where
  build_eq : s'.build = s.build
  memory_eq : s'.memory = s.memory
  entries_eq : s'.registry.entries = s.registry.entries
  layouts_eq : s'.registry.layouts = s.registry.layouts
  dirty_iff : ∀ id card, s'.registry.Dirty id card ↔
    s.registry.Dirty id card ∨ s.registry.MarkedBy ns id card

theorem Notified.silent (hbuild : s'.build = s.build) (hmemory : s'.memory = s.memory)
    (hregistry : s'.registry = s.registry) : Notified s s' [] where
  build_eq := hbuild
  memory_eq := hmemory
  entries_eq := by rw [hregistry]
  layouts_eq := by rw [hregistry]
  dirty_iff id card := by simp [hregistry, Registry.MarkedBy]

theorem Notified.trans {after : Machine} {first rest : List Notification}
    (h : Notified s s' first) (hrest : Notified s' after rest) :
    Notified s after (first ++ rest) where
  build_eq := hrest.build_eq.trans h.build_eq
  memory_eq := hrest.memory_eq.trans h.memory_eq
  entries_eq := hrest.entries_eq.trans h.entries_eq
  layouts_eq := hrest.layouts_eq.trans h.layouts_eq
  dirty_iff id card := by
    simp only [hrest.dirty_iff, h.dirty_iff, Registry.MarkedBy, h.entries_eq,
      Registry.meets_congr h.layouts_eq, List.mem_append, or_and_right, exists_or, and_or_left,
      or_assoc]

theorem Notified.mem_entries_iff {ns : List Notification} (h : Notified s s' ns) (id : TableId) :
    id ∈ s'.registry.entries ↔ id ∈ s.registry.entries := by
  rw [h.entries_eq]

theorem Notified.cardsFit {ns : List Notification} (h : Notified s s' ns) (hfit : s.CardsFit) :
    s'.CardsFit := by
  rw [CardsFit, Registry.registeredCards_congr h.mem_entries_iff h.layouts_eq]
  exact hfit

/-- A notification reaches its manager without a fault. -/
theorem deliver_notified (n : Notification) (hfit : s.CardsFit) :
    ∃ s', s.deliver n = (s', .ok ()) ∧ Notified s s' [n] := by
  obtain ⟨manager, address, bytes⟩ := n
  cases manager with
  | declared name => exact ⟨_, rfl, rfl, rfl, rfl, rfl, by simp [Registry.MarkedBy]⟩
  | discard => exact ⟨s, rfl, rfl, rfl, rfl, rfl, by simp [Registry.MarkedBy]⟩
  | cardTable =>
    obtain ⟨marked, recorded, hdeliver, hmarked, _, _⟩ := deliver_cardTable address bytes hfit
    refine ⟨_, hdeliver, rfl, rfl, hmarked.entries_eq, hmarked.layouts_eq, ?_⟩
    intro id card
    rw [hmarked.dirty_iff]
    simp [Registry.MarkedBy]

theorem notify_notified (n : Notification) (hfit : s.CardsFit) :
    ∃ s', s.notify n = (s', .ok ()) ∧ Notified s s' (s.heard [n]) := by
  unfold notify heard
  split
  · exact deliver_notified n hfit
  · exact ⟨s, rfl, .silent rfl rfl rfl⟩

theorem snd_notified_notify (n : Notification) (hfit : s.CardsFit) :
    (notified (s.notify n)).2 = .ok .nothing := by
  obtain ⟨s', hnotify, _⟩ := notify_notified n hfit
  rw [hnotify]
  rfl

theorem notifyAll_notified (ns : List Notification) (hfit : s.CardsFit) :
    ∃ s', s.notifyAll ns = (s', .ok ()) ∧ Notified s s' (s.heard ns) := by
  induction ns generalizing s with
  | nil =>
    rw [heard_nil]
    exact ⟨s, rfl, .silent rfl rfl rfl⟩
  | cons n rest ih =>
    obtain ⟨s₁, hone, hnotified⟩ := notify_notified n hfit
    obtain ⟨s₂, hrest, hnotified_rest⟩ := ih (hnotified.cardsFit hfit)
    refine ⟨s₂, ?_, ?_⟩
    · simp only [notifyAll, hone, hrest]
    · have hheard : s₁.heard rest = s.heard rest := by rw [heard, heard, hnotified.build_eq]
      rw [← List.singleton_append, heard_append, ← hheard]
      exact hnotified.trans hnotified_rest

/-- An operation on memory comes to its own outcome: its memory is taken over and its notifications
reach their managers. -/
theorem absorb_notified (e : Effect) (hfit : s.CardsFit) :
    ∃ s', s.absorb e = (s', e.outcome) ∧
      Notified { s with memory := e.memory } s' (s.heard e.notifications) := by
  obtain ⟨s', hall, hnotified⟩ :=
    notifyAll_notified (s := { s with memory := e.memory }) e.notifications hfit
  refine ⟨s', ?_, hnotified⟩
  simp only [absorb, hall]

end Machine

end WriteBarrier
