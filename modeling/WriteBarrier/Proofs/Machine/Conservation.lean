import WriteBarrier.Proofs.Machine.Counting
import WriteBarrier.Proofs.Machine.History
import WriteBarrier.Proofs.Machine.Uncounted
/-!
Where dirty cards come from and where they go.

Main statement: at the end of a run, the cards that were counted and those that direct marking
returned are the cards that are dirty, those that drains returned and those that were cleared.
-/

namespace WriteBarrier

namespace Machine

variable {s s' : Machine}

/-- The number of cards that a marking or a drain returned, none where it failed. -/
def returnedCards : Outcome Answer → Nat
  | .ok (.count n) => n
  | .ok (.ranges rs) => rs.length
  | _ => 0

/-- The cards that a command returned for marking a range of a table itself. -/
def directlyMarked (s : Machine) : Command → Nat
  | .cards (.dirtyRange id address bytes) =>
    returnedCards (s.step (.cards (.dirtyRange id address bytes))).2
  | _ => 0

/-- The cards that a command returned for draining a table. -/
def drained (s : Machine) : Command → Nat
  | .cards (.drain id) => returnedCards (s.step (.cards (.drain id))).2
  | _ => 0

/-- The dirty cards that a command found in the table that it cleared. -/
def cleared (s : Machine) : Command → Nat
  | .cards (.clear id) => s.registry.dirtyCount id
  | _ => 0

/-- The sum over the commands of a run, each in the state that it meets. -/
def total (f : Machine → Command → Nat) (s : Machine) : List Command → Nat
  | [] => 0
  | c :: rest => f s c + (s.step c).1.total f rest

/-- The last card of every table ends before the address space does. -/
def CardsEnd (s : Machine) : Prop :=
  ∀ t ∈ s.registry.tables, t.layout.cardStart t.layout.cardCount < 2 ^ 64

instance (s : Machine) : Decidable s.CardsEnd :=
  inferInstanceAs (Decidable (∀ t ∈ s.registry.tables, _))

/-- Of the cards that became dirty from one state to the other, some were counted and `marked` were
not, and `cleaned` cards became clean. -/
def Balanced (s s' : Machine) (marked cleaned : Nat) : Prop :=
  ∃ counted,
    s'.diagnostics.counters.cardsDirtied =
      s.diagnostics.counters.cardsDirtied + UInt64.ofNat counted ∧
    s'.registry.dirtyTotal + cleaned = s.registry.dirtyTotal + counted + marked

theorem Balanced.of_counters {marked cleaned : Nat}
    (hcounters : s'.diagnostics.counters = s.diagnostics.counters)
    (htotal : s'.registry.dirtyTotal + cleaned = s.registry.dirtyTotal + marked) :
    Balanced s s' marked cleaned :=
  ⟨0, by rw [hcounters]; exact (UInt64.add_zero _).symm, htotal⟩

/-- Neither the counters move nor a card. -/
theorem Balanced.of_dirty_iff (hcounters : s'.diagnostics.counters = s.diagnostics.counters)
    (hdirty : ∀ id card, s'.registry.Dirty id card ↔ s.registry.Dirty id card) :
    Balanced s s' 0 0 :=
  .of_counters hcounters (Registry.dirtyTotal_congr hdirty)

theorem Balanced.trans {after : Machine} {marked cleaned marked' cleaned' : Nat}
    (h : Balanced s s' marked cleaned) (hrest : Balanced s' after marked' cleaned') :
    Balanced s after (marked + marked') (cleaned + cleaned') := by
  obtain ⟨first, hfirst, htotal⟩ := h
  obtain ⟨rest, hcounted, htotal'⟩ := hrest
  refine ⟨first + rest, ?_, by omega⟩
  rw [hcounted, hfirst, UInt64.ofNat_add, UInt64.add_assoc]

/-- Notifications are counted card by card. -/
theorem Counted.balanced {ns : List Notification} (h : Counted s s' ns) : Balanced s s' 0 0 := by
  refine ⟨(s.registry.newlyDirty s'.registry).card, h.cardsDirtied_eq, ?_⟩
  rw [Registry.dirtyTotal_eq_card, Registry.dirtyTotal_eq_card]
  exact (Registry.card_dirtyPairs_add_newlyDirty h.dirtyPairs_subset).symm

/-! ### One command -/

theorem settings_balanced {c : SettingsCommand} (hc : c ≠ .resetStatistics) (s : Machine) :
    Balanced s (c.perform s).1 0 0 := by
  apply Balanced.of_dirty_iff (counters_settings hc s)
  intro id card
  rw [(s.settings_agrees c).registry_eq]

theorem dirtyRange_balanced (s : Machine) (id : TableId) (address bytes : UInt64) :
    Balanced s (s.step (.cards (.dirtyRange id address bytes))).1
      (s.directlyMarked (.cards (.dirtyRange id address bytes))) 0 := by
  apply Balanced.of_counters (s.counters_cards _)
  rw [directlyMarked]
  rcases s.step_dirtyRange_cases id address bytes with
    ⟨failure, hstep⟩ | ⟨t, marked, fresh, hget, hstep, hmarked⟩
  · rw [hstep]
    rfl
  · have htotal := Registry.dirtyTotal_update hget marked
    rw [hmarked.dirtyCount_eq] at htotal
    rw [hstep]
    change (s.registry.update id marked).dirtyTotal + 0 = s.registry.dirtyTotal + fresh
    omega

/-- A command that cleans a table takes its dirty cards out of the total. -/
theorem dirtyTotal_withTable_clear {id : TableId} {act : CardTable → Machine × Outcome Answer}
    (hact : ∀ t, ∃ diagnostics,
      (act t).1 = { s with registry := s.registry.update id t.clear, diagnostics }) :
    (s.withTable id act).1.registry.dirtyTotal + s.registry.dirtyCount id =
      s.registry.dirtyTotal := by
  unfold withTable
  cases hget : s.registry.get? id with
  | none => rw [Registry.dirtyCount, hget]; rfl
  | some t =>
    obtain ⟨diagnostics, hact⟩ := hact t
    dsimp only
    rw [hact, Registry.dirtyCount_of_get? hget, Registry.dirtyTotal_update hget,
      CardTable.dirtyCount_clear, Nat.add_zero]

/-- A drain returns the number of dirty cards, if every card ends inside the address space. -/
theorem drained_eq (hend : s.CardsEnd) (id : TableId) :
    s.drained (.cards (.drain id)) = s.registry.dirtyCount id := by
  rw [drained]
  cases hget : s.registry.get? id with
  | none =>
    simp only [step, CardCommand.perform, withTable, hget, Registry.dirtyCount]
    rfl
  | some t =>
    have hdrainable : t.Drainable := Or.inl (hend t (Array.mem_of_getElem? hget))
    rw [step_drain_of_get? hget, drainTable_of_drainable hdrainable, returnedCards,
      CardTable.drain_of_drainable hdrainable, List.length_map, CardTable.length_dirtyCards,
      Registry.dirtyCount_of_get? hget]

theorem drain_balanced (hend : s.CardsEnd) (id : TableId) :
    Balanced s (s.step (.cards (.drain id))).1 0 (s.drained (.cards (.drain id))) := by
  apply Balanced.of_counters (s.counters_cards _)
  rw [drained_eq hend]
  exact dirtyTotal_withTable_clear (s.fst_drainTable id)

theorem clear_balanced (s : Machine) (id : TableId) :
    Balanced s (s.step (.cards (.clear id))).1 0 (s.cleared (.cards (.clear id))) := by
  apply Balanced.of_counters (s.counters_cards _)
  exact dirtyTotal_withTable_clear fun _ => ⟨s.diagnostics, rfl⟩

/-- A command on card tables moves as many cards as it returns or clears. -/
theorem cards_balanced (hend : s.CardsEnd) (c : CardCommand) :
    Balanced s (s.step (.cards c)).1 (s.directlyMarked (.cards c))
      (s.drained (.cards c) + s.cleared (.cards c)) := by
  cases c with
  | dirtyRange id address bytes => exact s.dirtyRange_balanced id address bytes
  | drain id => exact drain_balanced hend id
  | clear id =>
    have h := s.clear_balanced id
    rwa [← Nat.zero_add (s.cleared _)] at h
  | make | makeWith | makeActive | register | unregister | covers | isDirty | dirtyCount
  | dirtyCards | debug =>
    exact .of_dirty_iff (s.counters_cards _)
      fun _ _ => dirty_cards_iff (by simp [CardCommand.LeavesCards])

/-- What one command does to the balance, in a state that counts notifications. -/
theorem step_balanced (hfit : s.CardsFit) (hcounts : s.diagnostics.statsEnabled = true)
    (hend : s.CardsEnd) {c : Command} (hc : c ≠ .settings .resetStatistics) :
    Balanced s (s.step c).1 (s.directlyMarked c) (s.drained c + s.cleared c) := by
  cases c with
  | settings c => exact settings_balanced (fun h => hc (congrArg _ h)) s
  | cards c => exact cards_balanced hend c
  | storage c =>
    obtain ⟨s', habsorb, hcounted⟩ := absorb_counted (c.perform s.memory) hfit hcounts
    rw [step, habsorb]
    exact hcounted.balanced
  | notify n =>
    obtain ⟨s', hnotify, hcounted⟩ := notify_counted n hfit hcounts
    rw [step, hnotify]
    exact hcounted.balanced
  | deliver n =>
    obtain ⟨s', hdeliver, hcounted⟩ := deliver_counted n hfit hcounts
    rw [step, hdeliver]
    exact hcounted.balanced

/-! ### A run -/

theorem run_balanced {cs : List Command} (hfit : s.Throughout CardsFit cs)
    (hcounts : s.Throughout (fun s => s.diagnostics.statsEnabled = true) cs)
    (hend : s.Throughout CardsEnd cs) (hcs : ∀ c ∈ cs, c ≠ .settings .resetStatistics) :
    Balanced s (s.run cs).1 (s.total directlyMarked cs)
      (s.total drained cs + s.total cleared cs) := by
  induction cs generalizing s with
  | nil => exact .of_counters rfl rfl
  | cons c rest ih =>
    obtain ⟨hc, hrest⟩ := List.forall_mem_cons.mp hcs
    have hone := step_balanced hfit.1 hcounts.1 hend.1 hc
    rw [run_cons, total, total, total, Nat.add_add_add_comm]
    exact hone.trans (ih hfit.2 hcounts.2 hend.2 hrest)

/-- No card is counted twice and none is dropped: from clean tables and zero counters on, while
notifications are counted, the cards that notifications counted and those that direct marking
returned are as many as the cards that are dirty in the end in any table, registered or not, those
that drains returned and those that were cleared. -/
theorem run_cards_conserved {cs : List Command} (hclean : ∀ id card, ¬s.registry.Dirty id card)
    (hzero : s.diagnostics.counters = {}) (hfit : s.Throughout CardsFit cs)
    (hcounts : s.Throughout (fun s => s.diagnostics.statsEnabled = true) cs)
    (hend : s.Throughout CardsEnd cs) (hcs : ∀ c ∈ cs, c ≠ .settings .resetStatistics) :
    (s.run cs).1.diagnostics.counters.cardsDirtied.toNat + s.total directlyMarked cs ≡
      (s.run cs).1.registry.dirtyTotal + s.total drained cs + s.total cleared cs [MOD 2 ^ 64] := by
  obtain ⟨counted, hcounted, htotal⟩ := run_balanced hfit hcounts hend hcs
  have hstart : s.registry.dirtyTotal = 0 := by
    rw [Registry.dirtyTotal_eq_card, Finset.card_eq_zero, Finset.eq_empty_iff_forall_notMem]
    rintro ⟨id, card⟩ hdirty
    exact hclean id card (Registry.mem_dirtyPairs.mp hdirty)
  have hword : (s.run cs).1.diagnostics.counters.cardsDirtied.toNat = counted % 2 ^ 64 := by
    rw [hcounted, hzero]
    exact (congrArg UInt64.toNat (UInt64.zero_add _)).trans UInt64.toNat_ofNat'
  calc (s.run cs).1.diagnostics.counters.cardsDirtied.toNat + s.total directlyMarked cs
      ≡ counted + s.total directlyMarked cs [MOD 2 ^ 64] := by
        rw [hword]
        exact (Nat.mod_modEq _ _).add_right _
    _ = (s.run cs).1.registry.dirtyTotal + s.total drained cs + s.total cleared cs := by omega

namespace Overlap

/-- A write marks the first table, which loses its entry while it is dirty; the second one never
records, and is marked, refuses a range, is drained, is marked again and cleared. -/
def exchanges : List Command :=
  [.cards (.make 0x1000 0x40 4), .cards (.make 0x1020 0x28 5), .cards (.register 0),
    .deliver ⟨.cardTable, 0x1008, 0x20⟩, .cards (.dirtyRange 1 0x1020 0x28),
    .cards (.dirtyRange 1 0x1000 8), .cards (.drain 1), .cards (.unregister 0),
    .cards (.dirtyRange 1 0x1040 8), .cards (.clear 1)]

end Overlap

theorem run_overlap_conserved :
    (∀ id card, ¬Overlap.fresh.registry.Dirty id card) ∧
      Overlap.fresh.Throughout CardsFit Overlap.exchanges ∧
      Overlap.fresh.Throughout CardsEnd Overlap.exchanges ∧
      (Overlap.fresh.run Overlap.exchanges).1.diagnostics.counters.cardsDirtied.toNat + 3 ≡
        3 + 2 + 1 [MOD 2 ^ 64] := by
  have hclean : ∀ id card, ¬Overlap.fresh.registry.Dirty id card :=
    fun _ _ => Registry.not_dirty_of_get?_none rfl
  have hfit : Overlap.fresh.Throughout CardsFit Overlap.exchanges := by decide +kernel
  have hend : Overlap.fresh.Throughout CardsEnd Overlap.exchanges := by decide +kernel
  have hmarked : Overlap.fresh.total directlyMarked Overlap.exchanges = 3 := by decide +kernel
  have hdirty : (Overlap.fresh.run Overlap.exchanges).1.registry.dirtyTotal = 3 := by
    decide +kernel
  have hdrained : Overlap.fresh.total drained Overlap.exchanges = 2 := by decide +kernel
  have hcleared : Overlap.fresh.total cleared Overlap.exchanges = 1 := by decide +kernel
  have hconserved := run_cards_conserved hclean rfl hfit (by decide +kernel) hend
    (by simp [Overlap.exchanges])
  rw [hmarked, hdirty, hdrained, hcleared] at hconserved
  exact ⟨hclean, hfit, hend, hconserved⟩

end Machine

end WriteBarrier
