import WriteBarrier.Proofs.Machine.History
/-!
Diagnostics that watch and never act.

Main statement: two runs from states that agree, with settings changed at any point of either, and
with different counters, loggers and clocks, work alike: after the same work, memory and card tables
are the same, and every piece of work is answered in the same way, refusals and faults included.
-/

namespace WriteBarrier

namespace Command

/-- The command reads or changes settings and diagnostics, and does no work. -/
def isSetting : Command → Bool
  | .settings _ => true
  | .cards _ | .storage _ | .notify _ | .deliver _ => false

/-- The command makes a table whose card size is the configured one. -/
def readsConfig : Command → Bool
  | .cards (.makeActive _ _) => true
  | _ => false

/-- The work of a run: its commands without those on settings. -/
def work (cs : List Command) : List Command :=
  cs.filter fun c => !c.isSetting

theorem work_cons (c : Command) (rest : List Command) :
    work (c :: rest) = if c.isSetting then work rest else c :: work rest := by
  cases hsetting : c.isSetting <;> simp [work, hsetting]

theorem readsConfig_of_work_eq {cs cs' : List Command} (hwork : work cs' = work cs)
    (hcs : ∀ c ∈ cs, c.readsConfig = false) : ∀ c ∈ cs', c.readsConfig = false := by
  intro c hc
  cases hsetting : c.isSetting with
  | true =>
    cases c with
    | settings => rfl
    | cards | storage | notify | deliver => cases hsetting
  | false =>
    have hmem : c ∈ work cs' := List.mem_filter.mpr ⟨hc, by rw [hsetting]; rfl⟩
    rw [hwork] at hmem
    exact hcs c (List.mem_filter.mp hmem).1

end Command

namespace Machine

variable {s s' : Machine} {id : TableId}

/-- Two results that are the same, from states that agree afterwards. -/
structure SameResult {α : Type} (r r' : Machine × α) : Prop where
  agrees : Agrees r.1 r'.1
  answer_eq : r'.2 = r.2

theorem SameResult.exists_eq {α : Type} {r r' : Machine × α} (h : SameResult r r') :
    ∃ s s' answer, r = (s, answer) ∧ r' = (s', answer) ∧ Agrees s s' :=
  ⟨r.1, r'.1, r.2, rfl, Prod.ext rfl h.answer_eq, h.agrees⟩

theorem Agrees.sameResult {α : Type} (h : Agrees s s') (answer : α) :
    SameResult (s, answer) (s', answer) :=
  ⟨h, rfl⟩

theorem Agrees.withMemory (h : Agrees s s') (m : Memory) :
    Agrees { s with memory := m } { s' with memory := m } :=
  ⟨h.build_eq, rfl, h.registry_eq, h.calls_eq⟩

/-- Whatever either state notes of it, a new registry for both keeps them in agreement. -/
theorem Agrees.withRegistry (h : Agrees s s') (registry : Registry)
    (diagnostics diagnostics' : Diagnostics) :
    Agrees { s with registry, diagnostics } { s' with registry, diagnostics := diagnostics' } :=
  ⟨h.build_eq, h.memory_eq, rfl, h.calls_eq⟩

/-! ### Notifications -/

/-- A notification does the same to both states.  The registry alone decides whether it faults, so
no room for the cards is asked for here. -/
theorem Agrees.deliver (h : Agrees s s') (n : Notification) :
    SameResult (s.deliver n) (s'.deliver n) := by
  obtain ⟨manager, address, bytes⟩ := n
  cases manager with
  | discard => exact h.sameResult _
  | declared name =>
    simp only [Machine.deliver, h.calls_eq]
    exact ⟨⟨h.build_eq, h.memory_eq, h.registry_eq, rfl⟩, rfl⟩
  | cardTable =>
    simp only [Machine.deliver, h.registry_eq]
    rcases s.registry.record address bytes with ⟨registry, f | recorded⟩
    · exact (h.withRegistry registry _ _).sameResult _
    · exact (h.withRegistry registry _ _).sameResult _

theorem Agrees.notify (h : Agrees s s') (n : Notification) :
    SameResult (s.notify n) (s'.notify n) := by
  simp only [Machine.notify, h.build_eq]
  split
  · exact h.deliver n
  · exact h.sameResult _

theorem Agrees.notifyAll (h : Agrees s s') (ns : List Notification) :
    SameResult (s.notifyAll ns) (s'.notifyAll ns) := by
  induction ns generalizing s s' with
  | nil => exact h.sameResult _
  | cons n rest ih =>
    obtain ⟨s₁, s₁', answer, hone, hone', hagrees⟩ := (h.notify n).exists_eq
    simp only [Machine.notifyAll, hone, hone']
    rcases answer with f | _
    · exact hagrees.sameResult _
    · exact ih hagrees

theorem Agrees.absorb (h : Agrees s s') (e : Effect) : SameResult (s.absorb e) (s'.absorb e) := by
  obtain ⟨s₁, s₁', answer, hall, hall', hagrees⟩ :=
    ((h.withMemory e.memory).notifyAll e.notifications).exists_eq
  simp only [Machine.absorb, hall, hall']
  rcases answer with f | _
  · exact hagrees.sameResult _
  · exact hagrees.sameResult _

theorem SameResult.notified {r r' : Machine × Except Fault Unit} (h : SameResult r r') :
    SameResult (notified r) (Machine.notified r') := by
  obtain ⟨s, s', answer, rfl, rfl, hagrees⟩ := h.exists_eq
  rcases answer with f | _
  · exact hagrees.sameResult _
  · exact hagrees.sameResult _

/-! ### Card tables -/

theorem Agrees.withTable {act act' : CardTable → Machine × Outcome Answer} (h : Agrees s s')
    (hact : ∀ t, SameResult (act t) (act' t)) :
    SameResult (s.withTable id act) (s'.withTable id act') := by
  simp only [Machine.withTable, h.registry_eq]
  cases s.registry.get? id with
  | none => exact h.sameResult _
  | some t => exact hact t

theorem Agrees.keepTable (h : Agrees s s') (made : Except BarrierError CardTable) :
    SameResult (s.keepTable made) (s'.keepTable made) := by
  cases made with
  | error e => exact h.sameResult _
  | ok t =>
    simp only [Machine.keepTable, h.registry_eq]
    exact (h.withRegistry _ _ _).sameResult _

theorem Agrees.updateTable (h : Agrees s s') (t : CardTable) :
    Agrees (s.updateTable id t) (s'.updateTable id t) := by
  simp only [Machine.updateTable, h.registry_eq]
  exact h.withRegistry _ _ _

/-- The registration of a table is logged before it takes place, and it takes place whatever the
loggers make of it. -/
theorem Agrees.registerTable (h : Agrees s s') (t : CardTable) :
    SameResult (s.registerTable id t) (s'.registerTable id t) := by
  obtain ⟨diagnostics, hregister⟩ := s.registerTable_eq id t
  obtain ⟨diagnostics', hregister'⟩ := s'.registerTable_eq id t
  rw [hregister, hregister', h.registry_eq]
  exact (h.withRegistry _ _ _).sameResult _

theorem Agrees.unregisterTable (h : Agrees s s') (t : CardTable) :
    SameResult (s.unregisterTable id t) (s'.unregisterTable id t) := by
  cases hremoved : s.registry.unregister id with
  | none =>
    have hremoved' : s'.registry.unregister id = none := by rw [h.registry_eq, hremoved]
    rw [unregisterTable_eq_of_none hremoved, unregisterTable_eq_of_none hremoved', h.registry_eq]
    exact h.sameResult _
  | some registry =>
    have hremoved' : s'.registry.unregister id = some registry := by rw [h.registry_eq, hremoved]
    obtain ⟨diagnostics, hunregister⟩ := unregisterTable_eq_of_some hremoved t
    obtain ⟨diagnostics', hunregister'⟩ := unregisterTable_eq_of_some hremoved' t
    rw [hunregister, hunregister']
    exact (h.withRegistry registry _ _).sameResult _

/-- The table alone decides whether a drain comes to its end. -/
theorem Agrees.drainTable (h : Agrees s s') (t : CardTable) :
    SameResult (s.drainTable id t) (s'.drainTable id t) := by
  by_cases hdrainable : t.Drainable
  · obtain ⟨_, _, _, hdrain⟩ := s.drainTable_eq_of_drainable id hdrainable
    obtain ⟨_, _, _, hdrain'⟩ := s'.drainTable_eq_of_drainable id hdrainable
    rw [hdrain, hdrain', h.registry_eq]
    exact (h.withRegistry _ _ _).sameResult _
  · rw [drainTable_eq_of_not_drainable hdrainable, drainTable_eq_of_not_drainable hdrainable,
      h.registry_eq]
    exact (h.withRegistry _ _ _).sameResult _

theorem Agrees.cards (h : Agrees s s') {c : CardCommand}
    (hc : (Command.cards c).readsConfig = false) : SameResult (c.perform s) (c.perform s') := by
  cases c with
  | makeActive => cases hc
  | make | makeWith => exact h.keepTable _
  | register => exact h.withTable h.registerTable
  | unregister => exact h.withTable h.unregisterTable
  | drain => exact h.withTable h.drainTable
  | clear => exact h.withTable fun t => (h.updateTable t.clear).sameResult _
  | dirtyRange id address bytes =>
    apply h.withTable
    intro t
    rcases t.dirtyRange address bytes with failure | ⟨marked, fresh⟩
    · exact h.sameResult _
    · exact (h.updateTable marked).sameResult _
  | covers | isDirty | dirtyCount | dirtyCards | debug => exact h.withTable fun _ => h.sameResult _

/-! ### Runs -/

/-- A piece of work does the same to states that agree, and is answered in the same way. -/
theorem Agrees.step (h : Agrees s s') {c : Command} (hwork : c.isSetting = false)
    (hc : c.readsConfig = false) : SameResult (s.step c) (s'.step c) := by
  cases c with
  | settings => cases hwork
  | cards => exact h.cards hc
  | storage =>
    simp only [Machine.step, h.memory_eq]
    exact h.absorb _
  | notify n => exact (h.notify n).notified
  | deliver n => exact (h.deliver n).notified

/-- The work of a run, each piece with what it was answered. -/
def workAnswered (s : Machine) (cs : List Command) : List (Command × Outcome Answer) :=
  (s.answered cs).filter fun a => !a.1.isSetting

theorem workAnswered_cons (s : Machine) (c : Command) (rest : List Command) :
    s.workAnswered (c :: rest) =
      if c.isSetting then (s.step c).1.workAnswered rest
      else (c, (s.step c).2) :: (s.step c).1.workAnswered rest := by
  cases hsetting : c.isSetting <;> simp [workAnswered, answered_cons, hsetting]

/-- A run works as its bare work does, from any state that agrees.  The induction is on the run: a
command on settings keeps the states in agreement, and work keeps them so by being done to both. -/
theorem Agrees.run_work (h : Agrees s s') {cs : List Command}
    (hcs : ∀ c ∈ cs, c.readsConfig = false) :
    Agrees (s.run cs).1 (s'.run (Command.work cs)).1 ∧
      s'.answered (Command.work cs) = s.workAnswered cs := by
  induction cs generalizing s s' with
  | nil => exact ⟨h, rfl⟩
  | cons c rest ih =>
    obtain ⟨hc, hrest⟩ := List.forall_mem_cons.mp hcs
    rw [Command.work_cons, workAnswered_cons]
    cases hwork : c.isSetting with
    | true =>
      have hagrees : Agrees (s.step c).1 s' := by
        cases c with
        | settings cmd => exact (s.settings_agrees cmd).symm.trans h
        | cards | storage | notify | deliver => cases hwork
      exact ih hagrees hrest
    | false =>
      obtain ⟨hagrees, hanswer⟩ := h.step hwork hc
      obtain ⟨hend, hanswers⟩ := ih hagrees hrest
      refine ⟨hend, ?_⟩
      rw [if_neg Bool.false_ne_true, if_neg Bool.false_ne_true, answered_cons, hanswer, hanswers]

/-- Two runs with the same work. -/
theorem Agrees.run (h : Agrees s s') {cs cs' : List Command}
    (hwork : Command.work cs' = Command.work cs) (hcs : ∀ c ∈ cs, c.readsConfig = false) :
    Agrees (s.run cs).1 (s'.run cs').1 ∧ s'.workAnswered cs' = s.workAnswered cs := by
  obtain ⟨hbare, hanswers⟩ := h.run_work hcs
  obtain ⟨hbare', hanswers'⟩ :=
    (Agrees.refl s').run_work (Command.readsConfig_of_work_eq hwork hcs)
  rw [hwork] at hbare' hanswers'
  exact ⟨hbare.trans hbare'.symm, hanswers'.symm.trans hanswers⟩

/-- Diagnostics never influence what they watch.  Two runs from states that agree, which do the same
work and make no table of the configured card size, answer all of it alike; and wherever both have
done the same part of it, memory, card tables, registrations and the calls of managers are the same,
and so is what a drain reports before it is stopped, which hangs on its table alone.  Clocks,
counters, loggers and configurations may differ from the start, and be set and read at any point of
either run. -/
theorem run_of_work_eq {cs cs' : List Command} (h : Agrees s s')
    (hwork : Command.work cs' = Command.work cs) (hcs : ∀ c ∈ cs, c.readsConfig = false) :
    s'.workAnswered cs' = s.workAnswered cs ∧
      ∀ n n', Command.work (cs'.take n') = Command.work (cs.take n) →
        Agrees (s.run (cs.take n)).1 (s'.run (cs'.take n')).1 := by
  refine ⟨(h.run hwork hcs).2, ?_⟩
  intro n n' hpart
  exact (h.run hpart fun c hc => hcs c (List.mem_of_mem_take hc)).1

namespace Overlap

/-- A run that has made no table yet, with notifications uncounted so far and a logger that takes
every event as JSON. -/
def watched : Machine :=
  { fresh with
    clock := ⟨"12:00:00", 9⟩
    diagnostics :=
      { statsEnabled := false
        counters := ⟨7, 7, 7, 7⟩
        logger := { config := { level := .trace, json := true, timestamps := true } } } }

/-- The same work, with settings before each piece of it. -/
def interrupted : List Command :=
  commands.flatMap fun c =>
    [.settings .resetStatistics, .settings (.enableStatistics true),
      .settings (.configureLogger { level := .debug }), c]

end Overlap

/-- Both runs answer the same and dirty the same cards, though the second one counts from zero again
before each command. -/
theorem run_overlap_watched :
    Agrees Overlap.fresh Overlap.watched ∧
      Command.work Overlap.interrupted = Command.work Overlap.commands ∧
      (∀ c ∈ Overlap.commands, c.readsConfig = false) ∧
      (Overlap.watched.workAnswered Overlap.interrupted).map Prod.snd =
        (Overlap.fresh.run Overlap.commands).2 ∧
      (Overlap.watched.run Overlap.interrupted).1.registry =
        (Overlap.fresh.run Overlap.commands).1.registry ∧
      (Overlap.watched.run Overlap.interrupted).1.registry.Dirty 0 3 ∧
      (Overlap.watched.run Overlap.interrupted).1.diagnostics.counters ≠
        (Overlap.fresh.run Overlap.commands).1.diagnostics.counters := by
  have hagrees : Agrees Overlap.fresh Overlap.watched := ⟨rfl, rfl, rfl, rfl⟩
  have hwork : Command.work Overlap.interrupted = Command.work Overlap.commands := rfl
  have hcs : ∀ c ∈ Overlap.commands, c.readsConfig = false := by decide
  obtain ⟨hanswers, hstates⟩ := run_of_work_eq hagrees hwork hcs
  have hend := hstates 12 48 rfl
  refine ⟨hagrees, hwork, hcs, ?_, hend.registry_eq, ?_, ?_⟩
  · rw [hanswers]
    decide +kernel
  · decide +kernel
  · decide +kernel

end Machine

end WriteBarrier
