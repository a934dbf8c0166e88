import WriteBarrier.Proofs.Log.Forwarding
import Mathlib.Data.List.Forall2
import Mathlib.Data.List.Induction
/-!
What a logger keeps and what it forwards, told from its operations alone.

Main statement: an event is accepted where the last switch before it was on and the level admits
it.  The logger forwards one record for each accepted event, or none at all, and keeps the accepted
events that no clear follows.
-/

namespace WriteBarrier

/-- The events that a level lets through. -/
def LogLevel.admits : LogLevel → BarrierEvent → Bool
  | .error, _ => false
  | .warn, .rejected _ => true
  | .warn, _ => false
  | .info, .scanned .. | .info, .statistics _ => false
  | .info, _ => true
  | .debug, .statistics _ => false
  | .debug, _ => true
  | .trace, _ => true

/-- The position of the switch after an operation that sets it. -/
def LoggerCommand.switch? : LoggerCommand → Option Bool
  | .enable => some true
  | .disable => some false
  | .log _ | .clear => none

namespace Logger

variable {config : LoggerConfig} {level : LogLevel} {steps : List (Clock × LoggerCommand)}
  {clock : Clock} {c : LoggerCommand} {e : BarrierEvent} {i : Nat}
  {pairs pairs' : List (Clock × BarrierEvent)} {records records' : List LogRecord}

/-- Whether the last of the operations that set the switch turned it on.  A new logger is on. -/
def switchedOn (steps : List (Clock × LoggerCommand)) : Bool :=
  (steps.filterMap fun step => step.2.switch?).getLast?.getD true

/-- The event that an operation logs after others and the time at which it does, if the switch is on
and the level admits the event. -/
def admitted? (level : LogLevel) (before : List (Clock × LoggerCommand)) :
    Clock × LoggerCommand → Option (Clock × BarrierEvent)
  | (clock, .log e) => if switchedOn before && level.admits e then some (clock, e) else none
  | _ => none

/-- What the operation at a position admits. -/
def admittedAt (level : LogLevel) (steps : List (Clock × LoggerCommand)) (i : Nat) :
    Option (Clock × BarrierEvent) :=
  steps[i]?.bind (admitted? level (steps.take i))

/-- All admitted events of the operations, in order. -/
def admitted (level : LogLevel) (steps : List (Clock × LoggerCommand)) :
    List (Clock × BarrierEvent) :=
  (List.range steps.length).filterMap (admittedAt level steps)

/-- The admitted events that no clear follows. -/
def admittedSinceClear (level : LogLevel) (steps : List (Clock × LoggerCommand)) :
    List (Clock × BarrierEvent) :=
  (List.range steps.length).filterMap fun i =>
    if .clear ∈ (steps.drop (i + 1)).map Prod.snd then none else admittedAt level steps i

/-- The record tells of the event as the configuration asks for it. -/
structure Tells (config : LoggerConfig) (logged : Clock × BarrierEvent) (record : LogRecord) :
    Prop where
  level_eq : record.level = logged.2.level
  target_eq : record.target = "fwb"
  message_eq : ∃ text,
    (if config.json then logged.2.json = text else logged.2.human = .ok text) ∧
    record.message = if config.timestamps then "[" ++ logged.1.stamp ++ "] " ++ text else text

/-- One record for each event, in order, where the configuration forwards, and else none. -/
def Relays (config : LoggerConfig) (pairs : List (Clock × BarrierEvent))
    (records : List LogRecord) : Prop :=
  if config.console then List.Forall₂ (Tells config) pairs records else records = []

theorem relays_nil : Relays config [] [] := by
  unfold Relays
  split
  · exact .nil
  · rfl

theorem Relays.append (h : Relays config pairs records) (h' : Relays config pairs' records') :
    Relays config (pairs ++ pairs') (records ++ records') := by
  unfold Relays at *
  split at h
  · next hconsole =>
    rw [if_pos hconsole] at h' ⊢
    exact List.rel_append h h'
  · next hconsole =>
    rw [if_neg hconsole] at h' ⊢
    rw [h, h', List.append_nil]

/-! ### One operation -/

theorem accepts_eq_admits (l : Logger) (e : BarrierEvent) :
    l.accepts e = (l.enabled && l.config.level.admits e) := by
  rw [accepts]
  congr 1
  cases l.config.level <;> cases e <;> rfl

/-- The console decides whether there is a record, the other settings what it says. -/
theorem exists_forward_relays (config : LoggerConfig) (clock : Clock) (h : e.InRange) :
    ∃ records, forward config clock e = .ok records ∧ Relays config [(clock, e)] records := by
  unfold forward Relays
  split
  · obtain ⟨text, htext⟩ : ∃ text, body config e = .ok text := by
      unfold body
      split
      · exact ⟨_, rfl⟩
      · exact e.exists_human h
    rw [htext]
    refine ⟨_, rfl, .cons ⟨rfl, rfl, text, ?_, rfl⟩ .nil⟩
    unfold body at htext
    split at htext
    · next hjson =>
      rw [if_pos hjson]
      exact Except.ok.inj htext
    · next hjson =>
      rw [if_neg hjson]
      exact htext
  · exact ⟨_, rfl, rfl⟩

theorem perform_log_relays (l : Logger) (clock : Clock) (h : e.InRange) :
    ∃ records,
      l.perform clock (.log e) =
        ({ l with events := if l.accepts e then l.events ++ [e] else l.events }, .ok records) ∧
      Relays l.config (if l.accepts e then [(clock, e)] else []) records := by
  obtain ⟨records, hforward, hrelays⟩ := exists_forward_relays l.config clock h
  by_cases haccepts : l.accepts e = true
  · refine ⟨records, ?_, ?_⟩
    · simp only [perform, log, haccepts, hforward, if_true]
    · rwa [if_pos haccepts]
  · refine ⟨[], ?_, ?_⟩
    · simp only [perform, log, haccepts, if_false, Bool.false_eq_true]
    · rw [if_neg haccepts]
      exact relays_nil

theorem perform_of_switch {on : Bool} (l : Logger) (clock : Clock) (h : c.switch? = some on) :
    l.perform clock c = ({ l with enabled := on }, .ok []) := by
  cases c with
  | log e | clear => cases h
  | enable | disable =>
    obtain rfl := Option.some.inj h
    rfl

theorem run_concat (l : Logger) (steps : List (Clock × LoggerCommand)) (clock : Clock)
    (c : LoggerCommand) : l.run (steps ++ [(clock, c)]) =
      (((l.run steps).1.perform clock c).1,
        (l.run steps).2 ++ [((l.run steps).1.perform clock c).2]) := by
  induction steps generalizing l with
  | nil => rfl
  | cons step rest ih => simp only [List.cons_append, run, ih]

/-! ### One operation more

The operations so far are a prefix of the run, and so they are what decides about an operation. -/

theorem filterMap_range_succ {α : Type} (f : Nat → Option α) (n : Nat) :
    (List.range (n + 1)).filterMap f = (List.range n).filterMap f ++ (f n).toList := by
  rw [List.range_succ, List.filterMap_append]
  cases h : f n <;> simp [h]

theorem switchedOn_concat (steps : List (Clock × LoggerCommand)) (clock : Clock)
    (c : LoggerCommand) :
    switchedOn (steps ++ [(clock, c)]) = c.switch?.getD (switchedOn steps) := by
  cases c <;> simp [switchedOn, LoggerCommand.switch?, List.filterMap_append]

theorem admittedAt_concat (h : i < steps.length) (step : Clock × LoggerCommand) :
    admittedAt level (steps ++ [step]) i = admittedAt level steps i := by
  rw [admittedAt, admittedAt, List.getElem?_append_left h,
    List.take_append_of_le_length (Nat.le_of_lt h)]

theorem admittedAt_concat_length (level : LogLevel) (steps : List (Clock × LoggerCommand))
    (step : Clock × LoggerCommand) :
    admittedAt level (steps ++ [step]) steps.length = admitted? level steps step := by
  simp [admittedAt]

theorem admitted_concat (level : LogLevel) (steps : List (Clock × LoggerCommand))
    (step : Clock × LoggerCommand) : admitted level (steps ++ [step]) =
      admitted level steps ++ (admitted? level steps step).toList := by
  have hbefore : (List.range steps.length).filterMap (admittedAt level (steps ++ [step])) =
      admitted level steps :=
    List.filterMap_congr fun i hi => admittedAt_concat (List.mem_range.mp hi) step
  rw [admitted, List.length_append, List.length_singleton, filterMap_range_succ, hbefore,
    admittedAt_concat_length]

theorem admittedSinceClear_concat_of_ne (level : LogLevel) (steps : List (Clock × LoggerCommand))
    (clock : Clock) (hc : c ≠ .clear) : admittedSinceClear level (steps ++ [(clock, c)]) =
      admittedSinceClear level steps ++ (admitted? level steps (clock, c)).toList := by
  have hbefore : ∀ i ∈ List.range steps.length,
      (if .clear ∈ ((steps ++ [(clock, c)]).drop (i + 1)).map Prod.snd then none
        else admittedAt level (steps ++ [(clock, c)]) i) =
      if .clear ∈ (steps.drop (i + 1)).map Prod.snd then none else admittedAt level steps i := by
    intro i hi
    have hlt := List.mem_range.mp hi
    rw [List.drop_append_of_le_length hlt, admittedAt_concat hlt]
    simp [Ne.symm hc]
  have hlast : (steps ++ [(clock, c)]).drop (steps.length + 1) = [] :=
    List.drop_eq_nil_of_le (by simp)
  rw [admittedSinceClear, List.length_append, List.length_singleton, filterMap_range_succ,
    List.filterMap_congr hbefore, hlast, admittedAt_concat_length]
  rfl

theorem admittedSinceClear_concat_clear (level : LogLevel) (steps : List (Clock × LoggerCommand))
    (clock : Clock) : admittedSinceClear level (steps ++ [(clock, .clear)]) = [] := by
  rw [admittedSinceClear, List.filterMap_eq_nil_iff]
  intro i hi
  rw [List.length_append, List.length_singleton, List.mem_range, Nat.lt_succ_iff_lt_or_eq] at hi
  rcases hi with hlt | rfl
  · rw [List.drop_append_of_le_length hlt]
    simp
  · rw [admittedAt_concat_length]
    simp [admitted?]

/-! ### Runs -/

/-- What a new logger came to by operations is what they tell. -/
structure Follows (config : LoggerConfig) (steps : List (Clock × LoggerCommand)) : Prop where
  config_eq : (run { config } steps).1.config = config
  enabled_eq : (run { config } steps).1.enabled = switchedOn steps
  events_eq : (run { config } steps).1.events =
    (admittedSinceClear config.level steps).map Prod.snd
  relays : ∃ records : List (List LogRecord), (run { config } steps).2 = records.map Except.ok ∧
    Relays config (admitted config.level steps) records.flatten

theorem follows_nil (config : LoggerConfig) : Follows config [] :=
  ⟨rfl, rfl, rfl, [], rfl, relays_nil⟩

/-- One operation more, from what it leaves and forwards. -/
theorem Follows.concat {l : Logger} (h : Follows config steps)
    (hperform : (run { config } steps).1.perform clock c = (l, .ok records))
    (hrelays : Relays config (admitted? config.level steps (clock, c)).toList records)
    (hconfig : l.config = config) (henabled : l.enabled = switchedOn (steps ++ [(clock, c)]))
    (hevents : l.events =
      (admittedSinceClear config.level (steps ++ [(clock, c)])).map Prod.snd) :
    Follows config (steps ++ [(clock, c)]) := by
  obtain ⟨_, _, _, before, hresults, hbefore⟩ := h
  have hrun : run { config } (steps ++ [(clock, c)]) =
      (l, before.map Except.ok ++ [.ok records]) := by
    rw [run_concat, hperform, hresults]
  refine ⟨?_, ?_, ?_, before ++ [records], ?_, ?_⟩
  · rw [hrun, hconfig]
  · rw [hrun, henabled]
  · rw [hrun, hevents]
  · rw [hrun, List.map_append, List.map_singleton]
  · rw [admitted_concat, List.flatten_append, List.flatten_singleton]
    exact hbefore.append hrelays

theorem Follows.log (h : Follows config steps) (clock : Clock) (he : e.InRange) :
    Follows config (steps ++ [(clock, .log e)]) := by
  obtain ⟨records, hperform, hrelays⟩ := (run { config } steps).1.perform_log_relays clock he
  have hadmitted : admitted? config.level steps (clock, .log e) =
      if (run { config } steps).1.accepts e then some (clock, e) else none := by
    rw [accepts_eq_admits, h.config_eq, h.enabled_eq]
    rfl
  refine h.concat hperform ?_ h.config_eq ?_ ?_
  · rw [h.config_eq] at hrelays
    rw [hadmitted]
    split_ifs at hrelays ⊢ <;> exact hrelays
  · rw [switchedOn_concat]
    exact h.enabled_eq
  · rw [admittedSinceClear_concat_of_ne _ _ _ (by simp), hadmitted, List.map_append, ← h.events_eq]
    split_ifs <;> simp

theorem Follows.switch {on : Bool} (h : Follows config steps) (clock : Clock)
    (hc : c.switch? = some on) : Follows config (steps ++ [(clock, c)]) := by
  have hadmitted : admitted? config.level steps (clock, c) = none := by
    cases c with
    | log e => cases hc
    | enable | disable | clear => rfl
  have hne : c ≠ .clear := by
    rintro rfl
    cases hc
  refine h.concat (perform_of_switch _ clock hc) ?_ h.config_eq ?_ ?_
  · rw [hadmitted]
    exact relays_nil
  · rw [switchedOn_concat, hc]
    rfl
  · rw [admittedSinceClear_concat_of_ne _ _ _ hne, hadmitted, Option.toList_none, List.append_nil]
    exact h.events_eq

theorem Follows.clear (h : Follows config steps) (clock : Clock) :
    Follows config (steps ++ [(clock, .clear)]) := by
  refine h.concat (l := (run { config } steps).1.clear) rfl relays_nil h.config_eq ?_ ?_
  · rw [switchedOn_concat]
    exact h.enabled_eq
  · rw [admittedSinceClear_concat_clear]
    rfl

/-- The induction is on the run, from its end. -/
theorem follows_of_inRange (config : LoggerConfig)
    (hrange : ∀ e, .log e ∈ steps.map Prod.snd → e.InRange) : Follows config steps := by
  induction steps using List.reverseRecOn with
  | nil => exact follows_nil config
  | append_singleton steps step ih =>
    obtain ⟨clock, c⟩ := step
    rw [List.map_append, List.map_singleton] at hrange
    have hbefore := ih fun e he => hrange e (List.mem_append_left _ he)
    cases c with
    | log e => exact hbefore.log clock (hrange e (List.mem_append_right _ List.mem_cons_self))
    | enable | disable => exact hbefore.switch clock rfl
    | clear => exact hbefore.clear clock

/-- Operations that log no range past the last address make two streams of what a new logger admits.
The buffer has the admitted events that no clear follows, and the logger counts them.  The
application's log has a record for each admitted event, whatever was cleared, and no record if the
logger does not forward.  No operation fails. -/
theorem run_streams (config : LoggerConfig) (steps : List (Clock × LoggerCommand))
    (hrange : ∀ e, .log e ∈ steps.map Prod.snd → e.InRange) :
    (run { config } steps).1.events = (admittedSinceClear config.level steps).map Prod.snd ∧
      (run { config } steps).1.eventCount = (admittedSinceClear config.level steps).length ∧
      ∃ records : List (List LogRecord), (run { config } steps).2 = records.map Except.ok ∧
        if config.console then
          List.Forall₂ (Tells config) (admitted config.level steps) records.flatten
        else records.flatten = [] := by
  obtain ⟨_, _, hevents, hrelays⟩ := follows_of_inRange config hrange
  refine ⟨hevents, ?_, hrelays⟩
  rw [eventCount, hevents, List.length_map]

/-- The clear takes the registration from the buffer and not from the application's log. -/
theorem run_streams_noon :
    let steps := [.log (.registered 0x1000 0x1000 0x200), .disable, .log (.unregistered 0x3000),
      .enable, .clear, .log (.scanned 0x1000 3 17), .log (.rejected "shift")].map (Noon.clock, ·)
    (∀ e, .log e ∈ steps.map Prod.snd → e.InRange) ∧
      (run {} steps).1.events = [.rejected "shift"] ∧ (run {} steps).1.eventCount = 1 ∧
      ∃ records : List (List LogRecord), (run {} steps).2 = records.map Except.ok ∧
        List.Forall₂ (Tells {})
          [(Noon.clock, .registered 0x1000 0x1000 0x200), (Noon.clock, .rejected "shift")]
          records.flatten := by
  intro steps
  have hrange : ∀ e, .log e ∈ steps.map Prod.snd → e.InRange := by
    intro e he
    simp only [steps, List.map_cons, List.map_nil, List.mem_cons, LoggerCommand.log.injEq] at he
    rcases he with rfl | he | rfl | he | he | rfl | rfl | he <;> first | decide | cases he
  exact ⟨hrange, run_streams {} steps hrange⟩

end Logger

end WriteBarrier
