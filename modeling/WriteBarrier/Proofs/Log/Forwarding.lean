import WriteBarrier.Proofs.Log.Logger
/-!
What forwarding has to do with keeping.

Main statement: loggers that differ in console, JSON and timestamps only keep the same events after
every operation exactly where they can forward the same of the accepted ones, and an operation of a
logger fails exactly where it cannot forward one.  Only the text for readers of a registration can
fail to be written: it names the end of a range that may end where words do.
-/

namespace WriteBarrier

namespace Logger

variable {l l' : Logger} {c : LoggerCommand} {e : BarrierEvent}

/-- Carry out operations one after the other, each at its own time; a failure ends its operation,
not the run. -/
def run (l : Logger) :
    List (Clock × LoggerCommand) → Logger × List (Except Fault (List LogRecord))
  | [] => (l, [])
  | (clock, c) :: rest =>
    let (l, result) := l.perform clock c
    let (l, results) := l.run rest
    (l, result :: results)

/-- The events that operations give to the logger and that it accepts, in order, whether or not it
can forward them. -/
def accepted (l : Logger) : List LoggerCommand → List BarrierEvent
  | [] => []
  | .log e :: rest => (if l.accepts e then [e] else []) ++ l.accepted rest
  | .enable :: rest => l.enable.accepted rest
  | .disable :: rest => l.disable.accepted rest
  | .clear :: rest => l.accepted rest

/-- The loggers differ in how they forward at most. -/
structure SameButForwarding (l l' : Logger) : Prop where
  level_eq : l'.config.level = l.config.level
  enabled_eq : l'.enabled = l.enabled
  events_eq : l'.events = l.events

theorem SameButForwarding.accepts_eq (h : SameButForwarding l l') (e : BarrierEvent) :
    l'.accepts e = l.accepts e := by
  rw [accepts, accepts, h.level_eq, h.enabled_eq]

/-- What is accepted hangs on level and switch, and on nothing that was kept. -/
theorem accepted_congr (hlevel : l'.config.level = l.config.level)
    (henabled : l'.enabled = l.enabled) (cs : List LoggerCommand) :
    l'.accepted cs = l.accepted cs := by
  induction cs generalizing l l' with
  | nil => rfl
  | cons c rest ih =>
    cases c with
    | log e => rw [accepted, accepted, accepts, accepts, hlevel, henabled, ih hlevel henabled]
    | enable => exact ih hlevel rfl
    | disable => exact ih hlevel rfl
    | clear => exact ih hlevel henabled

/-! ### One operation -/

/-- A logger keeps an event that it accepts and can forward; of any other it keeps no trace. -/
theorem fst_perform_log (l : Logger) (clock : Clock) (e : BarrierEvent) :
    (l.perform clock (.log e)).1 =
      if l.accepts e = true ∧ l.config.Writes e then { l with events := l.events ++ [e] }
      else l := by
  by_cases haccepts : l.accepts e = true
  · by_cases hwrites : l.config.Writes e
    · obtain ⟨records, hlog⟩ := log_of_writes clock fun _ => hwrites
      simp only [perform, hlog, haccepts, hwrites, if_true, and_self]
    · simp only [perform, log_of_not_writes clock haccepts hwrites, hwrites, and_false, if_false]
  · obtain ⟨records, hlog⟩ := log_of_writes clock (absurd · haccepts)
    simp only [perform, hlog, haccepts, false_and, if_false, Bool.false_eq_true]

theorem config_perform (l : Logger) (clock : Clock) (c : LoggerCommand) :
    (l.perform clock c).1.config = l.config := by
  cases c with
  | log e =>
    rw [fst_perform_log]
    split <;> rfl
  | enable | disable | clear => rfl

/-- An operation fails exactly where it gives the logger an event that is accepted and cannot be
forwarded. -/
theorem perform_ok_iff (l : Logger) (clock : Clock) (c : LoggerCommand) :
    (∃ records, (l.perform clock c).2 = .ok records) ↔ ∀ e ∈ l.accepted [c], l.config.Writes e := by
  cases c with
  | enable | disable | clear => simp [perform, accepted]
  | log e =>
    by_cases haccepts : l.accepts e = true
    · by_cases hwrites : l.config.Writes e
      · obtain ⟨records, hlog⟩ := log_of_writes clock fun _ => hwrites
        simp [perform, hlog, accepted, hwrites, haccepts]
      · simp [perform, log_of_not_writes clock haccepts hwrites, accepted, hwrites, haccepts]
    · obtain ⟨records, hlog⟩ := log_of_writes clock (absurd · haccepts)
      simp [perform, hlog, accepted, haccepts]

/-- What a logger accepts after an operation does not hang on whether that one failed. -/
theorem accepted_cons (l : Logger) (clock : Clock) (c : LoggerCommand) (rest : List LoggerCommand) :
    l.accepted (c :: rest) = l.accepted [c] ++ (l.perform clock c).1.accepted rest := by
  cases c with
  | enable | disable => rfl
  | clear =>
    have hrest : l.clear.accepted rest = l.accepted rest := by
      apply accepted_congr <;> rfl
    exact hrest.symm
  | log e =>
    have hrest : (l.perform clock (.log e)).1.accepted rest = l.accepted rest := by
      rw [fst_perform_log]
      split
      · apply accepted_congr <;> rfl
      · rfl
    rw [hrest, accepted, accepted, accepted, List.append_nil]

/-- Loggers that differ in forwarding only keep the same after an operation exactly where both can
forward what it gives them, or neither can. -/
theorem SameButForwarding.events_perform_iff (h : SameButForwarding l l') (clock clock' : Clock)
    (c : LoggerCommand) :
    (l'.perform clock' c).1.events = (l.perform clock c).1.events ↔
      ∀ e ∈ l.accepted [c], (l'.config.Writes e ↔ l.config.Writes e) := by
  cases c with
  | enable | disable => simp [perform, enable, disable, accepted, h.events_eq]
  | clear => simp [perform, clear, accepted]
  | log e =>
    rw [fst_perform_log, fst_perform_log, h.accepts_eq]
    by_cases haccepts : l.accepts e = true
    · by_cases hwrites : l.config.Writes e <;> by_cases hwrites' : l'.config.Writes e <;>
        simp [accepted, haccepts, hwrites, hwrites', h.events_eq]
    · simp [accepted, haccepts, h.events_eq]

theorem SameButForwarding.perform (h : SameButForwarding l l') {clock clock' : Clock}
    (hevents : (l'.perform clock' c).1.events = (l.perform clock c).1.events) :
    SameButForwarding (l.perform clock c).1 (l'.perform clock' c).1 where
  level_eq := by rw [config_perform, config_perform, h.level_eq]
  enabled_eq := by
    cases c with
    | enable | disable => rfl
    | clear => exact h.enabled_eq
    | log e =>
      rw [fst_perform_log, fst_perform_log]
      split <;> split <;> exact h.enabled_eq
  events_eq := hevents

/-! ### Runs -/

/-- No operation of a run fails exactly where all accepted events can be forwarded. -/
theorem run_ok_iff (l : Logger) (steps : List (Clock × LoggerCommand)) :
    (∀ result ∈ (l.run steps).2, ∃ records, result = .ok records) ↔
      ∀ e ∈ l.accepted (steps.map Prod.snd), l.config.Writes e := by
  induction steps generalizing l with
  | nil => simp [run, accepted]
  | cons step rest ih =>
    obtain ⟨clock, c⟩ := step
    have hrest := ih (l.perform clock c).1
    rw [config_perform] at hrest
    rw [List.map_cons, accepted_cons l clock c, List.forall_mem_append, ← perform_ok_iff l clock c,
      ← hrest]
    exact List.forall_mem_cons

/-- The induction is on the run: up to the first accepted event that one logger can forward and the
other cannot, they keep the same; after it, they do not. -/
theorem SameButForwarding.events_run_iff (h : SameButForwarding l l')
    {steps steps' : List (Clock × LoggerCommand)}
    (hsteps : steps'.map Prod.snd = steps.map Prod.snd) :
    (∀ n, (l'.run (steps'.take n)).1.events = (l.run (steps.take n)).1.events) ↔
      ∀ e ∈ l.accepted (steps.map Prod.snd), (l'.config.Writes e ↔ l.config.Writes e) := by
  induction steps generalizing l l' steps' with
  | nil =>
    obtain rfl := List.map_eq_nil_iff.mp hsteps
    simp [run, accepted, h.events_eq]
  | cons step rest ih =>
    obtain ⟨clock, c⟩ := step
    obtain ⟨⟨clock', c'⟩, rest', rfl, hcommand, hrest⟩ := List.map_eq_cons_iff.mp hsteps
    obtain rfl : c' = c := hcommand
    have hfirst := h.events_perform_iff clock clock' c'
    rw [← Nat.and_forall_add_one, List.map_cons, accepted_cons l clock c', List.forall_mem_append,
      ← hfirst]
    constructor
    · rintro ⟨_, hevents⟩
      have hsame := h.perform (hevents 0)
      have hmore := (ih hsame hrest).mp hevents
      rw [config_perform, config_perform] at hmore
      exact ⟨hevents 0, hmore⟩
    · rintro ⟨hevents, hmore⟩
      refine ⟨h.events_eq, (ih (h.perform hevents) hrest).mpr ?_⟩
      rw [config_perform, config_perform]
      exact hmore

/-- How events are forwarded decides whether they are kept, though only where one of them cannot be
forwarded.  Loggers that differ in console, JSON and timestamps keep the same events after every
operation exactly where the accepted events that the one can forward are those that the other can;
and no operation fails exactly where the logger can forward all of them. -/
theorem run_forwarding (h : SameButForwarding l l') {steps steps' : List (Clock × LoggerCommand)}
    (hsteps : steps'.map Prod.snd = steps.map Prod.snd) :
    ((∀ n, (l'.run (steps'.take n)).1.events = (l.run (steps.take n)).1.events) ↔
      ∀ e ∈ l.accepted (steps.map Prod.snd), (l'.config.Writes e ↔ l.config.Writes e)) ∧
    ((∀ result ∈ (l.run steps).2, ∃ records, result = .ok records) ↔
      ∀ e ∈ l.accepted (steps.map Prod.snd), l.config.Writes e) ∧
    ((∀ result ∈ (l'.run steps').2, ∃ records, result = .ok records) ↔
      ∀ e ∈ l.accepted (steps.map Prod.snd), l'.config.Writes e) := by
  refine ⟨h.events_run_iff hsteps, l.run_ok_iff steps, ?_⟩
  rw [l'.run_ok_iff steps', hsteps, accepted_congr h.level_eq h.enabled_eq]

namespace Noon

def clock : Clock :=
  ⟨"12:00:00", 0⟩

/-- An hour later. -/
def later : Clock :=
  ⟨"13:00:00", 0⟩

/-- A logger that forwards the text for readers. -/
def human : Logger := {}

/-- A logger that forwards JSON. -/
def json : Logger :=
  { config := { json := true, timestamps := true } }

/-- A table whose last byte is the last one of the address space. -/
def topmost : BarrierEvent :=
  .registered 0xFFFFFFFFFFFFFE00 0x200 0x200

/-- Events of several levels, one of them while the logger is disabled, and a clear between them. -/
def session (clock : Clock) : List (Clock × LoggerCommand) :=
  [.log (.registered 0x1000 0x1000 0x200), .disable, .log topmost, .enable, .clear,
    .log (.scanned 0x1000 3 17), .log (.rejected "shift"), .log (.unregistered 0x1000)].map
      (clock, ·)

end Noon

theorem run_noon_forwarding :
    SameButForwarding Noon.human Noon.json ∧
      (Noon.session Noon.later).map Prod.snd = (Noon.session Noon.clock).map Prod.snd ∧
      (∀ n, (Noon.json.run ((Noon.session Noon.later).take n)).1.events =
        (Noon.human.run ((Noon.session Noon.clock).take n)).1.events) ∧
      (∀ result ∈ (Noon.human.run (Noon.session Noon.clock)).2,
        ∃ records, result = .ok records) ∧
      (Noon.human.run (Noon.session Noon.clock)).1.events =
        [.rejected "shift", .unregistered 0x1000] := by
  have hsame : SameButForwarding Noon.human Noon.json := ⟨rfl, rfl, rfl⟩
  have hsteps : (Noon.session Noon.later).map Prod.snd = (Noon.session Noon.clock).map Prod.snd :=
    rfl
  have hwrites : ∀ e ∈ Noon.human.accepted ((Noon.session Noon.clock).map Prod.snd),
      Noon.json.config.Writes e ∧ Noon.human.config.Writes e := by decide
  obtain ⟨hevents, hfaultless, _⟩ := run_forwarding hsame hsteps
  refine ⟨hsame, hsteps, hevents.mpr ?_, hfaultless.mpr ?_, rfl⟩
  · intro e he
    exact iff_of_true (hwrites e he).1 (hwrites e he).2
  · intro e he
    exact (hwrites e he).2

/-- The text for readers cannot name the end of a table at the top of the address space, and the
event is lost; as JSON it is kept. -/
theorem topmost_event_lost :
    SameButForwarding Noon.human Noon.json ∧
      (Noon.human.run [(Noon.clock, .log Noon.topmost)]).2 = [.error .addOverflow] ∧
      (Noon.human.run [(Noon.clock, .log Noon.topmost)]).1.events = [] ∧
      (Noon.json.run [(Noon.clock, .log Noon.topmost)]).1.events = [Noon.topmost] :=
  ⟨⟨rfl, rfl, rfl⟩, rfl, rfl, rfl⟩

end Logger

end WriteBarrier
