import WriteBarrier.Proofs.Counters
import WriteBarrier.Proofs.Words
import Mathlib.Algebra.BigOperators.Fin
import Mathlib.Data.List.DropRight
/-!
Counters that are recorded into, and counters that are merged.

Main statement: counters hold the sums over their records since the last reset, each modulo the word
size.  Counters that share out the records of a run merge, in any order, into the counters of the
whole run, unless the sum of some field is no word.  A merge that stops has added the fields before
the first such sum.
-/

namespace WriteBarrier

/-- A field of the counters. -/
inductive CounterField where
  | notifyCalls
  | bytesNotified
  | cardsDirtied
  | unrecordedWrites
  deriving DecidableEq, Repr

namespace CounterField

/-- The place of a field in the order of the additions of a merge. -/
def place : CounterField → Nat
  | notifyCalls => 0
  | bytesNotified => 1
  | cardsDirtied => 2
  | unrecordedWrites => 3

instance : LT CounterField :=
  ⟨fun f g => f.place < g.place⟩

instance (f g : CounterField) : Decidable (f < g) :=
  inferInstanceAs (Decidable (f.place < g.place))

end CounterField

/-- What a record adds to a field. -/
def CounterCommand.amount : CounterCommand → CounterField → Nat
  | .notification .., .notifyCalls => 1
  | .notification bytes _, .bytesNotified => bytes.toNat
  | .notification _ cards, .cardsDirtied => cards.toNat
  | .unrecorded, .unrecordedWrites => 1
  | _, _ => 0

/-- What a record adds to the counters. -/
def CounterCommand.gain : CounterCommand → Counters
  | .notification bytes cards =>
      { notifyCalls := 1, bytesNotified := bytes, cardsDirtied := cards }
  | .unrecorded => { unrecordedWrites := 1 }
  | .reset => 0

namespace Counters

variable {c d : Counters} {ds : List Counters} {f first : CounterField} {r : CounterCommand}
  {rs : List CounterCommand} {n : Nat}

def get (c : Counters) : CounterField → UInt64
  | .notifyCalls => c.notifyCalls
  | .bytesNotified => c.bytesNotified
  | .cardsDirtied => c.cardsDirtied
  | .unrecordedWrites => c.unrecordedWrites

/-- Carry out commands one after the other. -/
def run (c : Counters) (cs : List CounterCommand) : Counters :=
  cs.foldl perform c

/-- The records that no reset follows. -/
def sinceReset (cs : List CounterCommand) : List CounterCommand :=
  cs.rtakeWhile (· ≠ .reset)

/-- Merge counters one after the other, up to the first fault. -/
def mergeAll (c : Counters) : List Counters → Counters × Except Fault Unit
  | [] => (c, .ok ())
  | d :: rest =>
    match c.merge d with
    | (c, .ok ()) => c.mergeAll rest
    | (c, .error f) => (c, .error f)

/-- The records of one of those who share out a run, in the order of the run. -/
def share (records : List (Fin n × CounterCommand)) (i : Fin n) : List CounterCommand :=
  (records.filter (·.1 = i)).map Prod.snd

/-- The sum of a field over several counters, as a number. -/
def total (ds : List Counters) (f : CounterField) : Nat :=
  (ds.map fun d => (d.get f).toNat).sum

@[simp] theorem total_nil (f : CounterField) : total [] f = 0 :=
  rfl

@[simp] theorem total_cons (d : Counters) (ds : List Counters) (f : CounterField) :
    total (d :: ds) f = (d.get f).toNat + total ds f := by
  rw [total, List.map_cons, List.sum_cons, total]

theorem get_add (c d : Counters) (f : CounterField) : (c + d).get f = c.get f + d.get f := by
  cases f <;> rfl

/-! ### Recording -/

theorem perform_of_ne (c : Counters) (h : r ≠ .reset) : c.perform r = c + r.gain := by
  cases r with
  | notification => ext1 <;> simp [perform, recordNotify, CounterCommand.gain]
  | unrecorded => ext1 <;> simp [perform, recordUnrecorded, CounterCommand.gain]
  | reset => exact absurd rfl h

theorem toNat_get_gain (r : CounterCommand) (f : CounterField) :
    (r.gain.get f).toNat = r.amount f := by
  cases r <;> cases f <;> rfl

theorem run_concat (c : Counters) (cs : List CounterCommand) (r : CounterCommand) :
    c.run (cs ++ [r]) = (c.run cs).perform r := by
  rw [run, List.foldl_append, List.foldl_cons, List.foldl_nil, run]

/-- Records add up, in any order. -/
theorem run_eq_add_sum (c : Counters) (h : ∀ r ∈ rs, r ≠ .reset) :
    c.run rs = c + (rs.map CounterCommand.gain).sum := by
  induction rs generalizing c with
  | nil => rw [List.map_nil, List.sum_nil, add_zero, run, List.foldl_nil]
  | cons r rest ih =>
    rw [List.forall_mem_cons] at h
    rw [run, List.foldl_cons, ← run, ih (c.perform r) h.2, perform_of_ne c h.1, List.map_cons,
      List.sum_cons, add_assoc]

/-- The induction is on the commands, from their end, where a reset is the last one or not. -/
theorem toNat_get_run (cs : List CounterCommand) (f : CounterField) :
    ((run {} cs).get f).toNat = ((sinceReset cs).map (·.amount f)).sum % 2 ^ 64 := by
  induction cs using List.reverseRecOn with
  | nil => cases f <;> rfl
  | append_singleton cs r ih =>
    rw [run_concat]
    by_cases hr : r = .reset
    · subst hr
      rw [sinceReset, List.rtakeWhile_concat_neg _ _ _ (by simp)]
      cases f <;> rfl
    · rw [sinceReset, List.rtakeWhile_concat_pos _ _ _ (by simpa using hr), ← sinceReset,
        perform_of_ne _ hr, get_add, UInt64.toNat_add, ih, toNat_get_gain, List.map_append,
        List.sum_append, List.map_singleton, List.sum_singleton, Nat.mod_add_mod]

/-! ### One merge -/

/-- The sum of a field is a word. -/
def Fits (c d : Counters) (f : CounterField) : Prop :=
  (c.get f).toNat + (d.get f).toNat < 2 ^ 64

instance (c d : Counters) (f : CounterField) : Decidable (Fits c d f) :=
  inferInstanceAs (Decidable (_ < _))

/-- The counters with the fields of others added to the fields before one. -/
def addBefore (c d : Counters) (first : CounterField) : Counters :=
  let sum := fun f => if f < first then c.get f + d.get f else c.get f
  ⟨sum .notifyCalls, sum .bytesNotified, sum .cardsDirtied, sum .unrecordedWrites⟩

theorem get_addBefore (c d : Counters) (first f : CounterField) :
    (c.addBefore d first).get f = if f < first then c.get f + d.get f else c.get f := by
  cases f <;> rfl

theorem Fits.toNat_get_add (h : Fits c d f) :
    ((c + d).get f).toNat = (c.get f).toNat + (d.get f).toNat := by
  rw [get_add, toNat_add_of_lt h]

theorem merge_of_fits (h : ∀ f, Fits c d f) : c.merge d = (c + d, .ok ()) := by
  have hcalls := checkedAdd_of_lt (h .notifyCalls)
  have hbytes := checkedAdd_of_lt (h .bytesNotified)
  have hcards := checkedAdd_of_lt (h .cardsDirtied)
  have hwrites := checkedAdd_of_lt (h .unrecordedWrites)
  simp only [get] at hcalls hbytes hcards hwrites
  simp only [merge, hcalls, hbytes, hcards, hwrites]
  rfl

/-- A merge stops at the first field whose sum is no word. -/
theorem merge_of_not_fits (hfirst : ¬Fits c d first) (hbefore : ∀ f < first, Fits c d f) :
    c.merge d = (c.addBefore d first, .error .addOverflow) := by
  have hadd : ∀ f < first, checkedAdd (c.get f) (d.get f) = .ok (c.get f + d.get f) :=
    fun f hf => checkedAdd_of_lt (hbefore f hf)
  have hstop : checkedAdd (c.get first) (d.get first) = .error .addOverflow :=
    checkedAdd_of_le (Nat.not_lt.mp hfirst)
  -- each field before the stop is an addition that succeeds
  cases first with
  | notifyCalls =>
    simp only [get] at hstop
    simp only [merge, hstop]
    rfl
  | bytesNotified =>
    have hcalls := hadd .notifyCalls (by decide)
    simp only [get] at hcalls hstop
    simp only [merge, hcalls, hstop]
    rfl
  | cardsDirtied =>
    have hcalls := hadd .notifyCalls (by decide)
    have hbytes := hadd .bytesNotified (by decide)
    simp only [get] at hcalls hbytes hstop
    simp only [merge, hcalls, hbytes, hstop]
    rfl
  | unrecordedWrites =>
    have hcalls := hadd .notifyCalls (by decide)
    have hbytes := hadd .bytesNotified (by decide)
    have hcards := hadd .cardsDirtied (by decide)
    simp only [get] at hcalls hbytes hcards hstop
    simp only [merge, hcalls, hbytes, hcards, hstop]
    rfl

theorem exists_first_not_fits (h : ¬∀ f, Fits c d f) :
    ∃ first, ¬Fits c d first ∧ ∀ f < first, Fits c d f := by
  obtain ⟨f, hf⟩ := not_forall.mp h
  obtain ⟨first, hfirst, hmin⟩ :=
    (measure CounterField.place).wf.has_min {f | ¬Fits c d f} ⟨f, hf⟩
  exact ⟨first, hfirst, fun f hlt => not_not.mp fun hf => hmin f hf hlt⟩

/-- Either each sum is a word and the merge adds them all, or it stops at the first that is none. -/
theorem merge_cases (c d : Counters) :
    ((∀ f, Fits c d f) ∧ c.merge d = (c + d, .ok ())) ∨
      ∃ first, ¬Fits c d first ∧ (∀ f < first, Fits c d f) ∧
        c.merge d = (c.addBefore d first, .error .addOverflow) := by
  by_cases h : ∀ f, Fits c d f
  · exact Or.inl ⟨h, merge_of_fits h⟩
  · obtain ⟨first, hfirst, hbefore⟩ := exists_first_not_fits h
    exact Or.inr ⟨first, hfirst, hbefore, merge_of_not_fits hfirst hbefore⟩

/-! ### Merging one after the other

The sums only grow along the way, so the totals decide whether some merge stops. -/

theorem mergeAll_of_lt (h : ∀ f, (c.get f).toNat + total ds f < 2 ^ 64) :
    c.mergeAll ds = (c + ds.sum, .ok ()) := by
  induction ds generalizing c with
  | nil => rw [mergeAll, List.sum_nil, add_zero]
  | cons d rest ih =>
    simp only [total_cons, ← Nat.add_assoc] at h
    have hfits : ∀ f, Fits c d f := fun f => Nat.lt_of_le_of_lt (Nat.le_add_right ..) (h f)
    have hrest : ∀ f, ((c + d).get f).toNat + total rest f < 2 ^ 64 := by
      intro f
      rw [(hfits f).toNat_get_add]
      exact h f
    simp only [mergeAll, merge_of_fits hfits, ih hrest, List.sum_cons, add_assoc]

theorem mergeAll_of_le (h : 2 ^ 64 ≤ (c.get f).toNat + total ds f) :
    (c.mergeAll ds).2 = .error .addOverflow := by
  induction ds generalizing c with
  | nil => exact absurd (c.get f).toNat_lt (Nat.not_lt.mpr h)
  | cons d rest ih =>
    rcases merge_cases c d with ⟨hfits, hmerge⟩ | ⟨first, _, _, hmerge⟩
    · rw [total_cons, ← Nat.add_assoc, ← (hfits f).toNat_get_add] at h
      simp only [mergeAll, hmerge, ih h]
    · simp only [mergeAll, hmerge]

theorem mergeAll_zero_cases (ds : List Counters) :
    ((∀ f, total ds f < 2 ^ 64) ∧ mergeAll {} ds = (ds.sum, .ok ())) ∨
      (∃ f, 2 ^ 64 ≤ total ds f) ∧ (mergeAll {} ds).2 = .error .addOverflow := by
  have hzero : ∀ f, (get {} f).toNat + total ds f = total ds f := by
    intro f
    cases f <;> exact Nat.zero_add _
  by_cases h : ∀ f, total ds f < 2 ^ 64
  · refine Or.inl ⟨h, ?_⟩
    rw [mergeAll_of_lt fun f => (hzero f).trans_lt (h f)]
    exact congrArg (·, Except.ok ()) (zero_add ds.sum)
  · obtain ⟨f, hf⟩ := not_forall.mp h
    have hle : 2 ^ 64 ≤ total ds f := Nat.not_lt.mp hf
    exact Or.inr ⟨⟨f, hle⟩, mergeAll_of_le (hle.trans_eq (hzero f).symm)⟩

/-! ### Sharing out the records of a run -/

theorem share_cons (r : Fin n × CounterCommand) (records : List (Fin n × CounterCommand))
    (i : Fin n) :
    share (r :: records) i = if r.1 = i then r.2 :: share records i else share records i := by
  by_cases hi : r.1 = i
  · rw [if_pos hi, share, List.filter_cons_of_pos (by simpa using hi), List.map_cons, share]
  · rw [if_neg hi, share, List.filter_cons_of_neg (by simpa using hi), share]

/-- Each record is in one share. -/
theorem sum_share (records : List (Fin n × CounterCommand)) :
    ∑ i, ((share records i).map CounterCommand.gain).sum =
      (records.map fun r => r.2.gain).sum := by
  induction records with
  | nil => exact Finset.sum_const_zero
  | cons r rest ih =>
    have hone : ∀ i, ((share (r :: rest) i).map CounterCommand.gain).sum =
        (if r.1 = i then r.2.gain else 0) + ((share rest i).map CounterCommand.gain).sum := by
      intro i
      rw [share_cons]
      split_ifs with hi
      · rw [List.map_cons, List.sum_cons]
      · rw [zero_add]
    simp only [hone]
    rw [Finset.sum_add_distrib, Finset.sum_ite_eq, if_pos (Finset.mem_univ _), ih, List.map_cons,
      List.sum_cons]

/-- The shares of a run, in any order, add up to the run. -/
theorem sum_run_share {records : List (Fin n × CounterCommand)} {order : List (Fin n)}
    (hrecords : ∀ r ∈ records, r.2 ≠ .reset) (horder : order.Perm (List.finRange n)) :
    (order.map fun i => run {} (share records i)).sum = run {} (records.map Prod.snd) := by
  have hshare : ∀ i, run {} (share records i) =
      {} + ((share records i).map CounterCommand.gain).sum := by
    intro i
    apply run_eq_add_sum
    simp only [share, List.mem_map, List.mem_filter]
    rintro _ ⟨r, ⟨hr, _⟩, rfl⟩
    exact hrecords r hr
  have hall : run {} (records.map Prod.snd) =
      {} + ((records.map Prod.snd).map CounterCommand.gain).sum :=
    run_eq_add_sum {} (List.forall_mem_map.mpr hrecords)
  have hzero : ∀ c : Counters, {} + c = c := zero_add
  simp only [hshare, hall, hzero]
  rw [(horder.map _).sum_eq, ← Fin.sum_univ_def, sum_share, List.map_map]
  rfl

/-- Counters hold the sums over the records since the last reset, each modulo the word size.  The
counters of those who share out the records of a run merge, in any order, into the counters of the
whole run, unless the total of a field is no word, and then some merge stops.  One merge adds all
fields if their sums are words; else it stops with the fields before the first other one added. -/
theorem run_and_merge_exact (cs : List CounterCommand) (records : List (Fin n × CounterCommand))
    (order : List (Fin n)) (c d : Counters) (hrecords : ∀ r ∈ records, r.2 ≠ .reset)
    (horder : order.Perm (List.finRange n)) :
    let snapshots := order.map fun i => run {} (share records i)
    (∀ f, ((run {} cs).get f).toNat = ((sinceReset cs).map (·.amount f)).sum % 2 ^ 64) ∧
    (((∀ f, total snapshots f < 2 ^ 64) ∧
        mergeAll {} snapshots = (run {} (records.map Prod.snd), .ok ())) ∨
      (∃ f, 2 ^ 64 ≤ total snapshots f) ∧ (mergeAll {} snapshots).2 = .error .addOverflow) ∧
    (((∀ f, Fits c d f) ∧ (c.merge d).2 = .ok () ∧
        ∀ f, ((c.merge d).1.get f).toNat = (c.get f).toNat + (d.get f).toNat) ∨
      ∃ first, ¬Fits c d first ∧ (∀ f < first, Fits c d f) ∧
        (c.merge d).2 = .error .addOverflow ∧
        ∀ f, if f < first then ((c.merge d).1.get f).toNat = (c.get f).toNat + (d.get f).toNat
          else (c.merge d).1.get f = c.get f) := by
  intro snapshots
  refine ⟨toNat_get_run cs, ?_, ?_⟩
  · rw [← sum_run_share hrecords horder]
    exact mergeAll_zero_cases snapshots
  · rcases merge_cases c d with ⟨hfits, hmerge⟩ | ⟨first, hfirst, hbefore, hmerge⟩
    · rw [hmerge]
      exact Or.inl ⟨hfits, rfl, fun f => (hfits f).toNat_get_add⟩
    · rw [hmerge]
      refine Or.inr ⟨first, hfirst, hbefore, rfl, fun f => ?_⟩
      rw [get_addBefore]
      split_ifs with hf
      · rw [← get_add]
        exact (hbefore f hf).toNat_get_add
      · rfl

/-- The bytes of a run wrap around; the second field of a merge is full. -/
theorem run_and_merge_full :
    let records : List (Fin 2 × CounterCommand) :=
      [(0, .notification 8 1), (1, .notification 32 0), (0, .unrecorded)]
    (∀ r ∈ records, r.2 ≠ .reset) ∧ [1, 0].Perm (List.finRange 2) ∧
      ((run {} [.notification 9 9, .reset, .notification 0xFFFFFFFFFFFFFFFF 0,
        .notification 2 1]).get .bytesNotified).toNat = 1 ∧
      mergeAll {} ([1, 0].map fun i => run {} (share records i)) = (⟨2, 40, 1, 1⟩, .ok ()) ∧
      (merge ⟨1, 0xFFFFFFFFFFFFFFFF, 2, 3⟩ ⟨1, 1, 5, 7⟩).2 = .error .addOverflow ∧
      (merge ⟨1, 0xFFFFFFFFFFFFFFFF, 2, 3⟩ ⟨1, 1, 5, 7⟩).1 = ⟨2, 0xFFFFFFFFFFFFFFFF, 2, 3⟩ := by
  intro records
  have hrecords : ∀ r ∈ records, r.2 ≠ .reset := by decide
  have horder : [1, 0].Perm (List.finRange 2) := by decide
  obtain ⟨hrun, hall, hmerge⟩ := run_and_merge_exact
    [.notification 9 9, .reset, .notification 0xFFFFFFFFFFFFFFFF 0, .notification 2 1] records
    [1, 0] ⟨1, 0xFFFFFFFFFFFFFFFF, 2, 3⟩ ⟨1, 1, 5, 7⟩ hrecords horder
  refine ⟨hrecords, horder, hrun .bytesNotified, ?_, ?_, by decide⟩
  · rcases hall with ⟨_, hall⟩ | ⟨⟨f, hf⟩, _⟩
    · exact hall
    · cases f <;> exact absurd hf (by decide)
  · rcases hmerge with ⟨hfits, _⟩ | ⟨_, _, _, hstop, _⟩
    · exact absurd (hfits .bytesNotified) (by decide)
    · exact hstop

end Counters

end WriteBarrier
