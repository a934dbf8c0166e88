import WriteBarrier.Proofs.Log.Logger
import WriteBarrier.Proofs.Text.Json
/-!
What a reader of the log learns from one line.

Main statement: the line of an event, in either text, identifies the event.
-/

namespace WriteBarrier

open Text

namespace Counters

theorem eq_of_fields_eq {c d : Counters} (hcalls : c.notifyCalls = d.notifyCalls)
    (hbytes : c.bytesNotified = d.bytesNotified) (hcards : c.cardsDirtied = d.cardsDirtied)
    (hwrites : c.unrecordedWrites = d.unrecordedWrites) : c = d := by
  cases c
  cases d
  simp_all

/-- The members of the object, in the order of their names. -/
def sortedMembers (c : Counters) : List (String × String) :=
  [("bytes_notified", Json.number c.bytesNotified), ("cards_dirtied", Json.number c.cardsDirtied),
    ("notify_calls", Json.number c.notifyCalls),
    ("unrecorded_writes", Json.number c.unrecordedWrites)]

theorem sortedJson_eq (c : Counters) : c.sortedJson = Json.object c.sortedMembers := rfl

theorem isValue_of_mem_sortedMembers {c : Counters} :
    ∀ m ∈ c.sortedMembers, Json.IsValue m.2 := by
  simp [sortedMembers, Json.IsValue.number]

theorem isValue_sortedJson (c : Counters) : Json.IsValue c.sortedJson := by
  rw [sortedJson_eq]
  exact .object c.sortedMembers isValue_of_mem_sortedMembers

theorem sortedJson_injective : Function.Injective sortedJson := by
  intro c d h
  rw [sortedJson_eq, sortedJson_eq] at h
  have hmembers : c.sortedMembers = d.sortedMembers :=
    Json.object_inj isValue_of_mem_sortedMembers isValue_of_mem_sortedMembers h
  simp only [sortedMembers, List.cons.injEq, Prod.mk.injEq, true_and, and_true,
    Json.number_injective.eq_iff] at hmembers
  obtain ⟨hbytes, hcards, hcalls, hwrites⟩ := hmembers
  exact eq_of_fields_eq hcalls hbytes hcards hwrites

end Counters

namespace BarrierEvent

variable {e e₁ e₂ : BarrierEvent}

/-! ### As JSON -/

/-- The members of the object, in the order of their names. -/
def members : BarrierEvent → List (String × String)
  | registered base len cardSize =>
      [("base", Json.number base), ("card_size", Json.number cardSize), ("len", Json.number len),
        ("type", Json.text "card_table_registered")]
  | unregistered base =>
      [("base", Json.number base), ("type", Json.text "card_table_unregistered")]
  | scanned base dirtyCards micros =>
      [("base", Json.number base), ("dirty_cards", Json.number dirtyCards),
        ("duration_us", Json.number micros), ("type", Json.text "card_scan")]
  | rejected reason => [("reason", Json.text reason), ("type", Json.text "config_rejected")]
  | statistics c => [("stats", c.sortedJson), ("type", Json.text "stats")]

theorem json_eq (e : BarrierEvent) : e.json = Json.object e.members := by
  cases e <;> rfl

theorem isValue_of_mem_members : ∀ m ∈ e.members, Json.IsValue m.2 := by
  cases e with
  | statistics c => simp [members, c.isValue_sortedJson, Json.IsValue.text]
  | registered | unregistered | scanned | rejected =>
    simp [members, Json.IsValue.number, Json.IsValue.text]

/-- The names of the members tell the kind of the event, their values its fields. -/
theorem members_injective : Function.Injective members := by
  intro e₁ e₂ h
  cases e₁ <;> cases e₂ <;>
    simp only [members, List.cons.injEq, Prod.mk.injEq, Json.number_injective.eq_iff,
      Json.text_injective.eq_iff, Counters.sortedJson_injective.eq_iff] at h <;>
    simp_all

theorem json_injective : Function.Injective json := by
  intro e₁ e₂ h
  rw [json_eq, json_eq] at h
  exact members_injective (Json.object_inj isValue_of_mem_members isValue_of_mem_members h)

/-! ### For readers -/

/-- The words and the fields of the text for readers, of an event whose range ends at a word. -/
def pieces : BarrierEvent → List String
  | registered base len cardSize =>
      ["[WB] ", "Card table registered: ", hex base, "..", hex (base + len), " (",
        decimal cardSize, " byte cards)"]
  | unregistered base => ["[WB] ", "Card table unregistered: ", hex base]
  | scanned base dirtyCards micros =>
      ["[WB] ", "Scanned card table ", hex base, ": ", decimal dirtyCards, " dirty cards (",
        decimal micros, " us)"]
  | rejected reason => ["[WB] ", "Configuration rejected: ", reason]
  | statistics c =>
      ["[WB] ", decimal c.notifyCalls, " notifies, ", decimal c.bytesNotified, " bytes, ",
        decimal c.cardsDirtied, " cards dirtied, ", decimal c.unrecordedWrites, " unrecorded"]

theorem human_of_inRange (h : e.InRange) : e.human = .ok (String.join e.pieces) := by
  cases e with
  | registered base len cardSize =>
    have hsum : checkedAdd base len = .ok (base + len) := if_pos h
    simp [human, hsum, pieces, ← String.toList_inj]
  | unregistered | scanned | rejected | statistics =>
    simp [human, pieces, ← String.toList_inj]

theorem join_pieces_statistics_ne (c : Counters) (hkind : ∀ d, e ≠ statistics d) :
    String.join (statistics c).pieces ≠ String.join e.pieces := by
  intro h
  cases e with
  | statistics d => exact hkind d rfl
  | registered | unregistered | scanned | rejected =>
    simp only [pieces] at h
    exact join_decimal_ne (by decide) (join_inj_right h)

/-- In lines of one kind the fields are read one after the other.  Lines of different kinds differ
in the words after the mark, of which those of the counters begin with a digit. -/
theorem eq_of_join_pieces_eq (h : String.join e₁.pieces = String.join e₂.pieces) : e₁ = e₂ := by
  cases e₁ with
  | registered base len cardSize =>
    cases e₂ with
    | registered base' len' cardSize' =>
      simp only [pieces] at h
      obtain ⟨rfl, hrange⟩ :=
        join_hex_inj (by decide) (by decide) (join_inj_right (join_inj_right h))
      -- The range is written by its two ends, and the first of them is known by now.
      obtain ⟨hstop, hcard⟩ := join_hex_inj (by decide) (by decide) (join_inj_right hrange)
      obtain ⟨rfl, -⟩ := join_decimal_inj (by decide) (by decide) (join_inj_right hcard)
      rw [(UInt64.add_right_inj base).mp hstop]
    | statistics c => exact absurd h.symm (join_pieces_statistics_ne c (by simp))
    | unregistered | scanned | rejected => simp [pieces, ← String.toList_inj] at h
  | unregistered base =>
    cases e₂ with
    | unregistered base' =>
      simp only [pieces] at h
      have hjoin : String.join [hex base] = String.join [hex base'] :=
        join_inj_right (join_inj_right h)
      have hbase : hex base = hex base' := by simpa using hjoin
      rw [hex_injective hbase]
    | statistics c => exact absurd h.symm (join_pieces_statistics_ne c (by simp))
    | registered | scanned | rejected => simp [pieces, ← String.toList_inj] at h
  | scanned base dirtyCards micros =>
    cases e₂ with
    | scanned base' dirtyCards' micros' =>
      simp only [pieces] at h
      obtain ⟨rfl, hcounts⟩ :=
        join_hex_inj (by decide) (by decide) (join_inj_right (join_inj_right h))
      obtain ⟨rfl, hmicros⟩ := join_decimal_inj (by decide) (by decide) (join_inj_right hcounts)
      obtain ⟨rfl, -⟩ := join_decimal_inj (by decide) (by decide) (join_inj_right hmicros)
      rfl
    | statistics c => exact absurd h.symm (join_pieces_statistics_ne c (by simp))
    | registered | unregistered | rejected => simp [pieces, ← String.toList_inj] at h
  | rejected reason =>
    cases e₂ with
    | rejected reason' =>
      simp only [pieces] at h
      have hreason : String.join [reason] = String.join [reason'] :=
        join_inj_right (join_inj_right h)
      simpa using hreason
    | statistics c => exact absurd h.symm (join_pieces_statistics_ne c (by simp))
    | registered | unregistered | scanned => simp [pieces, ← String.toList_inj] at h
  | statistics c =>
    cases e₂ with
    | statistics d =>
      simp only [pieces] at h
      obtain ⟨hcalls, h⟩ := join_decimal_inj (by decide) (by decide) (join_inj_right h)
      obtain ⟨hbytes, h⟩ := join_decimal_inj (by decide) (by decide) (join_inj_right h)
      obtain ⟨hcards, h⟩ := join_decimal_inj (by decide) (by decide) (join_inj_right h)
      obtain ⟨hwrites, -⟩ := join_decimal_inj (by decide) (by decide) (join_inj_right h)
      rw [Counters.eq_of_fields_eq hcalls hbytes hcards hwrites]
    | registered | unregistered | scanned | rejected =>
      exact absurd h (join_pieces_statistics_ne c (by simp))

/-- Two events have the same JSON text only if they are the same event, and events whose ranges end
at words have texts for readers of which the same holds. -/
theorem line_eq_iff (e₁ e₂ : BarrierEvent) :
    (e₁.json = e₂.json ↔ e₁ = e₂) ∧
      (e₁.InRange → e₂.InRange → ∃ line₁ line₂, e₁.human = .ok line₁ ∧
        e₂.human = .ok line₂ ∧ (line₁ = line₂ ↔ e₁ = e₂)) := by
  refine ⟨json_injective.eq_iff, fun h₁ h₂ => ?_⟩
  refine ⟨_, _, human_of_inRange h₁, human_of_inRange h₂, eq_of_join_pieces_eq, ?_⟩
  rintro rfl
  rfl

/-- Two tables that end at the same address. -/
theorem line_ne_of_same_stop :
    let e₁ := registered 0x1000 0x3000 512
    let e₂ := registered 0x2000 0x2000 512
    e₁.InRange ∧ e₂.InRange ∧ e₁.json ≠ e₂.json ∧
      ∃ line₁ line₂, e₁.human = .ok line₁ ∧ e₂.human = .ok line₂ ∧ line₁ ≠ line₂ := by
  intro e₁ e₂
  have hne : e₁ ≠ e₂ := by decide
  obtain ⟨hjson, hhuman⟩ := line_eq_iff e₁ e₂
  obtain ⟨line₁, line₂, h₁, h₂, hline⟩ := hhuman (by decide) (by decide)
  exact ⟨by decide, by decide, mt hjson.mp hne, line₁, line₂, h₁, h₂, mt hline.mp hne⟩

end BarrierEvent

end WriteBarrier
