import LlmMax.History

/-! A table and the journal of its rows, both append-only. Some entries of the journal report
a row, one for one and in order; the others are notes. -/
namespace LlmMax.Ledger
open History

structure Books (Row Event : Type) where
  rows : List Row
  events : List Event

section kept
variable {Row Event : Type} (relevant : Event → Prop) [DecidablePred relevant]
  (reports : List Row → Row → Event → Prop)

/-- The books grew by rows and events that match: the relevant events report the rows, each of
them relative to the rows before its own. -/
def Kept (b b' : Books Row Event) : Prop :=
  ∃ (entries : List (Row × Event)) (events : List Event),
    b'.rows = b.rows ++ entries.map Prod.fst ∧ b'.events = b.events ++ events ∧
      events.filter relevant = entries.map Prod.snd ∧
      Each (fun past entry => reports (b.rows ++ past.map Prod.fst) entry.1 entry.2) [] entries

variable {relevant reports} {b b' b'' : Books Row Event}

theorem kept_refl (b : Books Row Event) : Kept relevant reports b b :=
  ⟨[], [], by simp, by simp, rfl, trivial⟩

theorem Kept.trans (h : Kept relevant reports b b') (h' : Kept relevant reports b' b'') :
    Kept relevant reports b b'' := by
  obtain ⟨entries, events, hrows, hevents, hfilter, heach⟩ := h
  obtain ⟨entries', events', hrows', hevents', hfilter', heach'⟩ := h'
  refine ⟨entries ++ entries', events ++ events', ?_, ?_, ?_, ?_⟩
  · rw [hrows', hrows, List.map_append, List.append_assoc]
  · rw [hevents', hevents, List.append_assoc]
  · rw [List.filter_append, hfilter, hfilter', List.map_append]
  · rw [each_append]
    refine ⟨heach, each_iff.mpr fun pre x post hsplit => ?_⟩
    have hreport := each_iff.mp heach' pre x post hsplit
    rw [hrows] at hreport
    simpa using hreport

/-- A note. -/
theorem kept_note {event : Event} (hrows : b'.rows = b.rows) (hevents : b'.events = b.events ++ [event])
    (hnote : ¬ relevant event) : Kept relevant reports b b' :=
  ⟨[], [event], by simp [hrows], hevents, by simp [hnote], trivial⟩

/-- A row and the event that reports it. -/
theorem kept_entry {row : Row} {event : Event} (hrows : b'.rows = b.rows ++ [row])
    (hevents : b'.events = b.events ++ [event]) (hrelevant : relevant event)
    (hreports : reports b.rows row event) : Kept relevant reports b b' :=
  ⟨[(row, event)], [event], hrows, hevents, by simp [hrelevant], by simpa [Each] using hreports⟩

end kept

end LlmMax.Ledger
