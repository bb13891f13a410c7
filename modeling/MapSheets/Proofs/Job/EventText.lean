import MapSheets.Job.Event
import MapSheets.Proofs.Json.RoundTrip

/-
Events read back from their JSON form. An event whose descriptions are texts
has a form of one to three fields, all of them texts under different names
(`fields_of_worded`), which is read back whatever the texts hold. The name that
stands first leads to the kind of the event again (`ofFields_fields`), so
nothing of the event is lost (`ofText_toText`).
-/

namespace MapSheets.Event

/-- The descriptions of an event are texts, as they are in all events of jobs. -/
inductive Worded : Event → Prop
  | requested : Worded requested
  | started : Worded started
  | processing (description : String) : Worded (processing (.str description))
  | failed (description error : String) : Worded (failed (.str description) (.str error))
  | completed : Worded completed

theorem fields_of_worded {e : Event} (he : e.Worded) :
    ∃ texts : List (String × String), e.fields = Json.textFields texts ∧ texts ≠ []
      ∧ (texts.map (·.1)).Nodup := by
  cases he with
  | requested => exact ⟨[("status", "requested")], rfl, by decide, by decide⟩
  | started => exact ⟨[("status", "started")], rfl, by decide, by decide⟩
  | completed => exact ⟨[("status", "completed")], rfl, by decide, by decide⟩
  | processing description =>
      exact ⟨[("status", "processing"), ("description", description)], rfl,
        List.cons_ne_nil _ _, by simp⟩
  | failed description error =>
      exact ⟨[("status", "failed"), ("description", description), ("error", error)], rfl,
        List.cons_ne_nil _ _, by simp⟩

/-- The names of events are in small letters. -/
theorem lower_name (e : Event) : Text.lower e.name = e.name := by
  cases e with
  | requested => decide +kernel
  | started => decide +kernel
  | processing description =>
      show Text.lower "processing" = "processing"
      decide +kernel
  | failed description error =>
      show Text.lower "failed" = "failed"
      decide +kernel
  | completed => decide +kernel

/-- The fields of an event name its kind and hold its descriptions. -/
theorem ofFields_fields (e : Event) : ofFields e.fields = .ok e := by
  have hstatus : Text.lower ((e.fields.lookup "status").getD (.str "")).plain = e.name :=
    lower_name e
  unfold ofFields
  dsimp only
  rw [hstatus]
  cases e with
  | requested => rfl
  | started => rfl
  | processing description => rfl
  | failed description error => rfl
  | completed => rfl

/-- An event is read back from its JSON form, whatever characters its texts hold and
however deeply values may be nested, which is once at least. -/
theorem ofText_toText {e : Event} (he : e.Worded) (deepest : Nat) :
    ofText (deepest + 1) e.toText = .ok e := by
  obtain ⟨texts, hfields, hne, hnames⟩ := fields_of_worded he
  have hread : Json.readOr (deepest + 1) .statusUnreadable e.toText = .ok (.obj e.fields) := by
    unfold Json.readOr toText
    rw [hfields, Json.read_write_textFields hne hnames deepest]
  unfold ofText
  rw [hread]
  exact ofFields_fields e

/-- A failure told with a quote, a backslash, control characters, a character
outside ASCII and one of two halves. -/
theorem ofText_toText_escapes :
    let e := failed (.str "\"\\\x00\x7f") (.str "é\n😀")
    e.Worded
      ∧ e.toText = "\x7b\"status\": \"failed\", \"description\": \"\\\"\\\\\\u0000\\u007f\", "
        ++ "\"error\": \"\\u00e9\\n\\ud83d\\ude00\"\x7d"
      ∧ ofText 1 e.toText = .ok e :=
  ⟨.failed _ _, by decide +kernel, ofText_toText (.failed _ _) 0⟩

end MapSheets.Event
