import MapSheets.Work

/-
Laws of work. Work in three parts may be read from either side, so a long piece
of work can be regrouped into the parts that a law speaks of. How a sequence
ends, and what notes are in it, is told from its parts.
-/

namespace MapSheets.Work

variable {ν β γ : Type}

-- ================================================================== laws

/-- Work is a lawful monad: parts may be regrouped, and work that is done adds nothing. -/
instance : LawfulMonad (Work ν) :=
  LawfulMonad.mk' (Work ν)
    (fun w => by
      obtain ⟨notes, outcome⟩ := w
      cases outcome with
      | error e => rfl
      | ok b =>
          show (⟨notes ++ [], .ok b⟩ : Work ν _) = ⟨notes, .ok b⟩
          rw [List.append_nil])
    (fun _ _ => rfl)
    (fun w f g => by
      obtain ⟨notes, outcome⟩ := w
      cases outcome with
      | error e => rfl
      | ok b =>
          show andThen ⟨notes ++ (f b).notes, (f b).outcome⟩ g
            = ⟨notes ++ (f b >>= g).notes, (f b >>= g).outcome⟩
          cases hf : (f b).outcome with
          | error e => simp [bind, andThen, hf]
          | ok c => simp [bind, andThen, hf])

-- ================================================================= parts

theorem outcome_bind_ok {w : Work ν β} {b : β} (h : w.outcome = .ok b)
    (next : β → Work ν γ) : (w >>= next).outcome = (next b).outcome := by
  simp [bind, andThen, h]

theorem outcome_bind_error {w : Work ν β} {f : Failure} (h : w.outcome = .error f)
    (next : β → Work ν γ) : (w >>= next).outcome = .error f := by
  simp [bind, andThen, h]

/-- Work in two parts has a result if and only if the first part has one and the
second has a result from there. -/
theorem outcome_bind_eq_ok {w : Work ν β} {next : β → Work ν γ} {c : γ} :
    (w >>= next).outcome = .ok c ↔ ∃ b, w.outcome = .ok b ∧ (next b).outcome = .ok c := by
  cases hw : w.outcome with
  | error f =>
      rw [outcome_bind_error hw]
      constructor
      · intro h; cases h
      · rintro ⟨_, hb, -⟩; cases hb
  | ok b =>
      rw [outcome_bind_ok hw]
      constructor
      · intro h; exact ⟨b, rfl, h⟩
      · rintro ⟨_, hb, hnext⟩; cases hb; exact hnext

theorem outcome_note (n : ν) (next : Unit → Work ν γ) :
    (note n >>= next).outcome = (next ()).outcome := rfl

@[simp] theorem lift_ok_bind (b : β) (next : β → Work ν γ) :
    (liftM (.ok b : Outcome β) : Work ν β) >>= next = next b := rfl

@[simp] theorem lift_error_bind (f : Failure) (next : β → Work ν γ) :
    (liftM (.error f : Outcome β) : Work ν β) >>= next = fail f := rfl

/-- A calculation that has a result goes on with it. -/
theorem lift_bind {x : Except Fault β} {b : β} (h : x = .ok b) (next : β → Work ν γ) :
    (liftM (liftM x : Outcome β) : Work ν β) >>= next = next b := by
  rw [h]
  rfl

/-- A note of work in two parts is one of the first part or one of the second. -/
theorem mem_notes_bind {w : Work ν β} {next : β → Work ν γ} {n : ν}
    (h : n ∈ (w >>= next).notes) :
    n ∈ w.notes ∨ ∃ b, w.outcome = .ok b ∧ n ∈ (next b).notes := by
  cases hw : w.outcome with
  | error e =>
      rw [notes_bind_error hw] at h
      exact Or.inl h
  | ok b =>
      rw [notes_bind_ok hw, List.mem_append] at h
      exact h.imp_right fun h => ⟨b, rfl, h⟩

/-- What is true of the notes of both parts is true of all notes. -/
theorem forall_notes_bind {P : ν → Prop} {w : Work ν β} {next : β → Work ν γ}
    (hw : ∀ n ∈ w.notes, P n) (hnext : ∀ b, ∀ n ∈ (next b).notes, P n) :
    ∀ n ∈ (w >>= next).notes, P n := by
  intro n hn
  rcases mem_notes_bind hn with hn | ⟨b, -, hn⟩
  · exact hw n hn
  · exact hnext b n hn

theorem mem_notes_bind_left {w : Work ν β} {next : β → Work ν γ} {n : ν} (h : n ∈ w.notes) :
    n ∈ (w >>= next).notes := by
  cases hw : w.outcome with
  | error f =>
      rw [notes_bind_error hw]
      exact h
  | ok b =>
      rw [notes_bind_ok hw]
      exact List.mem_append_left _ h

theorem mem_notes_bind_right {w : Work ν β} {b : β} (hw : w.outcome = .ok b)
    {next : β → Work ν γ} {n : ν} (h : n ∈ (next b).notes) : n ∈ (w >>= next).notes := by
  rw [notes_bind_ok hw]
  exact List.mem_append_right _ h

end MapSheets.Work
