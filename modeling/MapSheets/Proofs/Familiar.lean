import MapSheets.Proofs.Outcome
import MapSheets.Work

/-
Strange failures. The program finds some faults by checks of its own, and most
of those are of families that are reported. A few are not: they are told like
faults of calculation, or belong to families that nobody asks for. Some of
these come from the trellis. The rest is strange, and work is familiar if it
fails in none of these ways, whatever else may go wrong in it.

Sequences, rounds and calculations are familiar if their parts are, so for most
work it is enough to look at the failures that are written in it.
-/

namespace MapSheets

namespace Failure

/-- The causes for which a trellis cannot be made, told like faults of
calculation. -/
def isOfTrellis : Failure → Bool
  | frameInvalid _ _ | edgeBackward _ _ | barsParallel => true
  | _ => false

/-- The other causes that are found by a check of the program but are of no
family that is reported. -/
def isStrange : Failure → Bool
  | zoneOutOfRange _ | layerTaken _ | rowsOutOfRange _ | colsOutOfRange _ | statusUnreadable
  | statusNotObject _ | statusUnknown _ => true
  | _ => false

end Failure

namespace Outcome

variable {β γ : Type}

/-- Work that fails in no strange way. -/
abbrev Familiar (x : Outcome β) : Prop := Ends Any (fun f : Failure => f.isStrange = false) x

@[simp] theorem familiar_ok (b : β) : Familiar (.ok b) := ends_ok trivial

@[simp] theorem familiar_pure (b : β) : Familiar (pure b) := ends_ok trivial

@[simp] theorem familiar_error {f : Failure} :
    Familiar (.error f : Outcome β) ↔ f.isStrange = false :=
  ⟨fun h => h.failure f rfl, fun h => ends_error h⟩

@[simp] theorem familiar_throw {f : Failure} :
    Familiar (throw f : Outcome β) ↔ f.isStrange = false := familiar_error

@[simp] theorem familiar_ofFault (x : Except Fault β) : Familiar (ofFault x) := by
  cases x with
  | error e => exact ends_error rfl
  | ok b => exact ends_ok trivial

@[simp] theorem familiar_lift (x : Except Fault β) : Familiar (liftM x : Outcome β) :=
  familiar_ofFault x

theorem Familiar.bind {x : Outcome β} {next : β → Outcome γ} (hx : Familiar x)
    (hnext : ∀ b, Familiar (next b)) : Familiar (x >>= next) := .bind_any hnext hx

/-- Behind a familiar step it is the rest that counts. -/
@[simp] theorem Familiar.bind_iff {x : Outcome β} {next : β → Outcome γ} (hx : Familiar x) :
    Familiar (x >>= next) ↔ ∀ b, x = .ok b → Familiar (next b) := by
  cases x with
  | error f => exact ⟨fun _ b hb => (by cases hb), fun _ => ends_error (hx.failure f rfl)⟩
  | ok b => exact ⟨fun h _ hb => (by cases hb; exact h), fun h => h b rfl⟩

@[simp] theorem familiar_map {x : Outcome β} {f : β → γ} : Familiar (f <$> x) ↔ Familiar x := by
  cases x with
  | error f => exact familiar_error.trans familiar_error.symm
  | ok b => exact iff_of_true (familiar_ok _) (familiar_ok _)

@[simp] theorem familiar_ite {c : Prop} [Decidable c] {x y : Outcome β} :
    Familiar (if c then x else y) ↔ (c → Familiar x) ∧ (¬ c → Familiar y) := by
  by_cases h : c
  · simp [h]
  · simp [h]

theorem Familiar.mapM_mem {f : β → Outcome γ} {bs : List β} (hf : ∀ b ∈ bs, Familiar (f b)) :
    Familiar (bs.mapM f) := Ends.mapM hf

@[simp] theorem Familiar.mapM {f : β → Outcome γ} (hf : ∀ b, Familiar (f b)) (bs : List β) :
    Familiar (bs.mapM f) := mapM_mem fun b _ => hf b

@[simp] theorem Familiar.mapM_option {f : β → Outcome γ} (hf : ∀ b, Familiar (f b))
    (b? : Option β) : Familiar (b?.mapM f) := Ends.mapM_option hf b?

@[simp] theorem Familiar.forM {f : β → Outcome Unit} (hf : ∀ b, Familiar (f b)) (bs : List β) :
    Familiar (bs.forM f) := by
  induction bs with
  | nil => exact ends_ok trivial
  | cons b rest ih => exact (hf b).bind fun _ => ih

@[simp] theorem Familiar.foldlM {f : γ → β → Outcome γ} (hf : ∀ c b, Familiar (f c b)) (c : γ)
    (bs : List β) : Familiar (bs.foldlM f c) := by
  induction bs generalizing c with
  | nil => exact ends_ok trivial
  | cons b rest ih =>
      rw [List.foldlM_cons]
      exact (hf c b).bind fun c => ih c

theorem familiar_iff_failure? {x : Outcome β} :
    Familiar x ↔ ∀ f, failure? x = some f → f.isStrange = false := by
  cases x with
  | error f => exact familiar_error.trans ⟨fun h _ hf => (by cases hf; exact h), fun h => h f rfl⟩
  | ok b => exact iff_of_true (familiar_ok b) fun _ hf => (by cases hf)

end Outcome

-- ==================================================================== work

namespace Work

open Outcome

variable {ν μ β γ : Type}

/-- Work with notes that fails in no strange way. -/
def Familiar (w : Work ν β) : Prop := Outcome.Familiar w.outcome

@[simp] theorem familiar_pure (b : β) : Familiar (pure b : Work ν β) := ends_ok trivial

@[simp] theorem familiar_note (n : ν) : Familiar (note n) := ends_ok trivial

@[simp] theorem familiar_fail {f : Failure} :
    Familiar (fail f : Work ν β) ↔ f.isStrange = false := familiar_error

@[simp] theorem familiar_lift {x : Outcome β} :
    Familiar (liftM x : Work ν β) ↔ Outcome.Familiar x := Iff.rfl

@[simp] theorem familiar_ofOutcome {x : Outcome β} :
    Familiar (ofOutcome x : Work ν β) ↔ Outcome.Familiar x := Iff.rfl

@[simp] theorem familiar_relabel {f : ν → μ} {w : Work ν β} :
    Familiar (w.relabel f) ↔ Familiar w := Iff.rfl

theorem outcome_bind (w : Work ν β) (next : β → Work ν γ) :
    (w >>= next).outcome = w.outcome >>= fun b => (next b).outcome := by
  cases h : w.outcome with
  | error f => simp [bind, andThen, h, Except.bind]
  | ok b => simp [bind, andThen, h, Except.bind]

theorem ends_bind {P : γ → Prop} {R : β → Prop} {Q : Failure → Prop} {w : Work ν β}
    {next : β → Work ν γ} (hw : Ends R Q w.outcome)
    (hnext : ∀ b, R b → Ends P Q (next b).outcome) : Ends P Q (w >>= next).outcome := by
  rw [outcome_bind]
  exact hw.bind hnext

@[simp] theorem Familiar.bind_iff {w : Work ν β} {next : β → Work ν γ} (hw : Familiar w) :
    Familiar (w >>= next) ↔ ∀ b, w.outcome = .ok b → Familiar (next b) := by
  unfold Familiar
  rw [outcome_bind]
  exact Outcome.Familiar.bind_iff hw

theorem Familiar.bind {w : Work ν β} {next : β → Work ν γ} (hw : Familiar w)
    (hnext : ∀ b, Familiar (next b)) : Familiar (w >>= next) :=
  hw.bind_iff.mpr fun b _ => hnext b

@[simp] theorem familiar_ite {c : Prop} [Decidable c] {w w' : Work ν β} :
    Familiar (if c then w else w') ↔ (c → Familiar w) ∧ (¬ c → Familiar w') := by
  by_cases h : c
  · simp [h]
  · simp [h]

@[simp] theorem familiar_map {w : Work ν β} {f : β → γ} : Familiar (f <$> w) ↔ Familiar w := by
  have hmap : (f <$> w).outcome = f <$> w.outcome := by
    show (w >>= fun b => pure (f b)).outcome = _
    rw [outcome_bind]
    cases w.outcome with
    | error e => rfl
    | ok b => rfl
  unfold Familiar
  rw [hmap, Outcome.familiar_map]

/-- Behind a refusal what was refused is not there. -/
theorem Familiar.unless {c : Prop} [Decidable c] {f : Failure} {next : Unit → Work ν β}
    (hf : c → f.isStrange = false) (hnext : ¬ c → Familiar (next ())) :
    Familiar (if c then fail f >>= next else next ()) :=
  familiar_ite.mpr ⟨fun h => (familiar_fail.mpr (hf h)).bind_iff.mpr fun _ hb => (by cases hb),
    hnext⟩

@[simp] theorem Familiar.foldlM {f : γ → β → Work ν γ} (hf : ∀ c b, Familiar (f c b)) (c : γ)
    (bs : List β) : Familiar (bs.foldlM f c) := by
  induction bs generalizing c with
  | nil => exact ends_ok trivial
  | cons b rest ih =>
      rw [List.foldlM_cons]
      exact (hf c b).bind fun c => ih c

@[simp] theorem Familiar.forM {f : β → Work ν Unit} (hf : ∀ b, Familiar (f b)) (bs : List β) :
    Familiar (bs.forM f) := by
  induction bs with
  | nil => exact ends_ok trivial
  | cons b rest ih => exact (hf b).bind fun _ => ih

end Work

end MapSheets
