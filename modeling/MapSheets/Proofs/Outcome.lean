import MapSheets.Failure

/-
Outcomes taken apart. Work that may fail is written as a sequence of steps;
a sequence that has a result had one at every step. The lemmas read a
sequence from its end: what a whole that succeeds says of its first step.

`Ends` reads it from its beginning: what is true of every result of a step and
of every failure is carried along, so a long sequence is gone through in the
order in which it is written.
-/

namespace MapSheets.Outcome

variable {ε β γ : Type}

theorem ok_bind (b : β) (f : β → Except ε γ) : (.ok b : Except ε β) >>= f = f b := rfl

theorem error_bind (e : ε) (f : β → Except ε γ) : (.error e : Except ε β) >>= f = .error e := rfl

/-- A sequence has a result if and only if its first step has one and the
rest has a result from there. -/
theorem bind_eq_ok {x : Except ε β} {f : β → Except ε γ} {c : γ} :
    x >>= f = .ok c ↔ ∃ b, x = .ok b ∧ f b = .ok c := by
  cases x with
  | error e =>
      constructor
      · intro h; cases h
      · rintro ⟨b, hb, -⟩; cases hb
  | ok b =>
      constructor
      · intro h; exact ⟨b, rfl, h⟩
      · rintro ⟨_, hb, hf⟩; cases hb; exact hf

/-- A sequence has a result where every step has one. -/
theorem bind_isOk {x : Except ε β} {f : β → Except ε γ} (hx : ∃ b, x = .ok b)
    (hf : ∀ b, ∃ c, f b = .ok c) : ∃ c, x >>= f = .ok c := by
  obtain ⟨b, hb⟩ := hx
  obtain ⟨c, hc⟩ := hf b
  exact ⟨c, bind_eq_ok.mpr ⟨b, hb, hc⟩⟩

-- ================================================================ endings

section
variable {δ : Type} {P : β → Prop} {R : γ → Prop} {Q : ε → Prop}

/-- Any result will do. -/
def Any (_ : β) : Prop := True

/-- Work has such results, and fails in no other than such ways. -/
structure Ends (P : β → Prop) (Q : ε → Prop) (x : Except ε β) : Prop where
  result : ∀ b, x = .ok b → P b
  failure : ∀ e, x = .error e → Q e

theorem ends_ok {b : β} (h : P b) : Ends P Q (.ok b) :=
  ⟨fun _ hb => (by cases hb; exact h), fun _ he => (by cases he)⟩

theorem ends_error {e : ε} (h : Q e) : Ends P Q (.error e) :=
  ⟨fun _ hb => (by cases hb), fun _ he => (by cases he; exact h)⟩

theorem Ends.bind {x : Except ε γ} {next : γ → Except ε β} (hx : Ends R Q x)
    (hnext : ∀ c, R c → Ends P Q (next c)) : Ends P Q (x >>= next) := by
  cases x with
  | error e => exact ends_error (hx.failure e rfl)
  | ok c => exact hnext c (hx.result c rfl)

/-- A step whose result is not looked at any more. -/
theorem Ends.bind_any {x : Except ε γ} {next : γ → Except ε β}
    (hnext : ∀ c, Ends P Q (next c)) (hx : Ends Any Q x) : Ends P Q (x >>= next) :=
  hx.bind fun c _ => hnext c

theorem Ends.ite {c : Prop} [Decidable c] {x y : Except ε β} (hx : c → Ends P Q x)
    (hy : ¬ c → Ends P Q y) : Ends P Q (if c then x else y) := by
  by_cases h : c
  · rw [if_pos h]
    exact hx h
  · rw [if_neg h]
    exact hy h

/-- Behind a refusal what was refused is not there. -/
theorem Ends.unless {c : Prop} [Decidable c] {e : ε} {next : Unit → Except ε β} (he : c → Q e)
    (hnext : ¬ c → Ends P Q (next ())) :
    Ends P Q (if c then (throw e >>= next) else next ()) :=
  .ite (fun h => ends_error (he h)) hnext

/-- Ways of failing may be told with less. -/
theorem Ends.mono {Q' : ε → Prop} (hQ : ∀ e, Q e → Q' e) {x : Except ε β} (hx : Ends P Q x) :
    Ends P Q' x :=
  ⟨hx.result, fun e he => hQ e (hx.failure e he)⟩

theorem Ends.map {f : γ → β} {x : Except ε γ} (hx : Ends Any Q x) : Ends Any Q (f <$> x) := by
  cases x with
  | error e => exact ends_error (hx.failure e rfl)
  | ok c => exact ends_ok trivial

theorem Ends.mapM {f : δ → Except ε β} {ds : List δ} (hf : ∀ d ∈ ds, Ends Any Q (f d)) :
    Ends Any Q (ds.mapM f) := by
  induction ds with
  | nil => exact ends_ok trivial
  | cons d rest ih =>
      obtain ⟨hd, hrest⟩ := List.forall_mem_cons.mp hf
      rw [List.mapM_cons]
      exact .bind_any (fun _ => .bind_any (fun _ => ends_ok trivial) (ih hrest)) hd

theorem Ends.mapM_option {f : δ → Except ε β} (hf : ∀ d, Ends Any Q (f d)) (d? : Option δ) :
    Ends Any Q (d?.mapM f) := by
  cases d? with
  | none => exact ends_ok trivial
  | some d => exact (hf d).map

theorem Ends.forIn {elements : List δ} {step : δ → β → Except ε (ForInStep β)}
    (hstep : ∀ d b, Ends Any Q (step d b)) (start : β) :
    Ends Any Q (forIn elements start step) := by
  induction elements generalizing start with
  | nil => exact ends_ok trivial
  | cons d rest ih =>
      rw [List.forIn_cons]
      refine (hstep d start).bind fun r _ => ?_
      cases r with
      | done b => exact ends_ok trivial
      | yield b => exact ih b

/-- A round of checks that comes to its end has passed all of them. -/
theorem Ends.forIn_checks {C : δ → Prop} {elements : List δ}
    {check : δ → Unit → Except ε (ForInStep Unit)}
    (hcheck : ∀ d u, Ends (fun r => r = .yield () ∧ C d) Q (check d u)) :
    Ends (fun _ => ∀ d ∈ elements, C d) Q (ForIn.forIn elements () check) := by
  induction elements with
  | nil => exact ends_ok fun _ hd => absurd hd List.not_mem_nil
  | cons d rest ih =>
      rw [List.forIn_cons]
      refine (hcheck d ()).bind ?_
      rintro _ ⟨rfl, hd⟩
      exact ⟨fun _ hok => List.forall_mem_cons.mpr ⟨hd, ih.result _ hok⟩, ih.failure⟩

end

-- ================================================================= failures

/-- Why there is no result. -/
def failure? : Except ε β → Option ε
  | .ok _ => none
  | .error e => some e

theorem failure?_map (f : β → γ) (x : Except ε β) : failure? (x.map f) = failure? x := by
  cases x with
  | error e => rfl
  | ok b => rfl

theorem ok_of_failure? {x : Except ε β} (h : failure? x = none) : ∃ b, x = .ok b := by
  cases x with
  | error e => cases h
  | ok b => exact ⟨b, rfl⟩

/-- A part of the result that is known shows that there is a result. -/
theorem ok_of_toOption {x : Except ε β} {part : β → γ} {c : γ}
    (h : x.toOption.map part = some c) : ∃ b, x = .ok b ∧ part b = c := by
  cases x with
  | error e => cases h
  | ok b =>
      injection h with h
      exact ⟨b, rfl, h⟩

/-- Work done for each entry of a list that succeeds as a whole has a result for
every entry, and no other results. -/
theorem of_mapM_eq_ok {f : β → Except ε γ} {entries : List β} {results : List γ}
    (h : entries.mapM f = .ok results) :
    (∀ b ∈ entries, ∃ c ∈ results, f b = .ok c) ∧ ∀ c ∈ results, ∃ b ∈ entries, f b = .ok c := by
  induction entries generalizing results with
  | nil =>
      cases h
      exact ⟨fun _ hb => absurd hb List.not_mem_nil, fun _ hc => absurd hc List.not_mem_nil⟩
  | cons first rest ih =>
      rw [List.mapM_cons] at h
      obtain ⟨c₁, hfirst, h⟩ := bind_eq_ok.mp h
      obtain ⟨others, hrest, h⟩ := bind_eq_ok.mp h
      cases h
      obtain ⟨hall, honly⟩ := ih hrest
      constructor
      · refine List.forall_mem_cons.mpr ⟨⟨c₁, List.mem_cons_self, hfirst⟩, fun b hb => ?_⟩
        obtain ⟨c, hc, hbc⟩ := hall b hb
        exact ⟨c, List.mem_cons_of_mem _ hc, hbc⟩
      · refine List.forall_mem_cons.mpr ⟨⟨first, List.mem_cons_self, hfirst⟩, fun c hc => ?_⟩
        obtain ⟨b, hb, hbc⟩ := honly c hc
        exact ⟨b, List.mem_cons_of_mem _ hb, hbc⟩

/-- Work done for each entry of a list has a result where it has one for every
entry. -/
theorem mapM_isOk {f : β → Except ε γ} {entries : List β} (h : ∀ b ∈ entries, ∃ c, f b = .ok c) :
    ∃ results, entries.mapM f = .ok results := by
  induction entries with
  | nil => exact ⟨[], rfl⟩
  | cons first rest ih =>
      obtain ⟨hfirst, hrest⟩ := List.forall_mem_cons.mp h
      rw [List.mapM_cons]
      exact bind_isOk hfirst fun _ => bind_isOk (ih hrest) fun _ => ⟨_, rfl⟩

/-- A round in which nothing is refused comes to its end. -/
theorem forM_eq_ok {f : β → Except ε Unit} {entries : List β} (h : ∀ b ∈ entries, f b = .ok ()) :
    entries.forM f = .ok () := by
  induction entries with
  | nil => rfl
  | cons first rest ih =>
      obtain ⟨hfirst, hrest⟩ := List.forall_mem_cons.mp h
      show (f first >>= fun _ => rest.forM f) = _
      rw [hfirst, ok_bind]
      exact ih hrest

/-- A calculation that is a step of larger work has its own result. -/
theorem lift_eq_ok {x : Except Fault β} {b : β} :
    (liftM x : Outcome β) = .ok b ↔ x = .ok b := by
  cases x with
  | error e =>
      constructor
      · intro h; cases h
      · intro h; cases h
  | ok b' =>
      constructor
      · intro h; cases h; rfl
      · intro h; cases h; rfl

/-- A calculation that has a result has it as a step of larger work. -/
theorem lift_isOk {x : Except Fault β} (hx : ∃ b, x = .ok b) :
    ∃ b, (liftM x : Outcome β) = .ok b := by
  obtain ⟨b, hb⟩ := hx
  exact ⟨b, lift_eq_ok.mpr hb⟩

end MapSheets.Outcome
