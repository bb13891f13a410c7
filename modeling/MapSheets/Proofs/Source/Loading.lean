import MapSheets.Proofs.Entries
import MapSheets.Proofs.Outcome
import MapSheets.Proofs.Work
import MapSheets.Source.Registry

/-
What loading leaves in a registry. Configurations are taken in order, and what
holds of a registry is kept if it is kept by each provider that is put under
its name (`load_keeps`). So loading leaves the types and their cleanups alone,
and under a name stands the last provider that was made for it (`lookup_load`).

Loading goes on from where a first part of the configurations has led
(`load_append_of_ok`), and does nothing more after a failure
(`load_append_of_error`). Hence a failure comes from one configuration
(`exists_stopsAt`), and the registry is left as the ones before it have made
it (`load_of_stopsAt`).
-/

namespace MapSheets.Registry

variable {π κ : Type} {r : Registry π κ} {configs : List Json} {config : Json} {name : String}
  {provider : π} {f : Failure}

-- ================================================================== steps

theorem load_cons_of_error (h : (r.loadOne config).outcome = .error f) (rest : List Json) :
    (r.load (config :: rest)).1 = r
      ∧ Outcome.failure? (r.load (config :: rest)).2.outcome = some f := by
  rw [load, h]
  exact ⟨rfl, rfl⟩

theorem load_cons_of_ok (h : (r.loadOne config).outcome = .ok (name, provider))
    (rest : List Json) :
    (r.load (config :: rest)).1 = ((r.addNamed name provider).load rest).1
      ∧ Outcome.failure? (r.load (config :: rest)).2.outcome
        = Outcome.failure? ((r.addNamed name provider).load rest).2.outcome := by
  rw [load, h]
  exact ⟨rfl, Outcome.failure?_map _ _⟩

/-- A configuration with a name and a type that is known is loaded as the type builds
it. -/
theorem loadOne_of_type {fields : ProviderConfig} {build : Builder π}
    (hname : fieldText fields "name" ≠ "") (htype : fieldText fields "type" ≠ "")
    (hbuild : r.types.lookup (fieldText fields "type") = some build) :
    (r.loadOne (.obj fields)).outcome
      = (build fields r.named).outcome.map (fieldText fields "name", ·) := by
  have hfor : r.providerFor (fieldText fields "type") fields = build fields r.named := by
    rw [providerFor, hbuild]
  simp only [loadOne, hname, htype, hfor, if_false]
  cases hbuilt : (build fields r.named).outcome with
  | error f =>
      rw [Work.outcome_note, Work.outcome_bind_error hbuilt]
      rfl
  | ok provider =>
      rw [Work.outcome_note, Work.outcome_bind_ok hbuilt]
      rfl

/-- What every provider that is put under its name keeps, loading keeps. -/
theorem load_keeps {P : Registry π κ → Prop}
    (hstep : ∀ r config name provider, P r → (r.loadOne config).outcome = .ok (name, provider) →
      P (r.addNamed name provider)) (configs : List Json) (hr : P r) :
    P (r.load configs).1 := by
  induction configs generalizing r with
  | nil => exact hr
  | cons config rest ih =>
      cases hone : (r.loadOne config).outcome with
      | error f =>
          rw [(load_cons_of_error hone rest).1]
          exact hr
      | ok made =>
          obtain ⟨name, provider⟩ := made
          rw [(load_cons_of_ok hone rest).1]
          exact ih (hstep r config name provider hr hone)

/-- Loading leaves the types and their cleanups as they are. -/
theorem load_frame (r : Registry π κ) (configs : List Json) :
    (r.load configs).1.types = r.types ∧ (r.load configs).1.cleanups = r.cleanups :=
  @load_keeps π κ r (fun r' => r'.types = r.types ∧ r'.cleanups = r.cleanups)
    (fun _ _ _ _ hr _ => hr) configs ⟨rfl, rfl⟩

-- ================================================================== names

/-- The providers that loading makes, each with its name, in the order in which
they are made. -/
def made (r : Registry π κ) : List Json → List (String × π)
  | [] => []
  | config :: rest =>
    match (r.loadOne config).outcome with
    | .ok (name, provider) => (name, provider) :: (r.addNamed name provider).made rest
    | .error _ => []

/-- The last provider of a name among some that were made. -/
def latest? (made : List (String × π)) (name : String) : Option π := made.reverse.lookup name

theorem latest?_append (earlier later : List (String × π)) (name : String) :
    latest? (earlier ++ later) name = (latest? later name).or (latest? earlier name) := by
  unfold latest?
  rw [List.reverse_append, List.lookup_append]

theorem lookup_addNamed (r : Registry π κ) (name : String) (provider : π) (n : String) :
    (r.addNamed name provider).byName.lookup n
      = (latest? [(name, provider)] n).or (r.byName.lookup n) := by
  show (Entries.set name provider r.byName).lookup n = (([(name, provider)] : List _).lookup n).or _
  rw [Entries.lookup_set, Entries.lookup_cons_eq]
  by_cases hn : n = name
  · simp [hn]
  · simp [hn]

/-- Under a name stands the last provider that was made for it, or what stood
there before. -/
theorem lookup_load (r : Registry π κ) (configs : List Json) (n : String) :
    (r.load configs).1.byName.lookup n
      = (latest? (r.made configs) n).or (r.byName.lookup n) := by
  induction configs generalizing r with
  | nil => rfl
  | cons config rest ih =>
      unfold made
      cases hone : (r.loadOne config).outcome with
      | error f =>
          rw [(load_cons_of_error hone rest).1]
          rfl
      | ok made =>
          obtain ⟨name, provider⟩ := made
          rw [(load_cons_of_ok hone rest).1, ih, lookup_addNamed, ← Option.or_assoc,
            ← latest?_append]
          rfl

-- ============================================================ in two parts

theorem load_append_of_error (h : Outcome.failure? (r.load configs).2.outcome = some f)
    (later : List Json) :
    (r.load (configs ++ later)).1 = (r.load configs).1
      ∧ Outcome.failure? (r.load (configs ++ later)).2.outcome = some f := by
  induction configs generalizing r with
  | nil => cases h
  | cons config rest ih =>
      rw [List.cons_append]
      cases hone : (r.loadOne config).outcome with
      | error f' =>
          obtain ⟨hstate, hfailure⟩ := load_cons_of_error hone rest
          obtain ⟨hstate', hfailure'⟩ := load_cons_of_error hone (rest ++ later)
          exact ⟨hstate'.trans hstate.symm, hfailure'.trans (hfailure.symm.trans h)⟩
      | ok made =>
          obtain ⟨name, provider⟩ := made
          obtain ⟨hstate, hfailure⟩ := load_cons_of_ok hone rest
          obtain ⟨hstate', hfailure'⟩ := load_cons_of_ok hone (rest ++ later)
          rw [hstate, hstate', hfailure']
          exact ih (hfailure.symm.trans h)

theorem load_append_of_ok (h : Outcome.failure? (r.load configs).2.outcome = none)
    (later : List Json) :
    (r.load (configs ++ later)).1 = ((r.load configs).1.load later).1
      ∧ Outcome.failure? (r.load (configs ++ later)).2.outcome
        = Outcome.failure? ((r.load configs).1.load later).2.outcome := by
  induction configs generalizing r with
  | nil => exact ⟨rfl, rfl⟩
  | cons config rest ih =>
      rw [List.cons_append]
      cases hone : (r.loadOne config).outcome with
      | error f' =>
          rw [(load_cons_of_error hone rest).2] at h
          cases h
      | ok made =>
          obtain ⟨name, provider⟩ := made
          obtain ⟨hstate, hfailure⟩ := load_cons_of_ok hone rest
          obtain ⟨hstate', hfailure'⟩ := load_cons_of_ok hone (rest ++ later)
          rw [hstate, hstate', hfailure']
          exact ih (hfailure.symm.trans h)

theorem load_take_succ {k : Nat} (hk : configs[k]? = some config)
    (h : Outcome.failure? (r.load (configs.take k)).2.outcome = none) :
    (r.load (configs.take (k + 1))).1 = ((r.load (configs.take k)).1.load [config]).1
      ∧ Outcome.failure? (r.load (configs.take (k + 1))).2.outcome
        = Outcome.failure? ((r.load (configs.take k)).1.load [config]).2.outcome := by
  rw [List.take_add_one, hk]
  exact load_append_of_ok h [config]

/-- A configuration that fails on its own leaves the registry as it was. -/
theorem load_singleton_of_error (h : Outcome.failure? (r.load [config]).2.outcome = some f) :
    (r.load [config]).1 = r := by
  cases hone : (r.loadOne config).outcome with
  | error f' => exact (load_cons_of_error hone []).1
  | ok made =>
      rw [(load_cons_of_ok hone []).2] at h
      cases h

-- =============================================================== failures

/-- Loading fails at a configuration, counted from zero: those before it can be
loaded, and it cannot. -/
def StopsAt (r : Registry π κ) (configs : List Json) (k : Nat) (f : Failure) : Prop :=
  Outcome.failure? (r.load (configs.take k)).2.outcome = none
    ∧ Outcome.failure? (r.load (configs.take (k + 1))).2.outcome = some f

theorem exists_stopsAt (h : Outcome.failure? (r.load configs).2.outcome = some f) :
    ∃ k < configs.length, r.StopsAt configs k f := by
  induction configs generalizing r with
  | nil => cases h
  | cons config rest ih =>
      cases hone : (r.loadOne config).outcome with
      | error f' =>
          refine ⟨0, Nat.succ_pos _, rfl, ?_⟩
          rw [(load_cons_of_error hone rest).2] at h
          exact (load_cons_of_error hone []).2.trans h
      | ok made =>
          obtain ⟨name, provider⟩ := made
          rw [(load_cons_of_ok hone rest).2] at h
          obtain ⟨k, hk, hbefore, hat⟩ := ih h
          exact ⟨k + 1, Nat.succ_lt_succ hk, (load_cons_of_ok hone _).2.trans hbefore,
            (load_cons_of_ok hone _).2.trans hat⟩

theorem StopsAt.lt_length {k : Nat} (h : r.StopsAt configs k f) : k < configs.length := by
  by_contra hk
  have hlength := Nat.le_of_not_lt hk
  obtain ⟨hbefore, hat⟩ := h
  rw [List.take_of_length_le hlength] at hbefore
  rw [List.take_of_length_le (Nat.le_succ_of_le hlength), hbefore] at hat
  cases hat

/-- Loading that fails leaves the registry as the configurations before the one
at fault have made it. -/
theorem load_of_stopsAt {k : Nat} (h : r.StopsAt configs k f) :
    (r.load configs).1 = (r.load (configs.take k)).1
      ∧ Outcome.failure? (r.load configs).2.outcome = some f := by
  have hk := h.lt_length
  obtain ⟨hbefore, hat⟩ := h
  obtain ⟨hstate, hfailure⟩ := load_append_of_error hat (configs.drop (k + 1))
  rw [List.take_append_drop] at hstate hfailure
  refine ⟨hstate.trans ?_, hfailure⟩
  obtain ⟨hlast, hlastFailure⟩ := load_take_succ (List.getElem?_eq_getElem hk) hbefore
  rw [hlast]
  exact load_singleton_of_error (hlastFailure.symm.trans hat)

end MapSheets.Registry
