import MapSheets.Proofs.Source.Loading
import Mathlib.Data.List.Induction

/-
Calls of a registry, one after the other. A call leaves a registry, and may
fail (`perform`); a run begins with the registry that holds nothing (`after`).

The invariant of a run, `Kept`, ties the stored cleanups to the types: a type
that is not registered has no cleanup, and one that is registered has what came
with its last registration (`LastRegistered`). Only `register` and `unregister`
touch either (`perform_cases`). A call that fails leaves the registry as
it was, except that loading keeps what came before the configuration at fault.
-/

namespace MapSheets.Registry

variable {π κ : Type}

/-- A call of a registry. -/
inductive Call (π κ : Type) where
  | register (type : String) (build : Builder π) (cleanup : Option κ)
  | unregister (type : String)
  | providerFor (type : String) (config : ProviderConfig)
  | addNamed (name : String) (provider : π)
  | named (name : String)
  | load (configs : List Json)
  | cleanup

/-- The registry that a call leaves, and why it failed if it did. A cleanup that
is handed over to be run knows nothing of the registry. -/
def perform (r : Registry π κ) : Call π κ → Registry π κ × Option Failure
  | .register type build cleanup =>
    match r.register type build cleanup with
    | .ok next => (next, none)
    | .error f => (r, some f)
  | .unregister type =>
    match r.unregister type with
    | .ok (next, _) => (next, none)
    | .error f => (r, some f)
  | .providerFor type config => (r, Outcome.failure? (r.providerFor type config).outcome)
  | .addNamed name provider => (r.addNamed name provider, none)
  | .named name => (r, Outcome.failure? (r.named name))
  | .load configs => ((r.load configs).1, Outcome.failure? (r.load configs).2.outcome)
  | .cleanup => (r.cleanup.1, none)

/-- The registry after a run of calls. -/
def after (calls : List (Call π κ)) : Registry π κ :=
  calls.foldl (fun r call => (r.perform call).1) {}

theorem after_append_singleton (calls : List (Call π κ)) (call : Call π κ) :
    after (calls ++ [call]) = ((after calls).perform call).1 := by
  simp [after]

-- ================================================================== steps

theorem perform_register_of_free {r : Registry π κ} {type : String}
    (h : r.types.lookup type = none) (build : Builder π) (cleanup : Option κ) :
    r.perform (.register type build cleanup) = ({ r with
      types := Entries.set type build r.types
      cleanups := cleanup.elim r.cleanups (Entries.set type · r.cleanups) }, none) := by
  have hdone : r.register type build cleanup = .ok { r with
      types := Entries.set type build r.types
      cleanups := cleanup.elim r.cleanups (Entries.set type · r.cleanups) } := by
    cases cleanup with
    | none => simp [register, h]
    | some c => simp [register, h]
  simp only [perform, hdone]

theorem perform_register_of_taken {r : Registry π κ} {type : String} {known : Builder π}
    (h : r.types.lookup type = some known) (build : Builder π) (cleanup : Option κ) :
    r.perform (.register type build cleanup) = (r, some (.typeTaken type)) := by
  have hdone : r.register type build cleanup = .error (.typeTaken type) := by simp [register, h]
  simp only [perform, hdone]

theorem perform_unregister_of_known {r : Registry π κ} {type : String} {known : Builder π}
    (h : r.types.lookup type = some known) :
    r.perform (.unregister type) = ({ r with
      types := Entries.drop type r.types
      cleanups := Entries.drop type r.cleanups }, none) := by
  have hdone : r.unregister type = .ok ({ r with
      types := Entries.drop type r.types
      cleanups := Entries.drop type r.cleanups }, r.cleanups.lookup type) := by
    simp [unregister, h]
  simp only [perform, hdone]

theorem perform_unregister_of_unknown {r : Registry π κ} {type : String}
    (h : r.types.lookup type = none) :
    r.perform (.unregister type) = (r, some (.typeUnknown type)) := by
  have hdone : r.unregister type = .error (.typeUnknown type) := by simp [unregister, h]
  simp only [perform, hdone]

/-- What a call can do to the types and the cleanups: a type that was free is
registered, or one that was known is taken out; nothing else touches them, and
a registration among that is one that failed. -/
theorem perform_cases (r : Registry π κ) (call : Call π κ) :
    (∃ type build cleanup, call = .register type build cleanup ∧ r.types.lookup type = none)
      ∨ (∃ type known, call = .unregister type ∧ r.types.lookup type = some known)
      ∨ (r.perform call).1.types = r.types ∧ (r.perform call).1.cleanups = r.cleanups
        ∧ ∀ type build cleanup, call = .register type build cleanup →
          (r.perform call).2 ≠ none := by
  cases call with
  | register type build cleanup =>
      cases htype : r.types.lookup type with
      | none => exact Or.inl ⟨type, build, cleanup, rfl, htype⟩
      | some known =>
          rw [perform_register_of_taken htype]
          exact Or.inr (Or.inr ⟨rfl, rfl, fun _ _ _ _ h => by cases h⟩)
  | unregister type =>
      cases htype : r.types.lookup type with
      | none =>
          rw [perform_unregister_of_unknown htype]
          exact Or.inr (Or.inr ⟨rfl, rfl, fun _ _ _ h => by cases h⟩)
      | some known => exact Or.inr (Or.inl ⟨type, known, rfl, htype⟩)
  | load configs =>
      obtain ⟨htypes, hcleanups⟩ := load_frame r configs
      exact Or.inr (Or.inr ⟨htypes, hcleanups, fun _ _ _ h => by cases h⟩)
  | providerFor type config => exact Or.inr (Or.inr ⟨rfl, rfl, fun _ _ _ h => by cases h⟩)
  | addNamed name provider => exact Or.inr (Or.inr ⟨rfl, rfl, fun _ _ _ h => by cases h⟩)
  | named name => exact Or.inr (Or.inr ⟨rfl, rfl, fun _ _ _ h => by cases h⟩)
  | cleanup => exact Or.inr (Or.inr ⟨rfl, rfl, fun _ _ _ h => by cases h⟩)

/-- A call that does not load leaves the registry as it was if it fails. -/
theorem perform_of_failure {r : Registry π κ} {call : Call π κ} {f : Failure}
    (hload : ∀ configs, call ≠ .load configs) (h : (r.perform call).2 = some f) :
    (r.perform call).1 = r := by
  cases call with
  | register type build cleanup =>
      cases htype : r.types.lookup type with
      | none =>
          rw [perform_register_of_free htype] at h
          cases h
      | some known => rw [perform_register_of_taken htype]
  | unregister type =>
      cases htype : r.types.lookup type with
      | none => rw [perform_unregister_of_unknown htype]
      | some known =>
          rw [perform_unregister_of_known htype] at h
          cases h
  | load configs => exact absurd rfl (hload configs)
  | providerFor type config => rfl
  | addNamed name provider => cases h
  | named name => rfl
  | cleanup => cases h

-- ========================================================== registrations

/-- The last registration of a type that succeeded in a run came with this
builder and this cleanup: whoever tried again later was refused. -/
def LastRegistered (calls : List (Call π κ)) (type : String) (build : Builder π)
    (cleanup : Option κ) : Prop :=
  ∃ earlier later, calls = earlier ++ .register type build cleanup :: later
    ∧ ((after earlier).perform (.register type build cleanup)).2 = none
    ∧ ∀ middle rest build' cleanup', later = middle ++ .register type build' cleanup' :: rest →
      ((after (earlier ++ .register type build cleanup :: middle)).perform
        (.register type build' cleanup')).2 ≠ none

theorem lastRegistered_self {calls : List (Call π κ)} {type : String} {build : Builder π}
    {cleanup : Option κ}
    (h : ((after calls).perform (.register type build cleanup)).2 = none) :
    LastRegistered (calls ++ [.register type build cleanup]) type build cleanup :=
  ⟨calls, [], rfl, h, fun middle _ _ _ hnil => by cases middle <;> cases hnil⟩

/-- A registration stays the last one after a call that is none of its type. -/
theorem LastRegistered.append {calls : List (Call π κ)} {type : String} {build : Builder π}
    {cleanup : Option κ} (h : LastRegistered calls type build cleanup) {call : Call π κ}
    (hnot : ∀ build' cleanup', call = .register type build' cleanup' →
      ((after calls).perform call).2 ≠ none) :
    LastRegistered (calls ++ [call]) type build cleanup := by
  obtain ⟨earlier, later, rfl, hdone, hlater⟩ := h
  refine ⟨earlier, later ++ [call], by simp, hdone, fun middle rest build' cleanup' heq => ?_⟩
  rcases List.eq_nil_or_concat rest with rfl | ⟨rest, last, rfl⟩
  · -- the new call is the one that registers
    obtain ⟨rfl, hcall⟩ := List.append_inj' heq rfl
    cases hcall
    exact hnot build' cleanup' rfl
  · have heq : later ++ [call] = (middle ++ .register type build' cleanup' :: rest) ++ [last] := by
      simpa using heq
    exact hlater middle rest build' cleanup' (List.append_inj' heq rfl).1

/-- The cleanups of a registry after a run: every name stands once, a type that
is not registered has none, and one that is registered has what came with its
last registration. -/
structure Kept (calls : List (Call π κ)) : Prop where
  names : ((after calls).cleanups.map (·.1)).Nodup
  absent : ∀ type, (after calls).types.lookup type = none →
    (after calls).cleanups.lookup type = none
  latest : ∀ type build, (after calls).types.lookup type = some build →
    LastRegistered calls type build ((after calls).cleanups.lookup type)

theorem kept_nil : Kept ([] : List (Call π κ)) :=
  ⟨List.nodup_nil, fun _ _ => rfl, fun _ _ h => by cases h⟩

section

variable {calls : List (Call π κ)}

/-- A type that was free had no cleanup, so it has the one that it comes with. -/
theorem Kept.register (h : Kept calls) {type : String} {build : Builder π} {cleanup : Option κ}
    (hfree : (after calls).types.lookup type = none) :
    Kept (calls ++ [.register type build cleanup]) := by
  have hperform := perform_register_of_free hfree build cleanup
  have hlookup : ∀ t, (cleanup.elim (after calls).cleanups
      (Entries.set type · (after calls).cleanups)).lookup t
        = if t = type then cleanup else (after calls).cleanups.lookup t := by
    intro t
    cases cleanup with
    | none =>
        by_cases ht : t = type
        · rw [if_pos ht, ht]
          exact h.absent type hfree
        · rw [if_neg ht]
          rfl
    | some c => exact Entries.lookup_set type c _ t
  constructor
  case names =>
    rw [after_append_singleton, hperform]
    cases cleanup with
    | none => exact h.names
    | some c => exact Entries.nodup_set h.names type c
  case absent =>
    intro t ht
    rw [after_append_singleton, hperform, Entries.lookup_set] at ht
    rw [after_append_singleton, hperform, hlookup]
    split at ht
    case isTrue => cases ht
    case isFalse hne =>
      rw [if_neg hne]
      exact h.absent t ht
  case latest =>
    intro t build' ht
    rw [after_append_singleton, hperform, Entries.lookup_set] at ht
    rw [after_append_singleton, hperform, hlookup]
    split at ht
    case isTrue heq =>
      cases ht
      rw [if_pos heq, heq]
      exact lastRegistered_self (by rw [hperform])
    case isFalse hne =>
      rw [if_neg hne]
      exact (h.latest t build' ht).append fun _ _ hcall => by cases hcall; exact absurd rfl hne

/-- The cleanup of a type goes with it. -/
theorem Kept.unregister (h : Kept calls) {type : String} {known : Builder π}
    (hknown : (after calls).types.lookup type = some known) :
    Kept (calls ++ [.unregister type]) := by
  have hperform := perform_unregister_of_known hknown
  constructor
  case names =>
    rw [after_append_singleton, hperform]
    exact Entries.nodup_drop h.names type
  case absent =>
    intro t ht
    rw [after_append_singleton, hperform, Entries.lookup_drop] at ht
    rw [after_append_singleton, hperform, Entries.lookup_drop]
    split at ht
    case isTrue heq => exact if_pos heq
    case isFalse hne =>
      rw [if_neg hne]
      exact h.absent t ht
  case latest =>
    intro t build ht
    rw [after_append_singleton, hperform, Entries.lookup_drop] at ht
    rw [after_append_singleton, hperform, Entries.lookup_drop]
    split at ht
    case isTrue => cases ht
    case isFalse hne =>
      rw [if_neg hne]
      exact (h.latest t build ht).append fun _ _ hcall => by cases hcall

theorem Kept.append (h : Kept calls) (call : Call π κ) : Kept (calls ++ [call]) := by
  rcases perform_cases (after calls) call with
    ⟨type, build, cleanup, rfl, hfree⟩ | ⟨type, known, rfl, hknown⟩ | ⟨htypes, hcleanups, hnot⟩
  · exact h.register hfree
  · exact h.unregister hknown
  · rw [← after_append_singleton] at htypes hcleanups
    constructor
    case names => rw [hcleanups]; exact h.names
    case absent => rw [htypes, hcleanups]; exact h.absent
    case latest =>
      rw [htypes, hcleanups]
      exact fun type build htype => (h.latest type build htype).append (hnot type)

end

theorem kept_of_run (calls : List (Call π κ)) : Kept calls := by
  induction calls using List.reverseRecOn with
  | nil => exact kept_nil
  | append_singleton calls call ih => exact ih.append call

-- ==================================================================== runs

/-- A cleanup that is kept after a run is the one that its type was last
registered with, and its type is registered. -/
theorem lastRegistered_of_mem {calls : List (Call π κ)} {type : String} {c : κ}
    (hmem : (type, c) ∈ (after calls).cleanups) :
    ∃ build, (after calls).types.lookup type = some build
      ∧ LastRegistered calls type build (some c) := by
  have hkept := kept_of_run calls
  have hlookup : (after calls).cleanups.lookup type = some c :=
    Entries.lookup_of_mem hkept.names hmem
  cases htype : (after calls).types.lookup type with
  | none =>
      rw [hkept.absent type htype] at hlookup
      cases hlookup
  | some build =>
      have hlast := hkept.latest type build htype
      rw [hlookup] at hlast
      exact ⟨build, rfl, hlast⟩

/-- Loading that fails at a configuration leaves the names that those before it
have given, the later of two providers of one name in place of the earlier. -/
theorem perform_load_of_stopsAt {r : Registry π κ} {configs : List Json} {k : Nat} {f : Failure}
    (h : r.StopsAt configs k f) :
    (r.perform (.load configs)).1 = (r.load (configs.take k)).1
      ∧ (r.perform (.load configs)).2 = some f
      ∧ ∀ name, (r.perform (.load configs)).1.byName.lookup name
        = (latest? (r.made (configs.take k)) name).or (r.byName.lookup name) := by
  obtain ⟨hstate, hfailure⟩ := load_of_stopsAt h
  refine ⟨hstate, hfailure, fun name => ?_⟩
  show (r.load configs).1.byName.lookup name = _
  rw [hstate]
  exact lookup_load r (configs.take k) name

/-- What holds of a registry after any run, and of the next call. Each cleanup
belongs to a registered type, as it was last registered. A call that fails
without loading leaves the registry as it was. Loading fails where one
configuration fails, with the types and the cleanups as they were and the names
as the configurations before it give them. Dropping the names drops only those. -/
theorem run_keeps_registry (calls : List (Call π κ)) :
    (∀ type c, (type, c) ∈ (after calls).cleanups →
        ∃ build, (after calls).types.lookup type = some build
          ∧ LastRegistered calls type build (some c))
      ∧ (∀ call f, (∀ configs, call ≠ .load configs) →
          ((after calls).perform call).2 = some f → ((after calls).perform call).1 = after calls)
      ∧ (∀ configs, (∀ f, ((after calls).perform (.load configs)).2 = some f →
            ∃ k < configs.length, (after calls).StopsAt configs k f)
          ∧ ∀ k f, (after calls).StopsAt configs k f →
            ((after calls).perform (.load configs)).2 = some f
              ∧ (after (calls ++ [.load configs])).types = (after calls).types
              ∧ (after (calls ++ [.load configs])).cleanups = (after calls).cleanups
              ∧ (after (calls ++ [.load configs])).byName
                = (after (calls ++ [.load (configs.take k)])).byName
              ∧ ∀ name, (after (calls ++ [.load configs])).byName.lookup name
                = (latest? ((after calls).made (configs.take k)) name).or
                    ((after calls).byName.lookup name))
      ∧ (after (calls ++ [.cleanup])).types = (after calls).types
      ∧ (after (calls ++ [.cleanup])).cleanups = (after calls).cleanups
      ∧ (after (calls ++ [.cleanup])).byName = [] := by
  simp only [after_append_singleton]
  refine ⟨fun type c hmem => lastRegistered_of_mem hmem,
    fun call f hload h => perform_of_failure hload h, fun configs => ⟨?_, ?_⟩, rfl, rfl, rfl⟩
  case refine_1 => exact fun f h => exists_stopsAt h
  case refine_2 =>
    intro k f h
    obtain ⟨hstate, hfailure, hnames⟩ := perform_load_of_stopsAt h
    obtain ⟨htypes, hcleanups⟩ := load_frame (after calls) configs
    exact ⟨hfailure, htypes, hcleanups, congrArg (·.byName) hstate, hnames⟩

/-- Makes what stands under another name. -/
def sameAs : Builder Nat := fun config named => liftM (named (fieldText config "of"))

/-- A type that is taken out and comes back with a cleanup, and something named. -/
def returning : List (Call Nat String) :=
  [.register "same" sameAs none, .unregister "same", .register "same" sameAs (some "close"),
   .addNamed "a" 1]

/-- Another name for it, and one for what has no name. -/
def sameConfigs : List Json :=
  [.obj [("name", .str "b"), ("type", .str "same"), ("of", .str "a")],
   .obj [("name", .str "a"), ("type", .str "same"), ("of", .str "c")]]

/-- The second registration counts, and the loading that fails keeps the first name. -/
theorem run_keeps_registry_returning :
    (∃ build, LastRegistered returning "same" build (some "close"))
      ∧ ((after returning).perform (.load sameConfigs)).2 = some (.providerUnknown "c")
      ∧ (after (returning ++ [.load sameConfigs])).byName = [("a", 1), ("b", 1)] := by
  obtain ⟨hcleanups, -, hload, -⟩ := run_keeps_registry returning
  have hstops : (after returning).StopsAt sameConfigs 1 (.providerUnknown "c") :=
    ⟨by decide +kernel, by decide +kernel⟩
  obtain ⟨build, -, hlast⟩ := hcleanups "same" "close" (by decide +kernel)
  obtain ⟨hfailure, -, -, hnames, -⟩ := (hload sameConfigs).2 1 _ hstops
  refine ⟨⟨build, hlast⟩, hfailure, hnames.trans ?_⟩
  decide +kernel

end MapSheets.Registry
