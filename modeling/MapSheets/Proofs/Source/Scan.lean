import MapSheets.Proofs.Cell.Describing
import Mathlib.Data.List.Sort

/-
Scans of a list. A lookup goes through the entries in their order and answers
with the first of which something holds (`FirstWith`); where there is none it
says so, and making the answer never does (`notFound_iff`).

An index spares the scan most of the entries. It gives the positions of those
that may do, in any order; put in order they are the entries that a scan would
keep (`entriesAt_eq_filter`).
-/

namespace MapSheets

/-- The first of a list of which something holds. -/
def FirstWith {β : Type} (P : β → Prop) (entries : List β) (b : β) : Prop :=
  ∃ before after, entries = before ++ b :: after ∧ P b ∧ ∀ d ∈ before, ¬P d

theorem FirstWith.mem {β : Type} {P : β → Prop} {entries : List β} {b : β}
    (h : FirstWith P entries b) : b ∈ entries := by
  obtain ⟨before, after, rfl, -⟩ := h
  exact List.mem_append_right _ List.mem_cons_self

theorem FirstWith.holds {β : Type} {P : β → Prop} {entries : List β} {b : β}
    (h : FirstWith P entries b) : P b := by
  obtain ⟨before, after, -, hb, -⟩ := h
  exact hb

theorem FirstWith.congr {β : Type} {P Q : β → Prop} {entries : List β} {b : β}
    (h : FirstWith P entries b) (hPQ : ∀ d ∈ entries, P d ↔ Q d) : FirstWith Q entries b := by
  obtain ⟨before, after, rfl, hb, hbefore⟩ := h
  refine ⟨before, after, rfl, (hPQ b (by simp)).mp hb, fun d hd hQ => hbefore d hd ?_⟩
  exact (hPQ d (List.mem_append_left _ hd)).mpr hQ

/-- One more entry at the end is the first of its kind, or the first one was there before. -/
theorem firstWith_append_singleton {β : Type} {P : β → Prop} {entries : List β} {b c : β} :
    FirstWith P (entries ++ [b]) c
      ↔ FirstWith P entries c ∨ c = b ∧ P b ∧ ∀ d ∈ entries, ¬P d := by
  constructor
  · rintro ⟨before, after, heq, hc, hbefore⟩
    rcases List.eq_nil_or_concat after with rfl | ⟨after, last, rfl⟩
    · obtain ⟨rfl, hlast⟩ := List.append_inj' heq rfl
      cases hlast
      exact Or.inr ⟨rfl, hc, hbefore⟩
    · have heq : entries ++ [b] = (before ++ c :: after) ++ [last] := by
        simpa using heq
      exact Or.inl ⟨before, after, (List.append_inj' heq rfl).1, hc, hbefore⟩
  · rintro (⟨before, after, rfl, hc, hbefore⟩ | ⟨rfl, hb, hentries⟩)
    · exact ⟨before, after ++ [b], by simp, hc, hbefore⟩
    · exact ⟨entries, [], rfl, hb, hentries⟩

theorem exists_firstWith {β : Type} {P : β → Prop} {entries : List β} (h : ∃ b ∈ entries, P b) :
    ∃ b, FirstWith P entries b := by
  classical
  obtain ⟨b, hb⟩ := Option.isSome_iff_exists.mp
    (List.find?_isSome.mpr (h.imp fun b hb => ⟨hb.1, decide_eq_true hb.2⟩))
  obtain ⟨hP, before, after, hsplit, hbefore⟩ := List.find?_eq_some_iff_append.mp hb
  exact ⟨b, before, after, hsplit, of_decide_eq_true hP, fun d hd => by simpa using hbefore d hd⟩

/-- A lookup that answers with the first entry of some kind, and reports that there
is none where there is none, reports it nowhere else if making an answer never
does. -/
theorem notFound_iff {β γ : Type} {P : β → Prop} {entries : List β} {x : Outcome γ}
    {answer : β → Outcome γ} (hfirst : ∀ b, FirstWith P entries b → x = answer b)
    (hnone : (∀ b ∈ entries, ¬P b) → ∃ e, x = .error e ∧ e.family = .notFound)
    (hanswer : ∀ b, Outcome.Describes (answer b)) :
    (∃ e, x = .error e ∧ e.family = .notFound) ↔ ∀ b ∈ entries, ¬P b := by
  constructor
  · intro ⟨e, he, hfamily⟩ b hb hP
    obtain ⟨c, hc⟩ := exists_firstWith ⟨b, hb, hP⟩
    rw [hfirst c hc] at he
    exact (hanswer c).family_ne_notFound he hfamily
  · exact hnone

theorem FirstWith.filter_eq_cons {β : Type} {test : β → Bool} {entries : List β} {b : β}
    (h : FirstWith (fun b => test b = true) entries b) : ∃ rest, entries.filter test = b :: rest := by
  obtain ⟨before, after, rfl, hb, hbefore⟩ := h
  refine ⟨after.filter test, ?_⟩
  rw [List.filter_append, List.filter_eq_nil_iff.mpr hbefore, List.nil_append,
    List.filter_cons_of_pos hb]

-- =============================================================== positions

section
variable {β : Type} {entries : List β} {found : List Nat} {near : β → Bool}

/-- The entries at some positions, in the order of the list. -/
def entriesAt (entries : List β) (found : List Nat) : List β :=
  (found.mergeSort).filterMap (entries[·]?)

/-- The positions of the entries that are near, each one once, in any order. -/
structure Indexes (near : β → Bool) (entries : List β) (found : List Nat) : Prop where
  nodup : found.Nodup
  mem_iff : ∀ i, i ∈ found ↔ ∃ b, entries[i]? = some b ∧ near b = true

/-- The positions in order, entry by entry. -/
theorem filterMap_range (near : β → Bool) (entries : List β) :
    ((List.range entries.length).filter fun i => (entries[i]?).any near).filterMap (entries[·]?)
      = entries.filter near := by
  induction entries with
  | nil => rfl
  | cons b rest ih =>
      have hshift : ((List.range rest.length).map Nat.succ).filter
            (fun i => ((b :: rest)[i]?).any near)
          = ((List.range rest.length).filter fun i => (rest[i]?).any near).map Nat.succ := by
        rw [List.filter_map]
        rfl
      rw [List.length_cons, List.range_succ_eq_map, List.filter_cons, hshift]
      have hrest : (((List.range rest.length).filter fun i => (rest[i]?).any near).map
          Nat.succ).filterMap ((b :: rest)[·]?) = rest.filter near := by
        rw [List.filterMap_map, ← ih]
        rfl
      cases hb : near b with
      | true => simp [hb, hrest]
      | false => simp [hb, hrest]

/-- Put in order, what an index gives is what a scan keeps. -/
theorem entriesAt_eq_filter (h : Indexes near entries found) :
    entriesAt entries found = entries.filter near := by
  have hpositions : ((List.range entries.length).filter fun i => (entries[i]?).any near).Nodup :=
    List.nodup_range.filter _
  have hmem : ∀ i, i ∈ found
      ↔ i ∈ (List.range entries.length).filter fun i => (entries[i]?).any near := by
    intro i
    rw [h.mem_iff, List.mem_filter, List.mem_range, Option.any_eq_true]
    constructor
    · intro ⟨b, hb, hnear⟩
      exact ⟨(List.getElem?_eq_some_iff.mp hb).1, b, hb, hnear⟩
    · exact And.right
  have hordered : found.mergeSort.Pairwise (· ≤ ·) := List.pairwise_mergeSort' (· ≤ ·) found
  have hsorted : found.mergeSort
      = (List.range entries.length).filter fun i => (entries[i]?).any near :=
    List.Perm.eq_of_pairwise (fun _ _ _ _ => Nat.le_antisymm) hordered
      ((List.pairwise_le_range).filter _)
      ((List.mergeSort_perm found _).trans ((List.perm_ext_iff_of_nodup h.nodup hpositions).mpr hmem))
  unfold entriesAt
  rw [hsorted, filterMap_range]

end

end MapSheets
