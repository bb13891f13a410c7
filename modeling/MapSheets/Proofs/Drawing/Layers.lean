import MapSheets.Drawing.Layers
import MapSheets.Proofs.Source.Scan
import Mathlib.Algebra.Order.Ring.Unbundled.Rat
import Mathlib.Data.List.Induction

/-
Layers from their registration to the drawing. A run is any sequence of
registrations and of draws into layers; a call that fails leaves the layers as they
were (`perform`). The invariant of a run says which layers there are (`Registered`):
of the registrations under a proper name the first one under each, in their order.

How layers are stacked hangs on nothing but their heights and this order. `Stacks`
has the three conditions on a stack, and they leave one list only (`Stacks.unique`);
so the layers inside the frame and those in the margin, each stacked on their own,
are two parts of the one stack (`stacked_eq_filter`).
-/

namespace MapSheets

/-- What a layer is registered with. -/
structure Registration where
  id : String
  zOrder : Rat
  inFrame : Bool
  visible : Bool

/-- The registration of a layer, whatever has been drawn into it since. -/
def Layer.registration {α : Type} (l : Layer α) : Registration :=
  ⟨l.id, l.zOrder, l.inFrame, l.visible⟩

-- ============================================================ registrations

/-- Of some registrations the first one under each proper name, in their order. -/
structure FirstOfEach (tried kept : List Registration) : Prop where
  names : (kept.map (·.id)).Nodup
  order : kept.Sublist tried
  mem_iff : ∀ r, r ∈ kept ↔
    AttributeKind.isName r.id = true ∧ FirstWith (·.id = r.id) tried r

namespace FirstOfEach

variable {tried kept : List Registration} {r : Registration}

theorem nil : FirstOfEach [] [] where
  names := List.nodup_nil
  order := List.Sublist.slnil
  mem_iff r := by
    constructor
    · intro h
      exact absurd h List.not_mem_nil
    · rintro ⟨-, hfirst⟩
      exact absurd hfirst.mem List.not_mem_nil

/-- A proper name that was tried was kept. -/
theorem taken_iff (h : FirstOfEach tried kept) {id : String}
    (hname : AttributeKind.isName id = true) :
    (∃ s ∈ kept, s.id = id) ↔ ∃ s ∈ tried, s.id = id := by
  constructor
  · rintro ⟨s, hs, hid⟩
    exact ⟨s, h.order.subset hs, hid⟩
  · intro hs
    obtain ⟨s, hfirst⟩ := exists_firstWith hs
    have hid : s.id = id := hfirst.holds
    subst hid
    exact ⟨s, (h.mem_iff s).mpr ⟨hname, hfirst⟩, rfl⟩

/-- A registration is not kept if its name is taken or is none. -/
theorem refuse (h : FirstOfEach tried kept)
    (hr : AttributeKind.isName r.id = true → ∃ s ∈ kept, s.id = r.id) :
    FirstOfEach (tried ++ [r]) kept where
  names := h.names
  order := h.order.trans (List.sublist_append_left _ _)
  mem_iff s := by
    rw [h.mem_iff]
    refine and_congr_right fun hname => ?_
    rw [firstWith_append_singleton]
    refine (or_iff_left ?_).symm
    rintro ⟨rfl, -, hnew⟩
    obtain ⟨earlier, hearlier, hid⟩ := hr hname
    exact hnew earlier (h.order.subset hearlier) hid

/-- A registration under a proper name that is free is kept after the others. -/
theorem keep (h : FirstOfEach tried kept) (hname : AttributeKind.isName r.id = true)
    (hfree : ¬∃ s ∈ kept, s.id = r.id) : FirstOfEach (tried ++ [r]) (kept ++ [r]) where
  names := by
    rw [List.map_append, List.nodup_append']
    refine ⟨h.names, List.nodup_singleton _, ?_⟩
    simpa [List.disjoint_singleton] using hfree
  order := h.order.append (List.Sublist.refl _)
  mem_iff s := by
    have hnew : ∀ t ∈ tried, ¬t.id = r.id := fun t ht hid =>
      hfree ((h.taken_iff hname).mpr ⟨t, ht, hid⟩)
    rw [List.mem_append, List.mem_singleton, firstWith_append_singleton, h.mem_iff]
    constructor
    · rintro (⟨hproper, hfirst⟩ | rfl)
      · exact ⟨hproper, Or.inl hfirst⟩
      · exact ⟨hname, Or.inr ⟨rfl, rfl, hnew⟩⟩
    · rintro ⟨hproper, hfirst | ⟨rfl, -⟩⟩
      · exact Or.inl ⟨hproper, hfirst⟩
      · exact Or.inr rfl

end FirstOfEach

namespace Layers

variable {α : Type}

-- ==================================================================== calls

/-- A call on the layers of a drawing. -/
inductive Call (α : Type) where
  | register (r : Registration)
  | draw (id : String) (elements : List (Element α))

/-- The layers that a call leaves, and why it failed if it did. -/
def perform (ls : Layers α) : Call α → Layers α × Option Failure
  | .register r =>
    match ls.register r.id r.zOrder r.inFrame r.visible with
    | .ok next => (next, none)
    | .error f => (ls, some f)
  | .draw id elements => (ls.draw id elements, none)

/-- The layers after a run of calls. -/
def after (calls : List (Call α)) : Layers α :=
  calls.foldl (fun ls call => (ls.perform call).1) empty

theorem after_append_singleton (calls : List (Call α)) (call : Call α) :
    after (calls ++ [call]) = ((after calls).perform call).1 := by
  simp [after]

/-- The registrations of a run, those that failed among them. -/
def tried (calls : List (Call α)) : List Registration :=
  calls.filterMap fun
    | .register r => some r
    | .draw _ _ => none

/-- The registrations of the layers that there are. -/
def kept (ls : Layers α) : List Registration := ls.entries.map Layer.registration

section

variable {ls : Layers α} {r : Registration}

theorem contains_iff {id : String} : ls.contains id = true ↔ ∃ s ∈ ls.kept, s.id = id := by
  simp [contains, kept, Layer.registration]

theorem perform_register_of_taken (h : ls.contains r.id = true) :
    ls.perform (.register r) = (ls, some (.layerTaken r.id)) := by
  simp only [perform, register, h, if_true]

theorem perform_register_of_improper (ls : Layers α) (h : AttributeKind.isName r.id = false) :
    ∃ f, ls.perform (.register r) = (ls, some f) := by
  cases htaken : ls.contains r.id with
  | true => exact ⟨_, perform_register_of_taken htaken⟩
  | false => exact ⟨.attributeInvalid r.id "id" "g", by simp [perform, register, htaken, h]⟩

theorem perform_register_of_free (h : ls.contains r.id = false)
    (hname : AttributeKind.isName r.id = true) :
    ls.perform (.register r)
      = (⟨ls.entries ++ [⟨r.id, r.zOrder, r.inFrame, r.visible, []⟩]⟩, none) := by
  simp [perform, register, h, hname]

theorem kept_draw (ls : Layers α) (id : String) (elements : List (Element α)) :
    (ls.draw id elements).kept = ls.kept := by
  rw [kept, draw, List.map_map]
  refine List.map_congr_left fun l _ => ?_
  dsimp only [Function.comp]
  split <;> rfl

end

/-- The layers after a run are those of the first registration under each name. -/
def Registered (calls : List (Call α)) : Prop := FirstOfEach (tried calls) (after calls).kept

theorem Registered.append {calls : List (Call α)} (h : Registered calls) (call : Call α) :
    Registered (calls ++ [call]) := by
  unfold Registered
  rw [after_append_singleton]
  cases call with
  | draw id elements =>
      have htried : tried (calls ++ [.draw id elements]) = tried calls := by simp [tried]
      rw [htried]
      exact (kept_draw (after calls) id elements).symm ▸ h
  | register r =>
      have htried : tried (calls ++ [.register r]) = tried calls ++ [r] := by simp [tried]
      rw [htried]
      cases htaken : (after calls).contains r.id with
      | true =>
          rw [perform_register_of_taken htaken]
          exact FirstOfEach.refuse h fun _ => contains_iff.mp htaken
      | false =>
          cases hname : AttributeKind.isName r.id with
          | true =>
              have hfree : ¬∃ s ∈ (after calls).kept, s.id = r.id := by
                rw [← contains_iff, htaken]
                exact Bool.false_ne_true
              rw [perform_register_of_free htaken hname, kept, List.map_append]
              exact FirstOfEach.keep h hname hfree
          | false =>
              obtain ⟨f, hf⟩ := perform_register_of_improper (after calls) hname
              rw [hf]
              exact FirstOfEach.refuse h fun hproper => by
                rw [hname] at hproper
                cases hproper

theorem registered (calls : List (Call α)) : Registered calls := by
  induction calls using List.reverseRecOn with
  | nil => exact FirstOfEach.nil
  | append_singleton calls call ih => exact ih.append call

/-- Under a name that was tried before, nothing is registered any more. -/
theorem perform_register_again {calls : List (Call α)} {r : Registration}
    (h : ∃ s ∈ tried calls, s.id = r.id) :
    ∃ f, (after calls).perform (.register r) = (after calls, some f)
      ∧ (AttributeKind.isName r.id = true → f = .layerTaken r.id) := by
  cases hname : AttributeKind.isName r.id with
  | true =>
      have htaken := contains_iff.mpr (((registered calls).taken_iff hname).mpr h)
      exact ⟨_, perform_register_of_taken htaken, fun _ => rfl⟩
  | false =>
      obtain ⟨f, hf⟩ := perform_register_of_improper (after calls) hname
      exact ⟨f, hf, nofun⟩

-- ================================================================== the stack

/-- Layers in the order in which they are stacked: no other layers, the lower one
before the higher one, and equally high ones in the order of their registrations. -/
structure Stacks (entries stack : List (Layer α)) : Prop where
  perm : stack.Perm entries
  sorted : stack.Pairwise fun a b => a.zOrder ≤ b.zOrder
  ties : ∀ z, stack.filter (·.zOrder = z) = entries.filter (·.zOrder = z)

/-- A layer that is found at its height in one list is in the other. -/
theorem mem_of_heights {stack stack' : List (Layer α)}
    (hheights : ∀ z, stack.filter (·.zOrder = z) = stack'.filter (·.zOrder = z)) {l : Layer α}
    (hl : l ∈ stack) : l ∈ stack' := by
  have hfound : l ∈ stack.filter (·.zOrder = l.zOrder) := List.mem_filter.mpr ⟨hl, by simp⟩
  rw [hheights] at hfound
  exact List.mem_of_mem_filter hfound

/-- Lists in the order of heights that have the same layers at every height are one. -/
theorem eq_of_heights {stack stack' : List (Layer α)}
    (h : stack.Pairwise fun a b => a.zOrder ≤ b.zOrder)
    (h' : stack'.Pairwise fun a b => a.zOrder ≤ b.zOrder)
    (hheights : ∀ z, stack.filter (·.zOrder = z) = stack'.filter (·.zOrder = z)) :
    stack = stack' := by
  induction stack generalizing stack' with
  | nil =>
      refine (List.eq_nil_iff_forall_not_mem.mpr fun l hl => ?_).symm
      exact List.not_mem_nil (mem_of_heights (fun z => (hheights z).symm) hl)
  | cons a rest ih =>
      have ha : a ∈ stack' := mem_of_heights hheights List.mem_cons_self
      cases stack' with
      | nil => exact absurd ha List.not_mem_nil
      | cons b rest' =>
          have hb : b ∈ a :: rest := mem_of_heights (fun z => (hheights z).symm) List.mem_cons_self
          obtain ⟨hlowest, hrest⟩ := List.pairwise_cons.mp h
          obtain ⟨hlowest', hrest'⟩ := List.pairwise_cons.mp h'
          -- each of the two is in the list that the other one begins
          have hle : b.zOrder ≤ a.zOrder := by
            rcases List.mem_cons.mp ha with rfl | ha
            · exact le_rfl
            · exact hlowest' a ha
          have hge : a.zOrder ≤ b.zOrder := by
            rcases List.mem_cons.mp hb with rfl | hb
            · exact le_rfl
            · exact hlowest b hb
          have hheight : b.zOrder = a.zOrder := le_antisymm hle hge
          have hfirst := hheights a.zOrder
          rw [List.filter_cons_of_pos (by simp), List.filter_cons_of_pos (by simpa using hheight)]
            at hfirst
          obtain ⟨rfl, -⟩ := List.cons.inj hfirst
          refine congrArg (a :: ·) (ih hrest hrest' fun z => ?_)
          have hz := hheights z
          rw [List.filter_cons, List.filter_cons] at hz
          split at hz
          · exact (List.cons.inj hz).2
          · exact hz

namespace Stacks

variable {entries stack stack' : List (Layer α)}

/-- Some layers are stacked in one way. -/
theorem unique (h : Stacks entries stack) (h' : Stacks entries stack') : stack = stack' :=
  eq_of_heights h.sorted h'.sorted fun z => (h.ties z).trans (h'.ties z).symm

/-- Some of the layers are stacked as they lie among the others. -/
theorem filter (h : Stacks entries stack) (keeps : Layer α → Bool) :
    Stacks (entries.filter keeps) (stack.filter keeps) where
  perm := h.perm.filter keeps
  sorted := h.sorted.filter keeps
  ties z := by
    rw [List.filter_comm, h.ties, List.filter_comm]

end Stacks

theorem stacks_mergeSort (entries : List (Layer α)) :
    Stacks entries (entries.mergeSort fun a b => a.zOrder ≤ b.zOrder) := by
  have htrans : ∀ a b c : Layer α, decide (a.zOrder ≤ b.zOrder) = true →
      decide (b.zOrder ≤ c.zOrder) = true → decide (a.zOrder ≤ c.zOrder) = true := by
    simp only [decide_eq_true_eq]
    exact fun _ _ _ => le_trans
  have htotal : ∀ a b : Layer α,
      (decide (a.zOrder ≤ b.zOrder) || decide (b.zOrder ≤ a.zOrder)) = true := by
    simp only [Bool.or_eq_true, decide_eq_true_eq]
    exact fun _ _ => le_total _ _
  have hperm := List.mergeSort_perm entries fun a b => decide (a.zOrder ≤ b.zOrder)
  constructor
  case perm => exact hperm
  case sorted =>
    exact (List.pairwise_mergeSort htrans htotal entries).imp of_decide_eq_true
  case ties =>
    intro z
    -- layers of one height are in order as they stand, so sorting leaves them so
    have hlevel : (entries.filter (·.zOrder = z)).Pairwise
        fun a b => decide (a.zOrder ≤ b.zOrder) = true := by
      refine List.pairwise_of_forall_mem_list fun a ha b hb => decide_eq_true ?_
      rw [List.mem_filter, decide_eq_true_eq] at ha hb
      exact (ha.2.trans hb.2.symm).le
    have hsublist := (List.sublist_mergeSort htrans htotal hlevel List.filter_sublist).filter
      (·.zOrder = z)
    rw [List.filter_filter] at hsublist
    simp only [Bool.and_self] at hsublist
    exact (hsublist.eq_of_length (hperm.filter _).length_eq.symm).symm

theorem stacks_all (ls : Layers α) : Stacks ls.entries (ls.stacked none) := by
  have hall : (ls.entries.filter fun _ => true) = ls.entries := List.filter_true _
  unfold stacked
  simp only [Option.isNone_none, Bool.true_or, hall]
  exact stacks_mergeSort _

/-- Inside the frame and in the margin layers are stacked as they lie among all. -/
theorem stacked_eq_filter (ls : Layers α) (side : Bool) :
    ls.stacked (some side) = (ls.stacked none).filter (·.inFrame == side) := by
  have hside : ls.stacked (some side) = (ls.entries.filter (·.inFrame == side)).mergeSort
      fun a b => a.zOrder ≤ b.zOrder := by
    unfold stacked
    congr 1
    refine List.filter_congr fun l _ => ?_
    simp [eq_comm]
  rw [hside]
  exact (stacks_mergeSort _).unique ((stacks_all ls).filter _)

-- ================================================================ the drawing

/-- The frame group has a proper name, and is cut to nothing or to what is a reference. -/
def Framed (frameId clipPath : String) : Prop :=
  AttributeKind.isName frameId = true
    ∧ (clipPath = "" ∨ AttributeKind.reference.acceptsText clipPath = true)

/-- Layers in a drawing: those inside the frame in the frame group and those in the
margin behind it, each as they lie in the stack. Every group stands in one of the two
places, and once. -/
structure Assembled (ls : Layers α) (frame : Element α) (margin : List (Element α)) : Prop where
  inside : frame.children = ((ls.stacked none).filter (·.inFrame)).map Layer.group
  outside : margin = ((ls.stacked none).filter (!·.inFrame)).map Layer.group
  once : ∀ l ∈ ls.entries,
    frame.children.filter (·.id = l.id) = (if l.inFrame then [l.group] else [])
      ∧ margin.filter (·.id = l.id) = if l.inFrame then [] else [l.group]

theorem assemble_of_framed {frameId clipPath : String} (h : Framed frameId clipPath)
    (ls : Layers α) : ls.assemble frameId clipPath
      = .ok (ls.frameGroup frameId clipPath :: (ls.stacked (some false)).map Layer.group) := by
  obtain ⟨hname, hclip⟩ := h
  have hclip : ¬(clipPath ≠ "" ∧ (!AttributeKind.reference.acceptsText clipPath) = true) := by
    rintro ⟨hne, hrefused⟩
    rcases hclip with rfl | haccepted
    · exact hne rfl
    · rw [haccepted] at hrefused
      cases hrefused
  unfold assemble
  rw [hname, Bool.not_true, if_neg Bool.false_ne_true, if_neg hclip]

/-- Without a proper frame group nothing is added. -/
theorem assemble_of_not_framed {frameId clipPath : String} (h : ¬Framed frameId clipPath)
    (ls : Layers α) : ∃ f, ls.assemble frameId clipPath = .error f := by
  unfold assemble
  by_cases hname : AttributeKind.isName frameId = true
  · have hclip : clipPath ≠ "" ∧ (!AttributeKind.reference.acceptsText clipPath) = true := by
      refine ⟨fun hnone => h ⟨hname, Or.inl hnone⟩, ?_⟩
      rw [Bool.not_eq_true', Bool.eq_false_iff]
      exact fun haccepted => h ⟨hname, Or.inr haccepted⟩
    rw [hname, Bool.not_true, if_neg Bool.false_ne_true, if_pos hclip]
    exact ⟨_, rfl⟩
  · rw [Bool.eq_false_iff.mpr hname, Bool.not_false, if_pos rfl]
    exact ⟨_, rfl⟩

/-- Among layers of different names one is found by its name. -/
theorem filter_id {stack : List (Layer α)} (hnames : (stack.map (·.id)).Nodup) {l : Layer α}
    (hl : l ∈ stack) : stack.filter (·.id = l.id) = [l] := by
  obtain ⟨before, after, rfl⟩ := List.append_of_mem hl
  rw [List.map_append, List.map_cons, List.nodup_middle, List.nodup_cons, List.mem_append,
    not_or] at hnames
  have hothers : ∀ {others : List (Layer α)}, l.id ∉ others.map (·.id) →
      others.filter (·.id = l.id) = [] := by
    intro others hfree
    refine List.filter_eq_nil_iff.mpr fun other hother hid => hfree ?_
    exact List.mem_map.mpr ⟨other, hother, of_decide_eq_true hid⟩
  rw [List.filter_append, List.filter_cons_of_pos (by simp), hothers hnames.1.1,
    hothers hnames.1.2]
  rfl

/-- Of the layers of a part of the stack, drawn as groups, one is found by its name if it
is in that part. -/
theorem filter_id_groups {stack : List (Layer α)} (hnames : (stack.map (·.id)).Nodup)
    {l : Layer α} (hl : l ∈ stack) (keeps : Layer α → Bool) :
    ((stack.filter keeps).map Layer.group).filter (·.id = l.id)
      = if keeps l then [l.group] else [] := by
  have hgroups : ((stack.filter keeps).map Layer.group).filter (·.id = l.id)
      = ((stack.filter (·.id = l.id)).filter keeps).map Layer.group := by
    rw [List.filter_map, List.filter_comm]
    rfl
  rw [hgroups, filter_id hnames hl, List.filter_singleton]
  cases keeps l <;> rfl

theorem assembled (ls : Layers α) (hnames : (ls.entries.map (·.id)).Nodup)
    (frameId clipPath : String) :
    Assembled ls (ls.frameGroup frameId clipPath) ((ls.stacked (some false)).map Layer.group) := by
  have hperm := (stacks_all ls).perm
  have hstack : ((ls.stacked none).map (·.id)).Nodup := (hperm.map _).nodup_iff.mpr hnames
  have hinside : (ls.frameGroup frameId clipPath).children
      = ((ls.stacked none).filter (·.inFrame)).map Layer.group := by
    rw [frameGroup, stacked_eq_filter]
    simp only [beq_true]
    rfl
  have houtside : (ls.stacked (some false)).map Layer.group
      = ((ls.stacked none).filter (!·.inFrame)).map Layer.group := by
    rw [stacked_eq_filter]
    simp only [beq_false]
  refine ⟨hinside, houtside, fun l hl => ?_⟩
  have hl := hperm.mem_iff.mpr hl
  rw [hinside, houtside, filter_id_groups hstack hl, filter_id_groups hstack hl]
  cases l.inFrame <;> exact ⟨rfl, rfl⟩

/-- Whatever is registered and drawn, no layer is lost, doubled or out of its order: a
name is registered once and for all, the stack is the registered layers by height and
then by registration, and a drawing is assembled from it unless its frame group is
refused. -/
theorem run_assembled (calls : List (Call α)) :
    Registered calls
      ∧ (∀ earlier r later, calls = earlier ++ .register r :: later →
          (∃ s ∈ tried earlier, s.id = r.id) →
          ∃ f, (after earlier).perform (.register r) = (after earlier, some f)
            ∧ (AttributeKind.isName r.id = true → f = .layerTaken r.id))
      ∧ Stacks (after calls).entries ((after calls).stacked none)
      ∧ (∀ frameId clipPath, Framed frameId clipPath →
          ∃ frame margin, (after calls).assemble frameId clipPath = .ok (frame :: margin)
            ∧ frame.id = frameId ∧ Assembled (after calls) frame margin)
      ∧ ∀ frameId clipPath, ¬Framed frameId clipPath →
          ∃ f, (after calls).assemble frameId clipPath = .error f := by
  refine ⟨registered calls, fun _ _ _ _ => perform_register_again, stacks_all _,
    fun frameId clipPath h => ?_, fun frameId clipPath h => assemble_of_not_framed h _⟩
  have hnames : ((after calls).entries.map (·.id)).Nodup := by
    simpa [kept, Layer.registration, Function.comp_def] using (registered calls).names
  exact ⟨_, _, assemble_of_framed h _, rfl, assembled _ hnames frameId clipPath⟩

/-- Two layers inside the frame, of which the lower one is registered last, and one of
the margin between them; a second layer of its name is registered behind. -/
def overlapping : List (Call Rat) :=
  [.register ⟨"Trellis_Bars", 200, true, true⟩, .register ⟨"Frame", 1000, false, true⟩,
   .register ⟨"Basemap", 10, true, true⟩, .register ⟨"Frame", 1, true, true⟩]

/-- The second layer of a name is refused, and of the others the lower one is drawn first
and the margin behind the frame group. -/
theorem run_assembled_overlapping :
    Framed "Map_Frame" "url(#frame-clip)"
      ∧ ((after (overlapping.take 3)).perform (.register ⟨"Frame", 1, true, true⟩)).2
        = some (.layerTaken "Frame")
      ∧ ∃ frame margin, (after overlapping).assemble "Map_Frame" "url(#frame-clip)"
          = .ok (frame :: margin)
        ∧ frame.children.map (·.id) = ["Basemap", "Trellis_Bars"]
        ∧ margin.map (·.id) = ["Frame"] := by
  have hframed : Framed "Map_Frame" "url(#frame-clip)" :=
    ⟨by decide +kernel, Or.inr (by decide +kernel)⟩
  obtain ⟨-, hrepeats, -, hdrawn, -⟩ := run_assembled overlapping
  obtain ⟨f, hrefused, htaken⟩ := hrepeats (overlapping.take 3) ⟨"Frame", 1, true, true⟩ [] rfl
    ⟨⟨"Frame", 1000, false, true⟩, by simp [tried, overlapping], rfl⟩
  obtain ⟨frame, margin, hassembled, -, hplaces⟩ := hdrawn _ _ hframed
  have hentries : (after overlapping).entries = [⟨"Trellis_Bars", 200, true, true, []⟩,
      ⟨"Frame", 1000, false, true, []⟩, ⟨"Basemap", 10, true, true, []⟩] := by
    with_unfolding_all rfl
  have hstacked : (after overlapping).stacked none = [⟨"Basemap", 10, true, true, []⟩,
      ⟨"Trellis_Bars", 200, true, true, []⟩, ⟨"Frame", 1000, false, true, []⟩] := by
    unfold stacked
    rw [hentries]
    have hmargin : (200 : Rat) ≤ 1000 := by decide
    have hlower : ¬(200 : Rat) ≤ 10 := by decide
    simp [List.mergeSort, hmargin, hlower]
  refine ⟨hframed, ?_, frame, margin, hassembled, ?_, ?_⟩
  · rw [hrefused, htaken (by decide +kernel)]
  · rw [hplaces.inside, hstacked]
    rfl
  · rw [hplaces.outside, hstacked]
    rfl

end Layers

end MapSheets
