import MapSheets.Basemap.Download
import MapSheets.Proofs.Familiar

/-
Base maps fail in no strange way. Whatever is written in a template, filling its
gaps fails for the template or for the values in it: a template that cannot be
read to its end keeps the failure as its last piece, and that failure is one of
templates as well (`Template.pieces_familiar`).
-/

namespace MapSheets

open Outcome

-- ================================================================= layouts

namespace Layout

@[simp] theorem count_familiar (cs : List Char) : Familiar (count cs) := by
  unfold count
  refine .ite (fun _ => familiar_ok _) fun _ => ?_
  exact .ite (fun _ => ends_error rfl) fun _ => familiar_ok _

@[simp] theorem separatorOf_familiar (cs : List Char) : Familiar (separatorOf cs) := by
  unfold separatorOf
  dsimp only
  split
  case h_1 => exact ends_error rfl
  case h_2 => exact ends_error rfl
  all_goals exact familiar_ok _

@[simp] theorem read_familiar (thing : String) (side : Side) (kind : Option Char)
    (text : List Char) : Familiar (read thing side kind text) := by
  unfold read
  -- the signs in front of the width refuse nothing, whatever is read of them
  split
  split
  split
  split
  split
  refine (count_familiar _).bind fun width => ?_
  split
  refine (separatorOf_familiar _).bind fun separator => ?_
  split
  -- with a separator and without one, the places and the rest are read alike
  all_goals
    dsimp only
    split
    case' h_1 =>
      refine (count_familiar _).bind fun places => ?_
      split
      case' h_1 => exact ends_error rfl
    all_goals
      refine (familiar_pure _).bind fun places => .unless (fun _ => rfl) fun _ => ?_
      split
      case h_1 => exact familiar_pure _
      case h_2 => exact .unless (fun _ => rfl) fun _ => familiar_pure _

variable (l : Layout)

@[simp] theorem refuseWide_familiar : Familiar l.refuseWide := by
  unfold refuseWide
  exact .ite (fun _ => ends_error rfl) fun _ => familiar_ok _

@[simp] theorem text_familiar (cs : List Char) : Familiar (l.text cs) := by
  unfold text
  refine l.refuseWide_familiar.bind fun _ => ?_
  dsimp only
  split
  case' h_1 => refine .unless (fun _ => rfl) fun _ => ?_
  all_goals
    split
    case h_1 => exact ends_error rfl
    case h_2 =>
      refine .unless (fun _ => rfl) fun _ => .unless (fun _ => rfl) fun _ => ?_
      split
      case h_1 => exact ends_error rfl
      all_goals exact familiar_pure _

@[simp] theorem character_familiar (n : Int) : Familiar (l.character n) := by
  unfold character
  refine .unless (fun _ => rfl) fun _ => .unless (fun _ => rfl) fun _ => ?_
  exact .unless (fun _ => rfl) fun _ => .unless (fun _ => rfl) fun _ => familiar_pure _

@[simp] theorem whole_familiar (n : Int) : Familiar (l.whole n) := by
  unfold whole
  refine l.refuseWide_familiar.bind fun _ => ?_
  refine .unless (fun _ => rfl) fun _ => .unless (fun _ => rfl) fun _ => ?_
  split
  case h_1 => exact l.character_familiar n
  all_goals exact familiar_pure _

@[simp] theorem real_familiar (x : Float) : Familiar (l.real x) := by
  simp [real]

@[simp] theorem wholeOrReal_familiar (thing : String) (n : Int) :
    Familiar (l.wholeOrReal thing n) := by
  unfold wholeOrReal
  cases l.kind with
  | none => exact l.whole_familiar n
  | some kind =>
      refine .ite (fun _ => l.whole_familiar n) fun _ => .ite (fun _ => ?_) fun _ => ends_error rfl
      exact (familiar_lift _).bind fun x => l.real_familiar x

@[simp] theorem onlyReal_familiar (x : Float) : Familiar (l.onlyReal x) := by
  unfold onlyReal
  cases l.kind with
  | none => exact l.real_familiar x
  | some kind => exact .ite (fun _ => l.real_familiar x) fun _ => ends_error rfl

end Layout

-- =============================================================== templates

namespace Template

@[simp] theorem name_familiar (inKey : Bool) (cs : List Char) : Familiar (name inKey cs) := by
  induction cs generalizing inKey with
  | nil =>
      unfold name
      exact familiar_ok _
  | cons c rest ih =>
      cases inKey with
      | true => exact (ih _).bind fun _ => familiar_pure _
      | false =>
          unfold name
          refine .ite (fun _ => ends_error rfl) fun _ => .ite (fun _ => familiar_ok _) fun _ => ?_
          exact (ih _).bind fun _ => familiar_pure _

@[simp] theorem layout_familiar (count : Nat) (cs : List Char) : Familiar (layout count cs) := by
  induction cs generalizing count with
  | nil => exact ends_error rfl
  | cons c rest ih =>
      unfold layout
      exact .ite (fun _ => familiar_ok _) fun _ => (ih _).bind fun _ => familiar_pure _

@[simp] theorem readGap_familiar (cs : List Char) : Familiar (readGap cs) := by
  unfold readGap
  refine (name_familiar _ _).bind fun p => ?_
  split
  split
  case h_3 => exact familiar_pure _
  case h_4 => exact (layout_familiar _ _).bind fun _ => familiar_pure _
  case h_7 => exact (layout_familiar _ _).bind fun _ => familiar_pure _
  case h_8 => exact familiar_pure _
  all_goals exact ends_error rfl

/-- What a piece of a template fails with is familiar. -/
def Piece.Familiar : Piece → Prop
  | .broken f => f.isStrange = false
  | _ => True

theorem piecesWithin_familiar (count : Nat) (cs : List Char) :
    ∀ p ∈ piecesWithin count cs, p.Familiar := by
  induction count generalizing cs with
  | zero =>
      unfold piecesWithin
      exact fun _ h => absurd h List.not_mem_nil
  | succ count ih =>
      cases cs with
      | nil => exact fun _ h => absurd h List.not_mem_nil
      | cons c rest =>
          have hlone : ∀ p ∈ [Piece.broken (lone c)], p.Familiar :=
            List.forall_mem_singleton.mpr rfl
          have hletter : ∀ rest, ∀ p ∈ .letter c :: piecesWithin count rest, p.Familiar :=
            fun rest => List.forall_mem_cons.mpr ⟨trivial, ih rest⟩
          unfold piecesWithin
          split
          case isTrue =>
            split
            case h_1 => exact hlone
            case h_2 => exact hletter _
            case h_3 =>
              split
              case h_1 f hgap =>
                exact List.forall_mem_singleton.mpr ((readGap_familiar _).failure f hgap)
              case h_2 => exact List.forall_mem_cons.mpr ⟨trivial, ih _⟩
          case isFalse =>
            split
            case isTrue =>
              split
              case h_1 => exact hletter _
              case h_2 => exact hlone
            case isFalse => exact hletter _

@[simp] theorem place?_familiar (cs : List Char) : Familiar (place? cs) := by
  unfold place?
  refine (Layout.count_familiar cs).bind fun p => ?_
  split
  all_goals exact familiar_pure _

@[simp] theorem namedPart_familiar (name : String) (v : Json) : Familiar (namedPart name v) := by
  unfold namedPart
  dsimp only
  split
  case h_1 => exact familiar_ok _
  case h_2 => exact familiar_ok _
  case h_3 => exact .ite (fun _ => ends_error rfl) fun _ => familiar_ok _
  case h_4 => exact .ite (fun _ => ends_error rfl) fun _ => familiar_ok _
  case h_5 => exact ends_error rfl

@[simp] theorem element_familiar (key : List Char) (v : Json) : Familiar (element key v) := by
  unfold element
  refine (place?_familiar key).bind fun place => ?_
  split
  case h_1 =>
    split
    case h_1 => exact familiar_pure _
    case h_2 => exact ends_error rfl
  case h_3 =>
    split
    case h_1 => exact familiar_pure _
    case h_2 => exact ends_error rfl
  case h_6 =>
    split
    case h_1 => exact familiar_pure _
    case h_2 => exact ends_error rfl
  all_goals exact ends_error rfl

@[simp] theorem follow_familiar (count : Nat) (cs : List Char) (v : Json) :
    Familiar (follow count cs v) := by
  induction count generalizing cs v with
  | zero =>
      unfold follow
      exact familiar_ok _
  | succ count ih =>
      cases cs with
      | nil =>
          unfold follow
          exact familiar_ok _
      | cons c rest =>
          unfold follow
          refine .ite (fun _ => ?_) fun _ => .ite (fun _ => ?_) fun _ => ends_error rfl
          · refine .unless (fun _ => rfl) fun _ => ?_
            exact (namedPart_familiar _ v).bind fun v => ih _ v
          · refine .unless (fun _ => rfl) fun _ => .unless (fun _ => rfl) fun _ => ?_
            exact (element_familiar _ v).bind fun v => ih _ v

@[simp] theorem valueOf_familiar (values : List (String × Json)) (name : List Char) :
    Familiar (valueOf values name) := by
  unfold valueOf
  dsimp only
  refine .unless (fun _ => rfl) fun _ => (place?_familiar _).bind fun place => ?_
  cases place with
  | some n => exact ends_error rfl
  | none =>
      dsimp only
      split
      case h_1 => exact ends_error rfl
      case h_2 => exact follow_familiar _ _ _

@[simp] theorem convert_familiar (c : Char) (v : Json) : Familiar (convert c v) := by
  unfold convert
  split
  case h_4 => exact ends_error rfl
  all_goals exact familiar_ok _

@[simp] theorem shown_familiar (layout : List Char) (v : Json) : Familiar (shown layout v) := by
  unfold shown
  refine .ite (fun _ => familiar_ok _) fun _ => ?_
  cases v with
  | str s => simp
  | int n => simp
  | bool b => simp
  | float x => simp
  | null => exact ends_error rfl
  | arr elements => exact ends_error rfl
  | obj fields => exact ends_error rfl

theorem fillWithin_familiar (values : List (String × Json)) (depth : Nat) (cs : List Char) :
    Familiar (fillWithin values depth cs) := by
  induction depth generalizing cs with
  | zero => exact ends_error rfl
  | succ depth ih =>
      unfold fillWithin
      refine Familiar.bind (.mapM_mem fun p hp => ?_) fun _ => familiar_pure _
      cases p with
      | letter c => exact familiar_pure _
      | broken f => exact ends_error (piecesWithin_familiar _ _ _ hp)
      | gap g =>
          have hshown : ∀ v, Familiar (if g.layout.contains '\x7b' then
              fillWithin values depth g.layout >>= fun layout => shown layout v
            else pure g.layout >>= fun layout => shown layout v) := fun v =>
            .ite (fun _ => (ih _).bind fun _ => shown_familiar _ v) fun _ => shown_familiar _ v
          refine (valueOf_familiar _ _).bind fun v => ?_
          dsimp only
          split
          case h_1 => exact (convert_familiar _ v).bind fun v => hshown v
          case h_2 => exact (familiar_pure v).bind fun v => hshown v

@[simp] theorem fill_familiar (values : List (String × Json)) (template : String) :
    Familiar (fill values template) :=
  (fillWithin_familiar _ _ _).bind fun _ => familiar_pure _

end Template

-- =============================================================== downloads

@[simp] theorem Address.ofTemplate_familiar (template : Json) (zoom x y : Int) (style : Json) :
    Familiar (ofTemplate template zoom x y style) := by
  cases template with
  | str text => exact Template.fill_familiar _ _
  | null => exact ends_error rfl
  | bool b => exact ends_error rfl
  | int n => exact ends_error rfl
  | float x => exact ends_error rfl
  | arr elements => exact ends_error rfl
  | obj fields => exact ends_error rfl

namespace TileServer

variable (s : TileServer)

@[simp] theorem countFailure_familiar (f : Fetched) (tile : Tile) (reason : String) :
    (countFailure f tile reason).Familiar := by
  simp [countFailure]

@[simp] theorem fetchTile_familiar (zoom : Nat) (style : Json) (f : Fetched) (tile : Tile) :
    (s.fetchTile zoom style f tile).Familiar := by
  unfold fetchTile
  refine Work.Familiar.bind (Address.ofTemplate_familiar _ _ _ _ _) fun address => ?_
  refine Work.Familiar.bind (Work.familiar_note _) fun _ => ?_
  split
  case h_1 => exact Work.familiar_pure _
  case h_2 => simp
  case h_3 => simp

@[simp] theorem fetch_familiar (zoom : Nat) (style : Json) (range : TileRange) :
    (s.fetch zoom style range).Familiar :=
  Work.Familiar.foldlM (s.fetchTile_familiar zoom style) _ _

variable {α : Type} [Scalar α] [Elementary α] (r : MapRequest α)

@[simp] theorem finish_familiar (zoom : Nat) (range : TileRange) (w : Window α) (f : Fetched) :
    Familiar (s.finish r zoom range w f) := by
  unfold finish
  refine .unless (fun _ => rfl) fun _ => ?_
  refine (familiar_ofFault _).bind fun cut => ?_
  refine .unless (fun _ => rfl) fun _ => .unless (fun _ => rfl) fun _ => ?_
  simp

@[simp] theorem pass_familiar (zoom : Nat) : (s.pass r zoom).Familiar := by
  simp [pass]

theorem passes_familiar (zoom : Nat) : (s.passes r zoom).Familiar := by
  induction zoom with
  | zero =>
      unfold passes
      refine (s.pass_familiar r 0).bind fun map => ?_
      cases map with
      | some map => exact Work.familiar_pure _
      | none => exact ends_error rfl
  | succ zoom ih =>
      unfold passes
      refine (s.pass_familiar r (zoom + 1)).bind fun map => ?_
      cases map with
      | some map => exact Work.familiar_pure _
      | none => exact ih

@[simp] theorem download_familiar : (s.download r).Familiar := by
  unfold download
  refine Work.Familiar.unless (fun _ => rfl) fun _ => ?_
  exact Work.Familiar.bind (familiar_ofFault _) fun zoom => s.passes_familiar r zoom

end TileServer

end MapSheets
