import Choreo.Proofs.Flow.Kept
import Choreo.Proofs.Stage.Retained

/-!
What may become of a stage in play.

Any number of flows play on a stage, and the host acts on it as well: it registers targets, gives
them classes, applies values to them and resets them, between any two steps of the flows. A property
of shows that each deed of a flow and each of the host keeps holds in every later state
(`Show.Leads.keeps`).
-/

namespace Choreo
variable {α C : Type}

theorem World.addClass_stage (w : World α C) (h : Handle) (token : String) :
    (w.addClass h token).stage =
      w.stage.modify h fun t =>
        if t.classes.contains token then t else { t with classes := t.classes ++ [token] } := by
  unfold addClass
  split
  · next hnone =>
    simp only [Stage.modify]
    rw [List.modify_eq_self (List.getElem?_eq_none_iff.mp hnone)]
  · next t ht =>
    split
    · next hmem =>
      rw [Stage.modify_eq_self ht]
      exact if_pos hmem
    · next hmem =>
      rw [emit_stage]
      exact w.stage.modify_congr ht (if_neg hmem).symm

/-- A reset of the stage keeps what a reset of any target keeps. -/
theorem World.resetStage_of_resetTarget {K : World α C → Prop}
    (h : ∀ {w} (i : Handle), K w → K (w.resetTarget i)) {w : World α C} (hw : K w) :
    K w.resetStage := by
  unfold resetStage
  generalize w.stage.names = names
  induction names generalizing w with
  | nil => exact hw
  | cons name names ih => exact ih (h name.2 hw)

/-! ## The host -/

/-- What the host does to a stage in play, beside stepping flows. -/
inductive HostDeed (α : Type) where
  | register (id classes : String)
  | addClass (h : Handle) (token : String)
  | apply (h : Handle) (key : String) (value : Value α) (property text : String)
  | resetTarget (h : Handle)
  | resetStage
  /-- Has the steps to come made with updates suppressed, or not. -/
  | suppress (b : Bool)

/-- An id that is refused changes nothing. -/
def HostDeed.perform : HostDeed α → World α C → World α C
  | register id classes, w =>
    match w.stage.register id classes with
    | .ok s => { w with stage := s }
    | .error _ => w
  | addClass h token, w => w.addClass h token
  | apply h key value property text, w => w.apply h key value property text
  | resetTarget h, w => w.resetTarget h
  | resetStage, w => w.resetStage
  | suppress b, w => { w with suppressed := b }

/-! ## Runs -/

variable [Scalar α] [Analytic α]

/-- What comes of a show and of the playbacks under way on it, while the host does what it may.
Flows are taken up at any time, by themselves or as the flow of a scene, and any playback that was
come by may be started, stepped and closed. -/
inductive Show.Leads (may : Show α → HostDeed α → Prop) (ps₀ : List (Playback α)) (w₀ : Show α) :
    List (Playback α) → Show α → Prop
  | here : Leads may ps₀ w₀ ps₀ w₀
  | ofFlow {ps w} (f : Flow α) : Leads may ps₀ w₀ ps w → Leads may ps₀ w₀ (.ofFlow f :: ps) w
  | ofScene {ps w} (f : Flow α) : Leads may ps₀ w₀ ps w →
    Leads may ps₀ w₀ (⟨.fresh f.toRoutine, .ofFlow f⟩ :: ps) w
  | start {ps w p} : Leads may ps₀ w₀ ps w → p ∈ ps →
    Leads may ps₀ w₀ ((p.start w).1.2 :: ps) (p.start w).2
  | next {ps w p} (dt : Option α) : Leads may ps₀ w₀ ps w → p ∈ ps →
    Leads may ps₀ w₀ ((p.next dt w).1.2 :: ps) (p.next dt w).2
  | close {ps w p} : Leads may ps₀ w₀ ps w → p ∈ ps → Leads may ps₀ w₀ (p.close :: ps) w
  | host {ps w d} : Leads may ps₀ w₀ ps w → may w d → Leads may ps₀ w₀ ps (d.perform w)

variable {may : Show α → HostDeed α → Prop} {ps₀ ps : List (Playback α)} {w₀ w : Show α}

/-- What every deed keeps holds whatever happens. -/
theorem Show.Leads.keeps {K : Show α → Prop} {E : Effect α → Prop} (hK : Show.Kept K E)
    (hhost : ∀ {w d}, may w d → K w → K (d.perform w)) (h : Leads may ps₀ w₀ ps w)
    (hps : ∀ p ∈ ps₀, p.Within E) (hw : K w₀) : K w ∧ ∀ p ∈ ps, p.Within E := by
  induction h with
  | here => exact ⟨hw, hps⟩
  | ofFlow f _ ih => exact ⟨ih.1, List.forall_mem_cons.mpr ⟨Playback.within_ofFlow f, ih.2⟩⟩
  | @ofScene _ w f _ ih =>
    exact ⟨ih.1, List.forall_mem_cons.mpr ⟨within_build ⟨f, false⟩ w, ih.2⟩⟩
  | start _ hp ih =>
    obtain ⟨hplayback, hshow⟩ := hK.start (ih.2 _ hp) ih.1
    exact ⟨hshow, List.forall_mem_cons.mpr ⟨hplayback, ih.2⟩⟩
  | next dt _ hp ih =>
    obtain ⟨hplayback, hshow⟩ := hK.next (ih.2 _ hp) dt ih.1
    exact ⟨hshow, List.forall_mem_cons.mpr ⟨hplayback, ih.2⟩⟩
  | close _ hp ih => exact ⟨ih.1, List.forall_mem_cons.mpr ⟨(ih.2 _ hp).close, ih.2⟩⟩
  | host _ hmay ih => exact ⟨hhost hmay ih.1, ih.2⟩

/-- Any effects may come about. -/
theorem Show.kept_true : Show.Kept (fun _ : Show α => True) fun _ => True where
  withCrew _ _ := trivial
  report _ _ := trivial
  showGradient _ _ := trivial
  apply _ _ _ _ _ := trivial
  write _ _ _ := trivial
  line _ := trivial
  animate _ _ := trivial
  type _ _ _ := trivial

end Choreo
