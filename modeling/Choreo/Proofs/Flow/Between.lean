import Choreo.Proofs.Easing.Gentle
import Choreo.Proofs.Flow.Handover

/-!
What animations apply on their way.

A step of an animation applies its jobs one after the other, each number as far on its way as the
progress says (`Job.applyAll_makes`). The progress is told by the time that has passed alone
(`Tween.Tells`), whatever world the step is taken in. So along a gentle curve a value lies between
the ends of its job as soon as no time is negative (`Tween.Step.Makes.between`), and along a
climbing one the values of a job draw nearer to its end with time (`Tween.Step.Makes.nears`). A run
of steps adds up its time (`Tween.Plays.sorted`), and both are put together in
`Easing.applied_between`. Nothing stops the time of a tween from falling below nought: a negative
step can (`Easing.linear_undershoots`).
-/

namespace Choreo
variable {α C : Type}

namespace World

/-- A world comes from another by what is applied to a target, one thing after the other: each is
the value of a job, under the key of the job. -/
inductive Applies (h : Handle) : List (Job α × Value α) → World α C → World α C → Prop
  | nil {w : World α C} : Applies h [] w w
  | cons {j : Job α} {value : Value α} {text : String} {made : List (Job α × Value α)}
      {w v : World α C} : Applies h made (w.apply h j.key value j.property.name text) v →
      Applies h ((j, value) :: made) w v

end World

namespace Job

/-- The job takes a number from one value to another. -/
def Goes [Scalar α] (j : Job α) (a b : α) : Prop :=
  ∃ start stop, j.span = .numbers start stop ∧ start.toReal = .ok a ∧ stop.toReal = .ok b

/-- A number is as far on its way as the progress says. -/
def Along (j : Job Rat) (progress : Rat) (value : Value Rat) : Prop :=
  ∀ a b, j.Goes a b → value = .real (lerp a b progress)

/-- A number lies between where the job starts and where it ends. -/
def Between (j : Job Rat) (value : Value Rat) : Prop :=
  j.span.isColors = false → ∃ a b x, j.Goes a b ∧ value = .real x ∧ min a b ≤ x ∧ x ≤ max a b

/-- Of two values the second is no farther from where the job ends. -/
def Nears (j : Job Rat) (x y : Rat) : Prop :=
  ∀ a b, j.Goes a b → (a ≤ b → x ≤ y) ∧ (b ≤ a → y ≤ x)

/-- Over rationals every number goes from some value to some value. -/
theorem exists_goes {j : Job Rat} (hj : j.span.isColors = false) : ∃ a b, j.Goes a b := by
  have hreal : ∀ q : Quantity Rat, ∃ x, q.toReal = .ok x := by
    rintro (n | x)
    · exact ⟨n, rfl⟩
    · exact ⟨x, rfl⟩
  rcases hspan : j.span with ⟨start, stop⟩ | ⟨start, stop⟩
  · obtain ⟨a, ha⟩ := hreal start
    obtain ⟨b, hb⟩ := hreal stop
    exact ⟨a, b, start, stop, hspan, ha, hb⟩
  · rw [hspan] at hj
    cases hj

theorem Goes.unique {j : Job Rat} {a b a' b' : Rat} (h : j.Goes a b) (h' : j.Goes a' b') :
    a = a' ∧ b = b' := by
  obtain ⟨start, stop, hspan, ha, hb⟩ := h
  obtain ⟨start', stop', hspan', ha', hb'⟩ := h'
  cases hspan.symm.trans hspan'
  exact ⟨Except.ok.inj (ha.symm.trans ha'), Except.ok.inj (hb.symm.trans hb')⟩

section
variable {j : Job Rat} {p q : Rat} {value : Value Rat}

theorem Along.between (h : j.Along p value) (h0 : 0 ≤ p) (h1 : p ≤ 1) : j.Between value := by
  intro hnumber
  obtain ⟨a, b, hgoes⟩ := exists_goes hnumber
  refine ⟨a, b, _, hgoes, h a b hgoes, ?_⟩
  unfold lerp
  rcases le_total a b with hab | hab
  · have hfrom : 0 ≤ (b - a) * p := mul_nonneg (sub_nonneg.mpr hab) h0
    have hto : 0 ≤ (b - a) * (1 - p) := mul_nonneg (sub_nonneg.mpr hab) (sub_nonneg.mpr h1)
    rw [min_eq_left hab, max_eq_right hab]
    constructor <;> linarith
  · have hfrom : 0 ≤ (a - b) * p := mul_nonneg (sub_nonneg.mpr hab) h0
    have hto : 0 ≤ (a - b) * (1 - p) := mul_nonneg (sub_nonneg.mpr hab) (sub_nonneg.mpr h1)
    rw [min_eq_right hab, max_eq_left hab]
    constructor <;> linarith

theorem Along.stop (h : j.Along 1 value) {a b : Rat} (hgoes : j.Goes a b) : value = .real b :=
  (h a b hgoes).trans (congrArg Value.real (lerp_one a b))

theorem Along.nears {x y : Rat} (hx : j.Along p (.real x)) (hy : j.Along q (.real y))
    (hpq : p ≤ q) : j.Nears x y := by
  intro a b hgoes
  cases hx a b hgoes
  cases hy a b hgoes
  unfold lerp
  refine ⟨fun hab => ?_, fun hab => ?_⟩
  · have hstep : 0 ≤ (b - a) * (q - p) := mul_nonneg (sub_nonneg.mpr hab) (sub_nonneg.mpr hpq)
    linarith
  · have hstep : 0 ≤ (a - b) * (q - p) := mul_nonneg (sub_nonneg.mpr hab) (sub_nonneg.mpr hpq)
    linarith

theorem along_of_valueAt [Analytic Rat] {s : Stage Rat} {t : Target Rat} {text : String}
    (hvalue : j.valueAt s t p = .ok (value, text)) : j.Along p value := by
  intro a b hgoes
  rcases valueAt_cases hvalue with ⟨start, stop, a', b', hspan, ha, hb, rfl⟩ | ⟨_, _, _, hspan, -⟩
  · obtain ⟨rfl, rfl⟩ := hgoes.unique ⟨start, stop, hspan, ha, hb⟩
    rfl
  · obtain ⟨_, _, hnumbers, -⟩ := hgoes
    cases hspan.symm.trans hnumbers

end

section
variable {h : Handle} {jobs : List (Job Rat)} {p : Rat} {w v : World Rat C}

/-- What jobs make at a progress: they are applied in order, each number as far on its way as the
progress says. -/
structure Makes (h : Handle) (jobs : List (Job Rat)) (p : Rat) (w v : World Rat C)
    (made : List (Job Rat × Value Rat)) : Prop where
  applies : World.Applies h made w v
  among : made.map Prod.fst <+: jobs
  along : ∀ a ∈ made, a.1.Along p a.2

theorem Makes.none (h : Handle) (jobs : List (Job Rat)) (p : Rat) (w : World Rat C) :
    Makes h jobs p w w [] :=
  ⟨.nil, List.nil_prefix, fun _ ha => absurd ha List.not_mem_nil⟩

/-- All jobs of a target that is there are applied, unless one fails. -/
theorem applyAll_makes [Analytic Rat] {r : Except NumberFault Unit}
    (happly : applyAll h p jobs w = (r, v)) :
    ∃ made, Makes h jobs p w v made ∧
      (r = .ok () → h < w.stage.targets.length → made.map Prod.fst = jobs) := by
  induction jobs generalizing w with
  | nil =>
    cases happly
    exact ⟨[], .none h [] p _, fun _ _ => rfl⟩
  | cons j rest ih =>
    rw [applyAll] at happly
    rcases ht : w.stage.targets[h]? with _ | t
    · have hout : w.stage.targets.length ≤ h := List.getElem?_eq_none_iff.mp ht
      simp only [ht] at happly
      cases happly
      exact ⟨[], .none h _ p _, fun _ hh => absurd hh (not_lt.mpr hout)⟩
    · simp only [ht] at happly
      rcases hvalue : j.valueAt w.stage t p with e | ⟨value, text⟩
      · simp only [hvalue] at happly
        cases happly
        exact ⟨[], .none h _ p _, fun hr => by cases hr⟩
      · simp only [hvalue] at happly
        obtain ⟨made, hmade, hwhole⟩ := ih happly
        refine ⟨(j, value) :: made, ⟨.cons hmade.applies, ?_, ?_⟩, fun hr hh => ?_⟩
        · exact List.prefix_cons_inj j |>.mpr hmade.among
        · rintro a (_ | ⟨_, ha⟩)
          · exact along_of_valueAt hvalue
          · exact hmade.along a ha
        · have hlength : (w.apply h j.key value j.property.name text).stage.targets.length =
              w.stage.targets.length := by
            rw [World.apply_stage, Stage.modify, List.length_modify]
          exact congrArg (j :: ·) (hwhole hr (hlength ▸ hh))

end
end Job

namespace Tween

/-- A step of a tween: its size, the time that has passed with it, how it ended, and the worlds
before and after it. -/
structure Step (C : Type) where
  size : Option Rat
  time : Rat
  before : World Rat C
  signal : Signal (Tween Rat) FlowFault
  after : World Rat C

/-- The progress that is told of a time: the eased share of the duration before the end, and one
from then on. -/
def Tells (curve : Curve Rat) (d time p : Rat) : Prop :=
  if time < d then curve (min (time / d) 1) = .ok p else p = 1

section
variable {curve : Curve Rat} {d time p q : Rat}

theorem Tells.mem (hcurve : curve.Gentle) (h0 : 0 ≤ time) (h : Tells curve d time p) :
    0 ≤ p ∧ p ≤ 1 := by
  unfold Tells at h
  split at h
  · next hlt =>
    have hshare : 0 ≤ time / d := div_nonneg h0 (h0.trans hlt.le)
    obtain ⟨y, hy, hy0, hy1⟩ := hcurve.within _ (le_min hshare zero_le_one) (min_le_right _ _)
    cases hy.symm.trans h
    exact ⟨hy0, hy1⟩
  · rw [h]
    exact ⟨zero_le_one, le_rfl⟩

theorem Tells.mono (hgentle : curve.Gentle) (hclimbs : curve.Climbs) {later : Rat} (h0 : 0 ≤ time)
    (hle : time ≤ later) (hp : Tells curve d time p) (hq : Tells curve d later q) : p ≤ q := by
  by_cases hlater : later < d
  · have hd : 0 < d := (h0.trans hle).trans_lt hlater
    rw [Tells, if_pos (hle.trans_lt hlater)] at hp
    rw [Tells, if_pos hlater] at hq
    have hshare : 0 ≤ min (time / d) 1 := le_min (div_nonneg h0 hd.le) zero_le_one
    have hmono : min (time / d) 1 ≤ min (later / d) 1 :=
      min_le_min_right 1 (div_le_div_of_nonneg_right hle hd.le)
    obtain ⟨x, y, hx, hy, hxy⟩ := hclimbs _ _ hshare hmono (min_le_right _ _)
    cases hx.symm.trans hp
    cases hy.symm.trans hq
    exact hxy
  · rw [Tells, if_neg hlater] at hq
    rw [hq]
    exact (hp.mem hgentle h0).2

end

variable {h : Handle} {jobs : List (Job Rat)} {t : Tween Rat} {w v : World Rat C}

/-- What a step of a tween makes of the jobs of its animation: each number is as far as is told of
the time, and all jobs of a target that is there are applied, unless updates are suppressed or the
step fails. -/
structure Step.Makes (curve : Curve Rat) (d : Rat) (h : Handle) (jobs : List (Job Rat))
    (step : Step C) (made : List (Job Rat × Value Rat)) : Prop where
  applies : World.Applies h made step.before step.after
  among : made.map Prod.fst <+: jobs
  told : ∀ a ∈ made, ∃ p, Tells curve d step.time p ∧ a.1.Along p a.2
  whole : step.before.suppressed = false → h < step.before.stage.targets.length →
    (∀ f, step.signal ≠ .failed f) → made.map Prod.fst = jobs

section
variable {curve : Curve Rat} {d : Rat} {step : Step C} {made : List (Job Rat × Value Rat)}

/-- What is made at the progress that is told of a time is what a step of that time makes. -/
theorem Step.Makes.of_told {p : Rat} (hmade : Job.Makes h jobs p step.before step.after made)
    (htells : Tells curve d step.time p)
    (hwhole : step.before.suppressed = false → h < step.before.stage.targets.length →
      (∀ f, step.signal ≠ .failed f) → made.map Prod.fst = jobs) :
    step.Makes curve d h jobs made :=
  ⟨hmade.applies, hmade.among, fun a ha => ⟨p, htells, hmade.along a ha⟩, hwhole⟩

/-- A step makes nothing when updates are suppressed, or when the curve fails. -/
theorem Step.Makes.none (hworld : step.after = step.before)
    (hquiet : step.before.suppressed = true ∨ ∃ f, step.signal = .failed f) :
    step.Makes curve d h jobs [] := by
  refine ⟨hworld ▸ .nil, List.nil_prefix, fun _ ha => absurd ha List.not_mem_nil,
    fun haloud _ hs => ?_⟩
  rcases hquiet with hquiet | ⟨f, hf⟩
  · exact absurd (haloud.symm.trans hquiet) Bool.false_ne_true
  · exact absurd hf (hs f)

/-- While no time is negative, what a gentle tween makes lies between the ends of its jobs. -/
theorem Step.Makes.between (hmakes : step.Makes curve d h jobs made) (hcurve : curve.Gentle)
    (h0 : 0 ≤ step.time) : ∀ a ∈ made, a.1.Between a.2 := by
  intro a ha
  obtain ⟨p, htells, halong⟩ := hmakes.told a ha
  obtain ⟨hp0, hp1⟩ := htells.mem hcurve h0
  exact halong.between hp0 hp1

/-- The step that comes to the duration leaves every number where its job ends. -/
theorem Step.Makes.stops (hmakes : step.Makes curve d h jobs made) (hlast : d ≤ step.time) :
    ∀ a ∈ made, ∀ x y, a.1.Goes x y → a.2 = .real y := by
  intro a ha x y hgoes
  obtain ⟨p, htells, halong⟩ := hmakes.told a ha
  rw [Tells, if_neg (not_lt.mpr hlast)] at htells
  subst htells
  exact halong.stop hgoes

/-- What a climbing tween makes later is no farther from the ends of its jobs. -/
theorem Step.Makes.nears {step' : Step C} {made' : List (Job Rat × Value Rat)}
    (hmakes : step.Makes curve d h jobs made) (hmakes' : step'.Makes curve d h jobs made')
    (hgentle : curve.Gentle) (hclimbs : curve.Climbs) (h0 : 0 ≤ step.time)
    (hle : step.time ≤ step'.time) :
    ∀ j x y, (j, Value.real x) ∈ made → (j, Value.real y) ∈ made' → j.Nears x y := by
  intro j x y hx hy
  obtain ⟨p, hp, hxp⟩ := hmakes.told _ hx
  obtain ⟨q, hq, hyq⟩ := hmakes'.told _ hy
  exact hxp.nears hyq (hp.mono hgentle hclimbs h0 hle hq)

end

/-- Whatever is on the right was paired with something on the left. -/
theorem exists_mem_of_forall₂ {β γ : Type} {R : β → γ → Prop} {xs : List β} {ys : List γ}
    (h : List.Forall₂ R xs ys) {y : γ} (hy : y ∈ ys) : ∃ x ∈ xs, R x y := by
  induction h with
  | nil => cases hy
  | cons hxy _ ih =>
    rcases List.mem_cons.mp hy with rfl | hy
    · exact ⟨_, List.mem_cons_self, hxy⟩
    · obtain ⟨x, hx, hxy⟩ := ih hy
      exact ⟨x, List.mem_cons_of_mem _ hx, hxy⟩

/-- What a climbing tween makes draws nearer to the ends of its jobs from step to step. -/
theorem nears_of_sorted {curve : Curve Rat} {d : Rat} {steps : List (Step C)}
    {made : List (List (Job Rat × Value Rat))}
    (hmakes : List.Forall₂ (Step.Makes curve d h jobs) steps made) (hgentle : curve.Gentle)
    (hclimbs : curve.Climbs) (h0 : ∀ step ∈ steps, 0 ≤ step.time)
    (hsorted : steps.Pairwise (·.time ≤ ·.time)) :
    made.Pairwise fun earlier later =>
      ∀ j x y, (j, Value.real x) ∈ earlier → (j, Value.real y) ∈ later → j.Nears x y := by
  induction hmakes with
  | nil => exact .nil
  | @cons step m rest others hm hothers ih =>
    obtain ⟨hfirst, hrest⟩ := List.pairwise_cons.mp hsorted
    obtain ⟨hstep, h0⟩ := List.forall_mem_cons.mp h0
    refine .cons (fun m' hm' => ?_) (ih h0 hrest)
    obtain ⟨step', hstep', hmakes'⟩ := exists_mem_of_forall₂ hothers hm'
    exact hm.nears hmakes' hgentle hclimbs hstep (hfirst step' hstep')

variable [Analytic Rat]

/-- An animation has its jobs applied at the progress it is given, unless updates are suppressed,
and goes on unchanged. -/
theorem update_makes (heffect : t.effect = .animate h jobs) {p : Rat}
    {r : Except FlowFault (Tween Rat)} (hu : t.update p w = (r, v)) :
    ∃ made, Job.Makes h jobs p w v made ∧ ∀ t', r = .ok t' → t' = t ∧
      (w.suppressed = false → h < w.stage.targets.length → made.map Prod.fst = jobs) := by
  unfold update at hu
  by_cases hs : w.suppressed = true
  · rw [if_pos hs] at hu
    cases hu
    refine ⟨[], .none h jobs p w, fun t' ht' => ⟨(Except.ok.inj ht').symm, fun haloud => ?_⟩⟩
    rw [hs] at haloud
    cases haloud
  · rcases happly : Job.applyAll h p jobs w with ⟨result, u⟩
    obtain ⟨made, hmade, hwhole⟩ := Job.applyAll_makes happly
    simp only [if_neg hs, heffect, Effect.perform, happly] at hu
    rcases result with f | ⟨⟩
    · cases hu
      exact ⟨made, hmade, fun t' ht' => by cases ht'⟩
    · simp only [Except.map] at hu
      cases hu
      refine ⟨made, hmade, fun t' ht' => ⟨?_, fun _ => hwhole rfl⟩⟩
      cases ht'
      rw [← heffect]

/-- The last step of an animation, at its duration or after it. -/
theorem finish_makes (heffect : t.effect = .animate h jobs) {d time : Rat} (htime : d ≤ time)
    {size : Option Rat} {curve : Curve Rat} {s : Signal (Tween Rat) FlowFault}
    (hf : t.finish w = (s, v)) :
    ∃ made, (⟨size, time, w, s, v⟩ : Step C).Makes curve d h jobs made := by
  have htells : Tells curve d time 1 := by
    rw [Tells, if_neg (not_lt.mpr htime)]
  unfold finish at hf
  split at hf
  · next t' u hu =>
    obtain ⟨made, hmade, hnext⟩ := update_makes heffect hu
    cases hf
    exact ⟨made, .of_told hmade htells fun haloud hh _ => (hnext t' rfl).2 haloud hh⟩
  · next f u hu =>
    obtain ⟨made, hmade, -⟩ := update_makes heffect hu
    cases hf
    exact ⟨made, .of_told hmade htells fun _ _ hs => absurd rfl (hs f)⟩

/-- A step of an animation: what it makes, and how the tween goes on. -/
theorem resume_makes (heffect : t.effect = .animate h jobs) {size : Option Rat}
    {s : Signal (Tween Rat) FlowFault} (hr : t.resume size w = (s, v)) :
    let later : Tween Rat := { t with elapsed := t.elapsed + size.getD 0 }
    (∃ made, (⟨size, later.elapsed, w, s, v⟩ : Step C).Makes t.curve t.duration h jobs made) ∧
      ∀ t', s = .paused t' → t' = later := by
  intro later
  have hlater : later.effect = .animate h jobs := heffect
  have hshare : later.share = min (later.elapsed / t.duration) 1 := Scalar.smaller_rat _ _
  unfold resume at hr
  dsimp only at hr
  split at hr
  · next htime =>
    split at hr
    · next hs =>
      cases hr
      exact ⟨⟨[], .none rfl (.inl hs)⟩, fun t' ht' => (Signal.paused.inj ht').symm⟩
    · split at hr
      · cases hr
        exact ⟨⟨[], .none rfl (.inr ⟨_, rfl⟩)⟩, nofun⟩
      · next p hp =>
        have htells : Tells t.curve t.duration later.elapsed p := by
          rw [Tells, if_pos (show later.elapsed < t.duration from htime), ← hshare]
          exact hp
        split at hr
        · next u w' hu =>
          obtain ⟨made, hmade, hnext⟩ := update_makes hlater hu
          obtain ⟨hgoes, hwhole⟩ := hnext u rfl
          cases hr
          exact ⟨⟨made, .of_told hmade htells fun haloud hh _ => hwhole haloud hh⟩,
            fun t' ht' => (Signal.paused.inj ht').symm.trans hgoes⟩
        · next f w' hu =>
          obtain ⟨made, hmade, -⟩ := update_makes hlater hu
          cases hr
          exact ⟨⟨made, .of_told hmade htells fun _ _ hs => absurd rfl (hs _)⟩, nofun⟩
  · next htime =>
    refine ⟨finish_makes hlater (not_lt.mp htime) hr, ?_⟩
    rintro t' rfl
    exact absurd hr (finish_ne_paused _ _)

/-! ## Steps in a row -/

/-- A tween takes steps, each in a world of its own, until one does not pause. -/
def Plays : Tween Rat → List (Step C) → Prop
  | _, [] => True
  | t, step :: rest =>
    t.resume step.size step.before = (step.signal, step.after) ∧
      step.time = t.elapsed + step.size.getD 0 ∧
      match step.signal with
      | .paused t' => Plays t' rest
      | _ => rest = []

/-- How a tween goes on after a step of an animation. -/
theorem Plays.rest {step : Step C} {rest : List (Step C)} (hplays : t.Plays (step :: rest))
    (heffect : t.effect = .animate h jobs) :
    rest = [] ∨ Plays { t with elapsed := step.time } rest := by
  obtain ⟨hr, htime, hrest⟩ := hplays
  rcases hs : step.signal with t' | _ | f
  · rw [hs] at hrest hr
    rw [htime, ← (resume_makes heffect hr).2 t' rfl]
    exact .inr hrest
  · rw [hs] at hrest
    exact .inl hrest
  · rw [hs] at hrest
    exact .inl hrest

/-- Each step of an animation makes what is told of its time. -/
theorem Plays.makes {steps : List (Step C)} (hplays : t.Plays steps)
    (heffect : t.effect = .animate h jobs) :
    ∃ made, List.Forall₂ (Step.Makes t.curve t.duration h jobs) steps made := by
  induction steps generalizing t with
  | nil => exact ⟨[], .nil⟩
  | cons step rest ih =>
    have hstep : step =
        ⟨step.size, t.elapsed + step.size.getD 0, step.before, step.signal, step.after⟩ := by
      rw [← hplays.2.1]
    obtain ⟨made, hmade⟩ := (resume_makes heffect hplays.1).1
    rw [← hstep] at hmade
    rcases hplays.rest heffect with rfl | hrest
    · exact ⟨[made], .cons hmade .nil⟩
    · obtain ⟨others, hothers⟩ := ih hrest heffect
      exact ⟨made :: others, .cons hmade hothers⟩

/-- Time goes on from step to step when no step is negative. -/
theorem Plays.sorted {steps : List (Step C)} (hplays : t.Plays steps)
    (heffect : t.effect = .animate h jobs) (hsizes : ∀ step ∈ steps, 0 ≤ step.size.getD 0) :
    (∀ step ∈ steps, t.elapsed ≤ step.time) ∧ steps.Pairwise (·.time ≤ ·.time) := by
  induction steps generalizing t with
  | nil => exact ⟨fun _ hmem => absurd hmem List.not_mem_nil, .nil⟩
  | cons step rest ih =>
    have hfirst : t.elapsed ≤ step.time := by
      rw [hplays.2.1]
      exact le_add_of_nonneg_right (hsizes step List.mem_cons_self)
    rcases hplays.rest heffect with rfl | hrest
    · exact ⟨List.forall_mem_singleton.mpr hfirst, List.pairwise_singleton _ _⟩
    · obtain ⟨hlater, hsorted⟩ :=
        ih hrest heffect fun s hs => hsizes s (List.mem_cons_of_mem _ hs)
      exact ⟨List.forall_mem_cons.mpr ⟨hfirst, fun s hs => hfirst.trans (hlater s hs)⟩,
        .cons hlater hsorted⟩

end Tween

namespace Easing
open Tween (Step)

/-- The curves that may not overshoot do not, and neither does what is animated along them. An
animation with a duration starts with nothing, and then applies in each step values between the ends
of its jobs, as long as the time that has passed is not negative. The step that comes to the
duration applies the very ends, and so does the start of an animation without one. Along a linear or
a cubic curve no value is farther from the end of its job than one before it, when no step is
negative. -/
theorem applied_between [Analytic Rat] {name : String}
    (hname : name ∈ ["linear", "in-cubic", "out-cubic", "in-out-cubic", "in-bounce", "out-bounce",
      "in-out-bounce"]) :
    let climbing := ["linear", "in-cubic", "out-cubic", "in-out-cubic"]
    ∃ curve : Curve Rat, resolve (.named name) = .ok curve ∧ curve.Gentle ∧
      (name ∈ climbing → curve.Climbs) ∧
      ∀ {C : Type} (d : Rat) (h : Handle) (jobs : List (Job Rat)),
        let t : Tween Rat := ⟨d, curve, .animate h jobs, 0⟩
        (0 < d → ∀ w : World Rat C, t.start w = (.paused t, w)) ∧
        (d ≤ 0 → ∀ {s} {w v : World Rat C}, t.start w = (s, v) →
          ∃ made, (⟨none, 0, w, s, v⟩ : Step C).Makes curve d h jobs made ∧
            ∀ a ∈ made, a.1.Between a.2 ∧ ∀ x y, a.1.Goes x y → a.2 = .real y) ∧
        ∀ steps : List (Step C), t.Plays steps → ∃ made : List (List (Job Rat × Value Rat)),
          List.Forall₂ (fun step m => step.Makes curve d h jobs m ∧
            (0 ≤ step.time → ∀ a ∈ m, a.1.Between a.2) ∧
            (d ≤ step.time → ∀ a ∈ m, ∀ x y, a.1.Goes x y → a.2 = .real y)) steps made ∧
          (name ∈ climbing → (∀ step ∈ steps, 0 ≤ step.size.getD 0) →
            made.Pairwise fun earlier later => ∀ j x y,
              (j, Value.real x) ∈ earlier → (j, Value.real y) ∈ later → j.Nears x y) := by
  intro climbing
  obtain ⟨curve, hcurve, hgentle⟩ := gentle_of_mem hname
  have hclimbs : name ∈ climbing → curve.Climbs := by
    intro hmem
    obtain ⟨curve', hcurve', hclimbs⟩ := climbs_of_mem hmem
    cases hcurve.symm.trans hcurve'
    exact hclimbs
  refine ⟨curve, hcurve, hgentle, hclimbs, fun {C} d h jobs => ?_⟩
  intro t
  refine ⟨fun hd w => if_pos hd, fun hd {s w v} hs => ?_, fun steps hplays => ?_⟩
  · have hfinish : t.finish w = (s, v) := (if_neg (not_lt.mpr hd)).symm.trans hs
    have hmakes : ∃ made, (⟨none, 0, w, s, v⟩ : Step C).Makes curve d h jobs made :=
      Tween.finish_makes rfl hd hfinish
    obtain ⟨made, hmade⟩ := hmakes
    exact ⟨made, hmade, fun a ha => ⟨hmade.between hgentle le_rfl a ha, hmade.stops hd a ha⟩⟩
  · obtain ⟨made, hmade⟩ := hplays.makes rfl
    refine ⟨made, hmade.imp fun step m hm => ⟨hm, hm.between hgentle, hm.stops⟩,
      fun hmem hsizes => ?_⟩
    obtain ⟨h0, hsorted⟩ := hplays.sorted rfl hsizes
    exact Tween.nears_of_sorted hmade hgentle (hclimbs hmem) h0 hsorted

/-- A title fades in over a second, and half of it has passed. -/
theorem applied_between_linear :
    let j : Job Rat :=
      ⟨⟨"opacity", .number⟩, "opacity", .numbers (.whole 0) (.whole 1), "opacity-100".toList⟩
    let t : Tween Rat := ⟨1, Curve.linear, .animate 0 [j], 0⟩
    let w : Show Rat := World.ofStage ⟨[.ofClasses "title" ""], [("title", 0)], none, true⟩ .empty
    let next := t.resume (some (1 / 2)) w
    let step : Step (Crew Rat) := ⟨some (1 / 2), 1 / 2, w, next.1, next.2⟩
    "linear" ∈ ["linear", "in-cubic", "out-cubic", "in-out-cubic", "in-bounce", "out-bounce",
      "in-out-bounce"] ∧
      (step.after.stage.targets[0]?.bind fun target => target.applied.lookup "opacity") =
        some (.real (1 / 2)) ∧
      ∃ made, step.Makes Curve.linear 1 0 [j] made ∧ ∀ a ∈ made, a.1.Between a.2 := by
  intro j t w next step
  have hname : "linear" ∈ ["linear", "in-cubic", "out-cubic", "in-out-cubic", "in-bounce",
    "out-bounce", "in-out-bounce"] := by decide
  refine ⟨hname, by decide +kernel, ?_⟩
  obtain ⟨curve, hcurve, -, -, hrun⟩ := applied_between hname
  obtain rfl : Curve.linear = curve := Except.ok.inj hcurve
  have hplays : t.Plays [step] := by
    refine ⟨rfl, (zero_add _).symm, ?_⟩
    cases step.signal <;> trivial
  obtain ⟨made, hmade, -⟩ := (hrun 1 0 [j]).2.2 [step] hplays
  obtain ⟨m, -, ⟨hmakes, hbetween, -⟩, -, -⟩ := List.forall₂_cons_left_iff.mp hmade
  exact ⟨m, hmakes, hbetween (by norm_num)⟩

/-- Time that goes backwards takes an animation off beyond its start. -/
theorem linear_undershoots :
    let j : Job Rat :=
      ⟨⟨"opacity", .number⟩, "opacity", .numbers (.whole 0) (.whole 1), "opacity-100".toList⟩
    let t : Tween Rat := ⟨1, Curve.linear, .animate 0 [j], 0⟩
    let w : Show Rat := World.ofStage ⟨[.ofClasses "title" ""], [("title", 0)], none, true⟩ .empty
    resolve (.named "linear") = .ok t.curve ∧ j.Goes 0 1 ∧
      ((t.resume (some (-1 / 2)) w).2.stage.targets[0]?.bind fun target =>
        target.applied.lookup "opacity") = some (.real (-1 / 2)) ∧
      ¬j.Between (.real (-1 / 2)) := by
  intro j t w
  have hgoes : j.Goes 0 1 := ⟨_, _, rfl, rfl, rfl⟩
  refine ⟨rfl, hgoes, by decide +kernel, fun hbetween => ?_⟩
  obtain ⟨a, b, x, hends, hx, hlow, -⟩ := hbetween rfl
  obtain ⟨rfl, rfl⟩ := hgoes.unique hends
  cases hx
  norm_num at hlow

end Easing
end Choreo
