import Choreo.Proofs.Script.Makes
import Choreo.Proofs.Timeline.Locate
import Choreo.Scene
import Mathlib.Algebra.Field.Rat
import Mathlib.Algebra.Order.Field.Basic

/-!
Estimates that are not negative, and transitions that fit into them.

No rule of the estimate takes time away: a number below nought counts as nought wherever a duration
is read, and a loop that does not run counts nothing. So an estimate is not negative, and as the
opening transition of a block is read off its first statement, it is no longer than the block
(`Stmt.fits_of_estimate`). On a timeline of such scenes a transition is drawn only within its own
scene, and it is never drawn to its end (`Script.opening_fits`).
-/

namespace Choreo

/-! ## What a computation yields -/

/-- What is computed has the property, if the computation does not fail. -/
def Yields {α : Type} (p : α → Prop) : Except NumberFault α → Prop
  | .ok a => p a
  | .error _ => True

namespace Yields
variable {α β : Type} {p p' : α → Prop} {q : β → Prop} {r : Except NumberFault α}

theorem imp (h : Yields p r) (hp : ∀ a, p a → p' a) : Yields p' r := by
  cases r with
  | error => trivial
  | ok a => exact hp a h

theorem bind (h : Yields p r) {f : α → Except NumberFault β} (hf : ∀ a, p a → Yields q (f a)) :
    Yields q (r >>= f) := by
  cases r with
  | error => trivial
  | ok a => exact hf a h

theorem map (h : Yields p r) {f : α → β} (hf : ∀ a, p a → q (f a)) : Yields q (r.map f) := by
  cases r with
  | error => trivial
  | ok a => exact hf a h

theorem anything (r : Except NumberFault α) : Yields (fun _ => True) r := by
  cases r <;> trivial

theorem eq_ok (h : Yields p r) {a : α} (hr : r = .ok a) : p a := by
  rw [hr] at h
  exact h

end Yields

/-- An estimate that is not negative, and an opening transition that fits into it. -/
structure Estimate.Fits (e : Estimate Rat) : Prop where
  nonneg : 0 ≤ e.duration
  opening : ∀ t, e.transition = some t → 0 ≤ t.duration ∧ t.duration ≤ e.duration

namespace Script

/-! ## Tasks -/

namespace Expr

theorem firstDuration_nonneg (es : List Expr) :
    Yields (0 ≤ ·) (firstDuration es : Except _ Rat) := by
  induction es with
  | nil => exact le_refl (0 : Rat)
  | cons e es ih =>
    refine (Yields.anything e.literal?).bind fun x? _ => ?_
    cases x? with
    | none => exact ih
    | some x => exact Scalar.larger_zero_nonneg x

/-- A duration is read off an expression as off a list of it alone. -/
theorem literalDuration_nonneg (e : Expr) : Yields (0 ≤ ·) (e.literalDuration : Except _ Rat) :=
  firstDuration_nonneg [e]

theorem durationAt_nonneg (args : List Expr) (place : Nat) :
    Yields (0 ≤ ·) (durationAt args place : Except _ Rat) := by
  unfold durationAt
  split
  · exact literalDuration_nonneg _
  · exact le_refl (0 : Rat)

theorem longest_nonneg {xs : List Rat} (hxs : ∀ x ∈ xs, 0 ≤ x) : 0 ≤ longest xs := by
  rw [longest_eq hxs]
  cases xs with
  | nil => exact le_refl 0
  | cons x xs => exact le_max_of_le_left (hxs x List.mem_cons_self)

theorem sum_nonneg {xs : List Rat} (hxs : ∀ x ∈ xs, 0 ≤ x) : 0 ≤ Scalar.sum xs := by
  rw [Scalar.sum_rat]
  exact List.sum_nonneg hxs

mutual

theorem taskDuration_nonneg (e : Expr) : Yields (0 ≤ ·) (e.taskDuration : Except _ Rat) := by
  cases e with
  | call f args named =>
    rw [taskDuration]
    split
    · exact firstDuration_nonneg _
    · split_ifs
      · exact (taskDurations_nonneg args).map fun _ h => longest_nonneg h
      · exact (taskDurations_nonneg args).map fun _ h => sum_nonneg h
      · exact durationAt_nonneg _ 0
      · exact le_refl (0 : Rat)
      · exact (secondTask_nonneg false args).bind fun _ hinner =>
          (durationAt_nonneg _ 0).bind fun _ hwait => add_nonneg hwait hinner
      · exact durationAt_nonneg _ 1
      · exact firstDuration_nonneg _
  | _ =>
    simp only [taskDuration]
    exact le_refl (0 : Rat)

theorem taskDurations_nonneg (es : List Expr) :
    Yields (fun ds : List Rat => ∀ d ∈ ds, 0 ≤ d) (taskDurations es) := by
  cases es with
  | nil =>
    rw [taskDurations]
    exact List.forall_mem_nil _
  | cons e es =>
    rw [taskDurations]
    split_ifs
    · exact taskDurations_nonneg es
    · exact (taskDuration_nonneg e).bind fun _ hd =>
        (taskDurations_nonneg es).bind fun _ hds => List.forall_mem_cons.mpr ⟨hd, hds⟩

theorem secondTask_nonneg (met : Bool) (es : List Expr) :
    Yields (0 ≤ ·) (secondTask met es : Except _ Rat) := by
  cases es with
  | nil =>
    rw [secondTask]
    exact le_refl (0 : Rat)
  | cons e es =>
    rw [secondTask]
    split_ifs
    · exact secondTask_nonneg met es
    · exact taskDuration_nonneg e
    · exact secondTask_nonneg true es

end

theorem duration_nonneg (e : Expr) : Yields (0 ≤ ·) (e.duration : Except _ Rat) := by
  cases e with
  | yieldFrom e => exact taskDuration_nonneg e
  | _ => exact le_refl (0 : Rat)

end Expr

/-! ## Blocks -/

namespace Stmt

mutual

theorem duration_nonneg (s : Stmt) : Yields (0 ≤ ·) (s.duration : Except _ Rat) := by
  cases s with
  | expression e =>
    rw [duration]
    exact e.duration_nonneg
  | assign head value =>
    cases value with
    | none =>
      rw [duration]
      exact le_refl (0 : Rat)
    | some e =>
      rw [duration]
      exact e.duration_nonneg
  | loop target source body otherwise =>
    rw [duration]
    exact (Yields.anything (source.iterations Rat)).bind fun n _ =>
      (durations_nonneg body).bind fun _ hbody =>
        (durations_nonneg otherwise).bind fun _ hother =>
          add_nonneg (mul_nonneg (Nat.cast_nonneg n) hbody) hother
  | whileLoop condition body otherwise =>
    rw [duration]
    exact (durations_nonneg body).bind fun _ hbody =>
      (durations_nonneg otherwise).bind fun _ hother => add_nonneg hbody hother
  | branch condition body otherwise =>
    rw [duration]
    refine (durations_nonneg body).bind fun d hbody =>
      (Yields.anything (durations otherwise)).bind fun d' _ => ?_
    show 0 ≤ Scalar.larger d d'
    rw [Scalar.larger_rat]
    exact le_max_of_le_left hbody
  | context head body =>
    rw [duration]
    exact durations_nonneg body
  | attempt body handlers otherwise last =>
    rw [duration]
    exact (durations_nonneg body).bind fun _ hbody =>
      (durations_nonneg otherwise).bind fun _ hother =>
        (durations_nonneg last).bind fun _ hlast => add_nonneg (add_nonneg hbody hother) hlast
  | function | clause | other | simple =>
    rw [duration]
    exact le_refl (0 : Rat)

theorem durations_nonneg (body : List Stmt) : Yields (0 ≤ ·) (durations body : Except _ Rat) := by
  rw [durations]
  exact le_durationsFrom 0 body

/-- What follows in a block does not make it shorter. -/
theorem le_durationsFrom (sofar : Rat) (body : List Stmt) :
    Yields (sofar ≤ ·) (durationsFrom sofar body) := by
  cases body with
  | nil =>
    rw [durationsFrom]
    exact le_refl sofar
  | cons s rest =>
    rw [durationsFrom]
    -- What the statement adds is not negative, so the bound only rises on the way through the rest.
    refine (duration_nonneg s).bind fun d hd => ?_
    have hrest := le_durationsFrom (sofar + d) rest
    exact hrest.imp fun _ h => (le_add_of_nonneg_right hd).trans h

end

/-- The text that describes a block takes no time. -/
theorem durations_withoutDescription (body : List Stmt) :
    durations (withoutDescription body) = (durations body : Except _ Rat) := by
  unfold withoutDescription
  split
  · simp only [durations, durationsFrom, duration, Expr.duration, Scalar.zero_rat, bind,
      Except.bind, add_zero]
  · rfl

/-- The opening transition of a block is its first statement, which runs a call. -/
theorem exists_of_transition? {body : List Stmt} {t : Transition Rat}
    (h : transition? body = .ok (some t)) :
    ∃ e rest, withoutDescription body = .expression (.yieldFrom e) :: rest ∧
      e.taskDuration = .ok t.duration := by
  unfold transition? at h
  split at h
  · next id args named rest hbody =>
    refine ⟨_, rest, hbody, ?_⟩
    split at h
    · cases h
    · rcases hd : ((Expr.call (.name id) args named).taskDuration : Except _ Rat) with fault | d
      · rw [hd] at h
        cases h
      · rw [hd] at h
        cases h
        rfl
  · cases h

theorem fits_of_estimate {body : List Stmt} {e : Estimate Rat} (h : estimate body = .ok e) :
    e.Fits := by
  unfold estimate at h
  rcases hd : (durations body : Except _ Rat) with fault | d
  · rw [hd] at h
    cases h
  rcases ht : (transition? body : Except _ (Option (Transition Rat))) with fault | t?
  · rw [hd, ht] at h
    cases h
  rw [hd, ht] at h
  cases h
  refine ⟨(durations_nonneg body).eq_ok hd, fun t htransition => ?_⟩
  obtain rfl : t? = some t := htransition
  obtain ⟨opening, rest, hbody, hopening⟩ := exists_of_transition? ht
  refine ⟨opening.taskDuration_nonneg.eq_ok hopening, ?_⟩
  rw [← durations_withoutDescription, hbody, durations, durationsFrom, duration, Expr.duration,
    hopening] at hd
  have hle := (le_durationsFrom (0 + t.duration) rest).eq_ok hd
  rwa [zero_add] at hle

end Stmt

/-! ## Sources -/

/-- The estimate for the function of a name in a source, unless the source cannot be read, has no
such function or leaves no estimate. -/
def walked? (source name : String) : Option (Estimate Rat) :=
  ((ofSource? source).bind (find? name (nestingLimit source))).bind fun body =>
    if Stmt.reachLimit < Stmt.reaches body then none else (Stmt.estimate body).toOption

theorem estimate_eq_getD (source name : String) (fallback : Rat) :
    estimate source name fallback = (walked? source name).getD ⟨fallback, none⟩ := by
  unfold estimate walked?
  cases (ofSource? source).bind (find? name (nestingLimit source)) with
  | none => rfl
  | some body =>
    simp only [Option.bind_some]
    split_ifs
    · rfl
    · cases (Stmt.estimate body : Except _ (Estimate Rat)) <;> rfl

theorem exists_of_walked? {source name : String} {e : Estimate Rat}
    (h : walked? source name = some e) : ∃ body, Stmt.estimate body = .ok e := by
  unfold walked? at h
  obtain ⟨body, -, h⟩ := Option.bind_eq_some_iff.mp h
  refine ⟨body, ?_⟩
  split_ifs at h
  rcases hbody : (Stmt.estimate body : Except _ (Estimate Rat)) with fault | e'
  · rw [hbody] at h
    cases h
  · rw [hbody] at h
    exact congrArg Except.ok (Option.some.inj h)

end Script

/-! ## Scenes -/

/-- A transition that fits is drawn behind another scene only, while it is under way and its scene
is not over. -/
theorem Estimate.Fits.progress {e : Estimate Rat} (h : e.Fits) {i : Nat} {o p : Rat} (ho : 0 ≤ o)
    (hp : e.progress? i o = some p) : 0 < i ∧ 0 ≤ p ∧ p < 1 ∧ o < e.duration := by
  unfold Estimate.progress? at hp
  split at hp
  · cases hp
  · next t ht =>
    obtain ⟨-, hfits⟩ := h.opening t ht
    split_ifs at hp with hi hover hempty
    · exact absurd (ho.trans_lt (not_le.mp hover)) (not_lt.mpr hempty)
    · have hlt : o < t.duration := not_le.mp hover
      have hpos : 0 < t.duration := ho.trans_lt hlt
      have hnonneg : 0 ≤ o / t.duration := div_nonneg ho hpos.le
      have hone : o / t.duration < 1 := (div_lt_one hpos).mpr hlt
      have hvalue : p = o / t.duration := by
        rw [← Option.some.inj hp, Scalar.larger_rat, Scalar.smaller_rat, Scalar.zero_rat,
          max_eq_left hnonneg]
        exact min_eq_left hone.le
      rw [hvalue]
      exact ⟨by omega, hnonneg, hone, hlt.trans_le hfits⟩

/-- Where scenes have estimates that fit, a transition is drawn within its own scene. -/
theorem Scene.progress_of_locate {scenes : List (Scene Rat)} (h : ∀ s ∈ scenes, s.estimate.Fits)
    {t o : Rat} {i : Nat} (hlocate : (Scene.timeline scenes).locate t = some (i, o)) :
    ∃ s, scenes[i]? = some s ∧ ∀ p, s.estimate.progress? i o = some p →
      0 < i ∧ 0 ≤ p ∧ p < 1 ∧ o < s.estimate.duration := by
  obtain ⟨hplaying, rfl⟩ := Timeline.playing_of_locate hlocate
  have hi : i < scenes.length := by
    simpa using hplaying.lt
  exact ⟨scenes[i], List.getElem?_eq_getElem hi, fun p hp =>
    (h _ (List.getElem_mem hi)).progress (sub_nonneg.mpr hplaying.started) hp⟩

namespace Script

/-- The estimate for a source is the fallback, or is read off a block. What is read off a block is
not negative, and its opening transition fits into it. On a timeline of scenes whose estimates were
read off blocks, a transition is drawn at a time only in a scene behind another, before it is
through and before its scene is. -/
theorem opening_fits :
    (∀ (source name : String) (fallback : Rat),
      estimate source name fallback = (walked? source name).getD ⟨fallback, none⟩ ∧
      ∀ e, walked? source name = some e → ∃ body, Stmt.estimate body = .ok e) ∧
    (∀ (body : List Stmt) (e : Estimate Rat), Stmt.estimate body = .ok e →
      0 ≤ e.duration ∧ ∀ t, e.transition = some t → 0 ≤ t.duration ∧ t.duration ≤ e.duration) ∧
    ∀ scenes : List (Scene Rat), (∀ s ∈ scenes, ∃ body, Stmt.estimate body = .ok s.estimate) →
      ∀ t i o, (Scene.timeline scenes).locate t = some (i, o) →
        ∃ s, scenes[i]? = some s ∧ ∀ p, s.estimate.progress? i o = some p →
          0 < i ∧ 0 ≤ p ∧ p < 1 ∧ o < s.estimate.duration := by
  refine ⟨fun source name fallback => ⟨estimate_eq_getD source name fallback, fun e he =>
    exists_of_walked? he⟩, fun body e he => ?_, fun scenes hscenes t i o hlocate => ?_⟩
  · have hfits := Stmt.fits_of_estimate he
    exact ⟨hfits.nonneg, hfits.opening⟩
  · refine Scene.progress_of_locate (fun s hs => ?_) hlocate
    obtain ⟨body, hbody⟩ := hscenes s hs
    exact Stmt.fits_of_estimate hbody

/-- A wait of a second, and behind it a described scene that fades in for half a second and waits
for two: a quarter into the second scene the fade is half through. -/
theorem opening_fits_fadeIn :
    let pause : List Stmt := [.expression (.yieldFrom (.call (.name "wait_for") [.whole 1] []))]
    let fadeIn : List Stmt :=
      [.expression .text,
        .expression (.yieldFrom (.call (.name "fade") [.real (.finite false 5 (-1))] [])),
        .expression (.yieldFrom (.call (.name "wait_for") [.whole 2] []))]
    let first : Scene Rat := ⟨1, "pause", [], none, ⟨1, none⟩⟩
    let second : Scene Rat := ⟨2, "title", [], none, ⟨5 / 2, some ⟨.fade, 1 / 2⟩⟩⟩
    Stmt.estimate pause = .ok first.estimate ∧ Stmt.estimate fadeIn = .ok second.estimate ∧
      (Scene.timeline [first, second]).locate (5 / 4) = some (1, 1 / 4) ∧
      second.estimate.progress? (1 : Nat) (1 / 4) = some (1 / 2) ∧
      (1 / 4 : Rat) < second.estimate.duration := by
  intro pause fadeIn first second
  have hone : (Expr.call (.name "wait_for") [.whole 1] []).taskDuration = .ok (1 : Rat) := by
    decide +kernel
  have htwo : (Expr.call (.name "wait_for") [.whole 2] []).taskDuration = .ok (2 : Rat) := by
    decide +kernel
  have hhalf : (Expr.call (.name "fade") [.real (.finite false 5 (-1))] []).taskDuration =
      .ok (1 / 2 : Rat) := by
    decide +kernel
  have hpause : Stmt.estimate pause = .ok first.estimate := by
    simp only [pause, Stmt.estimate, Stmt.durations, Stmt.durationsFrom, Stmt.duration,
      Expr.duration, hone, bind, Except.bind]
    decide +kernel
  have hfadeIn : Stmt.estimate fadeIn = .ok second.estimate := by
    simp only [fadeIn, Stmt.estimate, Stmt.durations, Stmt.durationsFrom, Stmt.duration,
      Expr.duration, htwo, hhalf, bind, Except.bind]
    decide +kernel
  have hlocate : (Scene.timeline [first, second]).locate (5 / 4) = some (1, 1 / 4) := by
    decide +kernel
  have hprogress : second.estimate.progress? (1 : Nat) (1 / 4) = some (1 / 2) := by decide +kernel
  have hread : ∀ s ∈ [first, second], ∃ body, Stmt.estimate body = .ok s.estimate :=
    List.forall_mem_cons.mpr ⟨⟨pause, hpause⟩, List.forall_mem_singleton.mpr ⟨fadeIn, hfadeIn⟩⟩
  obtain ⟨s, hs, hdrawn⟩ := opening_fits.2.2 _ hread _ _ _ hlocate
  obtain rfl : second = s := Option.some.inj hs
  obtain ⟨-, -, -, hwithin⟩ := hdrawn _ hprogress
  exact ⟨hpause, hfadeIn, hlocate, hprogress, hwithin⟩

end Script
end Choreo
