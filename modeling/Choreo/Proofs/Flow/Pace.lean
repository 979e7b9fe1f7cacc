import Mathlib.Data.List.Nodup
import Mathlib.Tactic.Linarith
import Choreo.Proofs.Flow.Progress

/-!
Linear flows at two paces.

The same time can be divided into steps in many ways. A chain goes from one part to the next at the
end of a step, and what that step leaves over is lost; so where a part ends in the one division need
not be where it ends in the other. That is all that can tell two divisions apart: if in every chain
the parts that others follow end at the same times, then so does each tween, and the progress it
reports last is the same (`Flow.seen_course`).
-/

namespace Choreo

/-! ## Divisions of time -/

/-- Steps of which none goes back and the last goes on. -/
structure Advances (dts : List Rat) : Prop where
  nonneg : ∀ dt ∈ dts, 0 ≤ dt
  last : dts.getLast? ≠ some 0

/-- Two divisions of the same time into steps. -/
structure SameTime (a b : List Rat) : Prop where
  left : Advances a
  right : Advances b
  sum : a.sum = b.sum

namespace Advances
variable {a : List Rat}

/-- No step at all is the only way to stand still. -/
theorem eq_nil_of_sum (h : Advances a) (hs : a.sum = 0) : a = [] := by
  cases hlast : a.getLast? with
  | none => exact List.getLast?_eq_none_iff.mp hlast
  | some x =>
    have hx : x = 0 := List.all_zero_of_le_zero_le_of_sum_eq_zero h.nonneg hs
      (List.mem_of_getLast? hlast)
    exact absurd (hx ▸ hlast) h.last

theorem drop (h : Advances a) (n : Nat) : Advances (a.drop n) where
  nonneg := fun dt hdt => h.nonneg dt (List.mem_of_mem_drop hdt)
  last := by
    rw [List.getLast?_drop]
    split
    · exact nofun
    · exact h.last

end Advances

namespace SameTime
variable {a b : List Rat}

theorem eq_nil_iff (h : SameTime a b) : a = [] ↔ b = [] := by
  constructor
  · rintro rfl
    exact h.right.eq_nil_of_sum h.sum.symm
  · rintro rfl
    exact h.left.eq_nil_of_sum h.sum

theorem drop (h : SameTime a b) {i j : Nat} (hij : (a.take i).sum = (b.take j).sum) :
    SameTime (a.drop i) (b.drop j) where
  left := h.left.drop i
  right := h.right.drop j
  sum := by
    have ha := List.sum_take_add_sum_drop a i
    have hb := List.sum_take_add_sum_drop b j
    linarith [h.sum]

end SameTime

/-! ## The ends of parts -/

namespace Flow
open World (seen)
variable [Analytic Rat]

mutual

/-- In every chain, each part that another follows ends at the same time in both divisions, or in
neither. When such a part ends is the same in every world. -/
def SameEnds (w : Show Rat) : Flow Rat → List Rat → List Rat → Prop
  | .all fs, a, b => SameEndsAll w fs a b
  | .chain fs, a, b => SameEndsChain w fs a b
  | _, _, _ => True

def SameEndsAll (w : Show Rat) : List (Flow Rat) → List Rat → List Rat → Prop
  | [], _, _ => True
  | f :: fs, a, b => SameEnds w f a b ∧ SameEndsAll w fs a b

def SameEndsChain (w : Show Rat) : List (Flow Rat) → List Rat → List Rat → Prop
  | [], _, _ => True
  | f :: fs, a, b => SameEnds w f a b ∧
    let steps? (dts : List Rat) := (Task.fresh f.toRoutine).steps? Leaf.machine (dts.map some) w
    (fs ≠ [] → (steps? a = none ∧ steps? b = none) ∨
      ∃ i j, steps? a = some i ∧ steps? b = some j ∧ (a.take i).sum = (b.take j).sum ∧
        SameEndsChain w fs (a.drop i) (b.drop j))

end

theorem sameEndsAll_iff {w : Show Rat} {fs : List (Flow Rat)} {a b : List Rat} :
    SameEndsAll w fs a b ↔ ∀ f ∈ fs, f.SameEnds w a b := by
  induction fs with
  | nil => simp [SameEndsAll]
  | cons f fs ih => simp only [SameEndsAll, List.forall_mem_cons, ih]

/-! ## What is seen -/

/-- The course of the task of a linear flow. -/
def course (f : Flow Rat) (dts : List Rat) (w : Show Rat) :
    Except FlowFault (Fate (Leaf Rat)) × Show Rat :=
  (Task.fresh f.toRoutine).course Leaf.machine (dts.map some) w

/-- Two divisions of the same time in which the parts end alike look the same to whoever looks at
the tween with a tag. -/
def LooksSame (tag : String) (w₀ : Show Rat) (f : Flow Rat) : Prop :=
  ∀ (a b : List Rat) (w w' : Show Rat), SameTime a b → f.SameEnds w₀ a b →
    seen tag w = seen tag w' → seen tag (f.course a w).2 = seen tag (f.course b w').2

variable {tag : String} {w₀ : Show Rat}

theorem looksSame_of_unnoticed {f : Flow Rat}
    (hf : Task.Watched Leaf.machine (seen tag) ⊥ (.fresh f.toRoutine)) : LooksSame tag w₀ f := by
  intro a b w w' _ _ hw
  rw [course, course, hf.see_course, hf.see_course, hw]

theorem looksSame_line (tag : String) (d : Rat) :
    LooksSame tag w₀ (.act (.line tag d)) := by
  intro a b w w' htime _ hw
  have hstart (w : Show Rat) := Task.start_leaf Leaf.machine (.todo (.line tag d)) w
  simp only [Leaf.start_line] at hstart
  simp only [course, toRoutine]
  by_cases hd : 0 < d
  · simp only [Tween.start_line_of_lt hd] at hstart
    rw [Task.course_of_paused (hstart w), Task.course_of_paused (hstart w'),
      Tween.seen_through_line tag d 0 htime.left.nonneg,
      Tween.seen_through_line tag d 0 htime.right.nonneg]
    simp only [htime.eq_nil_iff, htime.sum, hw]
  · simp only [Tween.start_line_of_not_lt hd] at hstart
    rw [Task.course_of_done (hstart w), Task.course_of_done (hstart w'),
      World.seen_progressed, World.seen_progressed, hw]

/-- A task that is stepped at all leaves the world as one that is started first. -/
theorem through_eq_course (f : Flow Rat) {dts : List Rat} (hdts : dts ≠ []) (w : Show Rat) :
    ((Task.fresh f.toRoutine).through Leaf.machine (dts.map some) w).2 = (f.course dts w).2 := by
  obtain ⟨dt, dts, rfl⟩ := List.exists_cons_of_ne_nil hdts
  rw [List.map_cons, Task.through_cons_eq_course _ _ _ (t := .fresh f.toRoutine) nofun]
  rfl

/-- Of a group one sees the part that has the tween, and that part is given every step. -/
theorem looksSame_all {fs : List (Flow Rat)} (hfs : ∀ f ∈ fs, f.Linear)
    (htags : (fs.flatMap tags).Nodup) (ih : ∀ f ∈ fs, LooksSame tag w₀ f) :
    LooksSame tag w₀ (.all fs) := by
  by_cases htag : tag ∈ fs.flatMap tags
  · obtain ⟨f, hf, hmem⟩ := List.mem_flatMap.mp htag
    obtain ⟨before, after, rfl⟩ := List.append_of_mem hf
    rw [List.flatMap_append, List.flatMap_cons] at htags
    obtain ⟨-, hrest, hapart⟩ := List.nodup_append.mp htags
    have hbefore : ∀ g ∈ before, tag ∉ g.tags := fun g hg htag =>
      hapart tag (List.mem_flatMap.mpr ⟨g, hg, htag⟩) tag (List.mem_append_left _ hmem) rfl
    have hafter : ∀ g ∈ after, tag ∉ g.tags := fun g hg htag =>
      (List.nodup_append.mp hrest).2.2 tag hmem tag (List.mem_flatMap.mpr ⟨g, hg, htag⟩) rfl
    have hquiet {gs : List (Flow Rat)} (hlinear : ∀ g ∈ gs, g.Linear)
        (hgs : ∀ g ∈ gs, tag ∉ g.tags) :
        ∀ t ∈ gs.map fun g => Task.fresh g.toRoutine, t.Watched Leaf.machine (seen tag) ⊥ :=
      List.forall_mem_map.mpr fun g hg => unnoticed_of_notMem (hlinear g hg) (hgs g hg)
    have hseen (dts : List Rat) (hdts : dts ≠ []) (w : Show Rat) :
        seen tag ((Flow.all (before ++ f :: after)).course dts w).2 =
          seen tag (f.course dts w).2 := by
      have hne : (before ++ f :: after).map (fun g => Task.fresh g.toRoutine) ≠ [] := by simp
      rw [course, toRoutine, toTasks_linear hfs, Task.course_all hne, List.map_append,
        List.map_cons, Task.see_through_all
          (hquiet (fun g hg => hfs g (List.mem_append_left _ hg)) hbefore)
          (watched_of_linear (hfs f hf) tag)
          (hquiet (fun g hg => hfs g (List.mem_append_right _ (List.mem_cons_of_mem f hg))) hafter),
        through_eq_course f hdts]
    intro a b w w' htime hends hw
    -- Without a step the group starts none of its parts. By itself the part would be started.
    by_cases ha : a = []
    · have hb : b = [] := htime.eq_nil_iff.mp ha
      have hnothing (w : Show Rat) :
          ((Flow.all (before ++ f :: after)).course [] w).2 = w := by
        rw [course, toRoutine, toTasks_linear hfs, Task.course_all (by simp)]
        rfl
      rw [ha, hb, hnothing, hnothing, hw]
    · have hb : b ≠ [] := fun hb => ha (htime.eq_nil_iff.mpr hb)
      rw [hseen a ha, hseen b hb]
      exact ih f hf a b w w' htime (sameEndsAll_iff.mp hends f hf) hw
  · refine looksSame_of_unnoticed (unnoticed_of_notMem ?_ ?_)
    · exact linearAll_iff.mpr hfs
    · rwa [tags, tagsOf_eq]

/-- Of a chain one sees one part after another, and each is given the same time
in both divisions. -/
theorem looksSame_chain {fs : List (Flow Rat)} (hfs : ∀ f ∈ fs, f.Linear)
    (ih : ∀ f ∈ fs, LooksSame tag w₀ f) : LooksSame tag w₀ (.chain fs) := by
  intro a b w w' htime hends hw
  change SameEndsChain w₀ fs a b at hends
  simp only [course, toRoutine, toTasks_linear hfs]
  induction fs generalizing a b w w' with
  | nil =>
    rw [List.map_nil, Task.course_chain_nil, Task.course_chain_nil]
    exact hw
  | cons f fs ihfs =>
    have hfirst : seen tag (f.course a w).2 = seen tag (f.course b w').2 :=
      ih f List.mem_cons_self a b w w' htime hends.1 hw
    have hsteps := hends.2
    have hindependent := (watched_of_linear (hfs f List.mem_cons_self) tag).independent
    obtain ⟨x, hx⟩ := hindependent.course_eq (a.map some)
    obtain ⟨y, hy⟩ := hindependent.course_eq (b.map some)
    have ha : (Task.fresh f.toRoutine).course Leaf.machine (a.map some) w =
        (.ok x, (f.course a w).2) :=
      Prod.ext (hx w) rfl
    have hb : (Task.fresh f.toRoutine).course Leaf.machine (b.map some) w' =
        (.ok y, (f.course b w').2) := Prod.ext (hy w') rfl
    rw [List.map_cons, Task.course_chain_cons, Task.course_chain_cons, ha, hb]
    simp only [Task.steps?, hx, hy, Except.toOption, Option.bind_some] at hsteps
    -- The last part may end at different times, as nothing follows it.
    by_cases hlast : fs = []
    · subst hlast
      cases x <;> cases y <;> exact hfirst
    · rcases hsteps hlast with ⟨hx, hy⟩ | ⟨i, j, hx, hy, hij, hrest⟩
      · obtain ⟨t, rfl⟩ := Fate.eq_left_of_steps? hx
        obtain ⟨u, rfl⟩ := Fate.eq_left_of_steps? hy
        exact hfirst
      · obtain rfl := Fate.eq_done_of_steps? hx
        obtain rfl := Fate.eq_done_of_steps? hy
        simp only [← List.map_drop]
        exact ihfs (fun g hg => hfs g (List.mem_cons_of_mem f hg))
          (fun g hg => ih g (List.mem_cons_of_mem f hg)) _ _ _ _ (htime.drop hij) hfirst hrest

/-- Two divisions of the same time in which the parts of a linear flow end alike look the same to
whoever looks at one of its tweens. -/
theorem looksSame : ∀ (f : Flow Rat), f.Linear → f.tags.Nodup → LooksSame tag w₀ f
  | .act a, hf, _ => by
    by_cases htag : tag ∈ (Flow.act a).tags
    · cases a with
      | tween tag' d easing =>
        cases easing with
        | named name =>
          obtain rfl : name = "linear" := hf
          obtain rfl : tag = tag' := List.mem_singleton.mp htag
          exact looksSame_line tag d
        | usual | custom => exact hf.elim
      | wait | transition | animate | type | mark | ticks | fail =>
        exact absurd htag List.not_mem_nil
    · exact looksSame_of_unnoticed (unnoticed_of_notMem hf htag)
  | .all fs, hf, htags => by
    have hfs := linearAll_iff.mp hf
    rw [tags, tagsOf_eq] at htags
    exact looksSame_all hfs htags fun f hmem =>
      looksSame f (hfs f hmem) ((List.nodup_flatMap.mp htags).1 f hmem)
  | .chain fs, hf, htags => by
    have hfs := linearAll_iff.mp hf
    rw [tags, tagsOf_eq] at htags
    exact looksSame_chain hfs fun f hmem =>
      looksSame f (hfs f hmem) ((List.nodup_flatMap.mp htags).1 f hmem)
  | .delay _ _, hf, _ => hf.elim
  | .steps _, hf, _ => hf.elim
  | .task _, hf, _ => hf.elim
  | .named _ _, hf, _ => hf.elim

end Flow
end Choreo
