import Choreo.Proofs.Routine.Confined
import Choreo.Proofs.Routine.Independent
import Mathlib.Data.List.Pairwise

/-!
Branches that keep out of each other's way.

The tasks of a group take turns in one world. Suppose each task has an owner, and each owner sees a
part of the world: a task goes by what its owner sees, and changes nothing that the owners apart
from its own see. Then every task of a group does to its part what it would do alone, however the
others come between, and the order of the tasks makes no difference: `Task.through_branches`.
-/

namespace Choreo
variable {ι L δ W ε : Type}

/-- Owners of tasks, some of which are apart from each other, and what each sees of the world. A
world that looks like itself to an owner is one its tasks can be trusted in. -/
structure Machine.Separate (m : Machine L δ W ε) (apart : ι → ι → Prop) (See : ι → W → W → Prop)
    (Own : ι → Task L → Prop) : Prop where
  apart_symm : ∀ {i j}, apart i j → apart j i
  symm : ∀ {i w w'}, See i w w' → See i w' w
  trans : ∀ {i w w' w''}, See i w w' → See i w' w'' → See i w w''
  next : ∀ {i t w w'} dt, Own i t → See i w w' →
    AlikeOn (fun r => Own i r.2) (See i) (t.next m dt w) (t.next m dt w')
  spare : ∀ {i j t w} dt, Own i t → See i w w → apart i j → See j w w → See j w (t.next m dt w).2

/-- A task with its owner, and a world in which the task is alone. -/
structure Branch (ι L W : Type) where
  owner : ι
  task : Task L
  world : W

namespace Branch

/-- What a step leaves of a branch that is alone. -/
def step (m : Machine L δ W ε) (dt : δ) (b : Branch ι L W) : Option (Branch ι L W) :=
  match b.task.next m dt b.world with
  | ((.ok false, t), w) => some ⟨b.owner, t, w⟩
  | _ => none

/-- Alone, the branch does not fail. -/
def Holds (m : Machine L δ W ε) (dts : List δ) (b : Branch ι L W) : Prop :=
  ∃ f, (b.task.through m dts b.world).1 = .ok f

section
variable {m : Machine L δ W ε} {dt : δ} {dts : List δ} {b b' : Branch ι L W}

theorem owner_of_step (h : b.step m dt = some b') : b'.owner = b.owner := by
  unfold step at h
  split at h
  · cases h
    rfl
  · cases h

/-- A branch that holds is done with the step, or is left by it and holds on. -/
theorem Holds.cases (h : b.Holds m (dt :: dts)) :
    (∃ w, b.task.next m dt b.world = ((.ok true, .done), w) ∧ b.step m dt = none) ∨
      ∃ b', b.task.next m dt b.world = ((.ok false, b'.task), b'.world) ∧ b'.owner = b.owner ∧
        b.step m dt = some b' ∧ b'.Holds m dts := by
  obtain ⟨f, hf⟩ := h
  rcases hn : b.task.next m dt b.world with ⟨⟨r, t'⟩, u⟩
  rcases r with e | _ | _
  · rw [Task.through_of_error hn] at hf
    cases hf
  · refine .inr ⟨⟨b.owner, t', u⟩, rfl, rfl, by simp only [step, hn], ?_⟩
    rw [Task.through_of_paused hn] at hf
    rcases hr : (t'.through m dts u).1 with e | f'
    · rw [hr] at hf
      cases hf
    · exact ⟨f', hr⟩
  · refine .inl ⟨u, ?_, by simp only [step, hn]⟩
    have hdone := Task.isDone_next (congrArg (·.1.1) hn)
    rw [hn] at hdone
    cases t' with
    | done => rfl
    | fresh r => cases hdone
    | paused r => cases hdone
    | crashed => cases hdone

theorem Holds.of_step (h : b.Holds m (dt :: dts)) (hs : b.step m dt = some b') :
    b'.Holds m dts := by
  rcases h.cases with ⟨x, -, hnone⟩ | ⟨b'', -, -, hsome, hrest⟩
  · rw [hnone] at hs
    cases hs
  · obtain rfl : b'' = b' := Option.some.inj (hsome.symm.trans hs)
    exact hrest

theorem Holds.strides?_cons (h : b.Holds m (dt :: dts)) :
    b.task.strides? m (dt :: dts) b.world =
      ((b.step m dt).elim (some 0) fun b' => b'.task.strides? m dts b'.world).map (1 + ·) := by
  rcases h.cases with ⟨w, hn, hs⟩ | ⟨b', hn, -, hs, f, hf⟩
  · rw [hs, Task.strides?, Task.through_of_done hn]
    rfl
  · rw [hs, Task.strides?, Task.through_of_paused hn, Option.elim_some, Task.strides?, hf]
    exact f.steps?_after 1

end
end Branch

namespace Task

theorem most_filterMap {β γ : Type} (later : β → Option γ) (f : γ → Option Nat) (xs : List β) :
    most (xs.map fun x => (later x).elim (some 0) f) = most ((xs.filterMap later).map f) := by
  induction xs with
  | nil => rfl
  | cons x xs ih =>
    cases hx : later x with
    | none =>
      rw [List.filterMap_cons_none hx, List.map_cons, most, hx, ih]
      cases most ((xs.filterMap later).map f) with
      | none => rfl
      | some k => exact congrArg some (Nat.zero_max k)
    | some y =>
      rw [List.filterMap_cons_some hx, List.map_cons, List.map_cons, most, most, hx, ih]
      rfl

/-- A maximum does not depend on the order. -/
theorem most_perm {ns ns' : List (Option Nat)} (h : ns.Perm ns') : most ns = most ns' := by
  induction h with
  | nil => rfl
  | cons n _ ih => rw [most, most, ih]
  | swap a b ns =>
    cases a <;> cases b <;> cases hns : most ns <;> simp [most, hns]
    omega
  | trans _ _ ih ih' => exact ih.trans ih'

section
variable {m : Machine L δ W ε} {apart : ι → ι → Prop} {See : ι → W → W → Prop}
  {Own : ι → Task L → Prop} {bs : List (Branch ι L W)} {w : W}

/-- Branches of owners that are apart, in a world that looks to each of them as the one in which its
branch is alone. -/
structure Spread (apart : ι → ι → Prop) (See : ι → W → W → Prop) (Own : ι → Task L → Prop)
    (bs : List (Branch ι L W)) (w : W) : Prop where
  own : ∀ b ∈ bs, Own b.owner b.task
  see : ∀ b ∈ bs, See b.owner w b.world
  apart : bs.Pairwise fun a b => apart a.owner b.owner

theorem Spread.tail {b : Branch ι L W} (h : Spread apart See Own (b :: bs) w) :
    Spread apart See Own bs w where
  own := fun c hc => h.own c (List.mem_cons_of_mem b hc)
  see := fun c hc => h.see c (List.mem_cons_of_mem b hc)
  apart := h.apart.of_cons

/-- A step of a group gives each branch the step it would be given alone, and spares the rest. -/
theorem advanceAll_branches (hm : m.Separate apart See Own) (dt : δ) (dts : List δ)
    (hbs : Spread apart See Own bs w) (hok : ∀ b ∈ bs, b.Holds m (dt :: dts)) :
    ∃ v, advanceAll m dt (bs.map Branch.task) w =
        (.ok ((bs.filterMap (Branch.step m dt)).map Branch.task), v) ∧
      (∀ b ∈ bs, See b.owner v (b.task.next m dt b.world).2) ∧
      ∀ j, (∀ b ∈ bs, apart b.owner j) → See j w w → See j w v := by
  induction bs generalizing w with
  | nil => exact ⟨w, rfl, nofun, fun _ _ hj => hj⟩
  | cons b bs ih =>
    have hown := hbs.own b List.mem_cons_self
    have hsee := hbs.see b List.mem_cons_self
    have hgood := hm.trans hsee (hm.symm hsee)
    have hothers : ∀ c ∈ bs, apart b.owner c.owner := (List.pairwise_cons.mp hbs.apart).1
    obtain ⟨r, u, u', hu, hu', -, hR⟩ := (hm.next dt hown hsee).exists_eq
    have hspare : ∀ j, apart b.owner j → See j w w → See j w u := by
      intro j hj hw
      have := hm.spare dt hown hgood hj hw
      rwa [hu] at this
    have hrest : Spread apart See Own bs u := by
      refine ⟨hbs.tail.own, fun c hc => ?_, hbs.tail.apart⟩
      have hc' := hbs.tail.see c hc
      exact hm.trans (hm.symm (hspare _ (hothers c hc) (hm.trans hc' (hm.symm hc')))) hc'
    obtain ⟨v, hv, hsees, hspares⟩ :=
      ih hrest fun c hc => hok c (List.mem_cons_of_mem b hc)
    have hkeep : See b.owner v u' := by
      refine hm.trans (hm.symm (hspares b.owner ?_ (hm.trans hR (hm.symm hR)))) hR
      exact fun c hc => hm.apart_symm (hothers c hc)
    refine ⟨v, ?_, ?_, ?_⟩
    · rw [List.map_cons, advanceAll_cons_next]
      rcases (hok b List.mem_cons_self).cases with ⟨x, hn, hs⟩ | ⟨b', hn, -, hs, -⟩
      · obtain ⟨rfl, -⟩ := Prod.ext_iff.mp (hu'.symm.trans hn)
        rw [hu, List.filterMap_cons_none hs]
        exact hv
      · obtain ⟨rfl, -⟩ := Prod.ext_iff.mp (hu'.symm.trans hn)
        rw [hu, List.filterMap_cons_some hs]
        simp only [hv]
        rfl
    · refine List.forall_mem_cons.mpr ⟨?_, hsees⟩
      rw [hu']
      exact hkeep
    · intro j hj hw
      have hfirst := hspare j (hj b List.mem_cons_self) hw
      refine hm.trans hfirst (hspares j (fun c hc => hj c (List.mem_cons_of_mem b hc)) ?_)
      exact hm.trans (hm.symm hfirst) hfirst

/-- What a step leaves of branches is spread in the world that the step leaves. -/
theorem Spread.step (hm : m.Separate apart See Own) {dt : δ} {dts : List δ} {v : W}
    (hbs : Spread apart See Own bs w) (hok : ∀ b ∈ bs, b.Holds m (dt :: dts))
    (hsees : ∀ b ∈ bs, See b.owner v (b.task.next m dt b.world).2) :
    Spread apart See Own (bs.filterMap (Branch.step m dt)) v := by
  have hleft : ∀ b' ∈ bs.filterMap (Branch.step m dt), ∃ b ∈ bs, b'.owner = b.owner ∧
      b.task.next m dt b.world = ((.ok false, b'.task), b'.world) := by
    intro b' hb'
    obtain ⟨b, hb, hs⟩ := List.mem_filterMap.mp hb'
    rcases (hok b hb).cases with ⟨x, hn, hnone⟩ | ⟨b'', hn, howner, hsome, -⟩
    · rw [hnone] at hs
      cases hs
    · obtain rfl : b'' = b' := Option.some.inj (hsome.symm.trans hs)
      exact ⟨b, hb, howner, hn⟩
  refine ⟨fun b' hb' => ?_, fun b' hb' => ?_, ?_⟩
  · obtain ⟨b, hb, howner, hn⟩ := hleft b' hb'
    have hsee := hbs.see b hb
    have hown := (hm.next dt (hbs.own b hb) (hm.trans (hm.symm hsee) hsee)).answer
    rw [hn] at hown
    rwa [howner]
  · obtain ⟨b, hb, howner, hn⟩ := hleft b' hb'
    have hsee := hsees b hb
    rwa [hn, ← howner] at hsee
  · refine hbs.apart.filterMap _ fun a b hab a' ha b' hb => ?_
    rwa [Branch.owner_of_step ha, Branch.owner_of_step hb]

/-- A branch that is done with a step is apart from those that the step leaves. -/
theorem Spread.apart_of_done (hm : m.Separate apart See Own) {dt : δ}
    (hbs : Spread apart See Own bs w) {b : Branch ι L W} (hb : b ∈ bs) (hdone : b.step m dt = none) :
    ∀ c ∈ bs.filterMap (Branch.step m dt), apart c.owner b.owner := by
  intro c hc
  obtain ⟨a, ha, hstep⟩ := List.mem_filterMap.mp hc
  have hne : a ≠ b := by
    rintro rfl
    exact absurd (hstep.symm.trans hdone) nofun
  have : Std.Symm fun a b : Branch ι L W => apart a.owner b.owner := ⟨fun _ _ => hm.apart_symm⟩
  rw [Branch.owner_of_step hstep]
  exact hbs.apart.forall ha hb hne

/-- A group of branches that hold alone holds. It is done with the step in which the last of them is
done alone, leaves the part of each owner as the branch alone leaves it, and spares the rest. -/
theorem through_branches (hm : m.Separate apart See Own) (dts : List δ) (hne : bs ≠ [])
    (hbs : Spread apart See Own bs w) (hok : ∀ b ∈ bs, b.Holds m dts) :
    ∃ f v, through m dts (.paused (.all (bs.map Branch.task))) w = (.ok f, v) ∧
      f.steps? = most (bs.map fun b => b.task.strides? m dts b.world) ∧
      (∀ b ∈ bs, See b.owner v (b.task.through m dts b.world).2) ∧
      ∀ j, (∀ b ∈ bs, apart b.owner j) → See j w w → See j w v := by
  -- The branches that a step leaves are a group again; those that are done have what they had.
  induction dts generalizing bs w with
  | nil =>
    obtain ⟨b, bs, rfl⟩ := List.exists_cons_of_ne_nil hne
    exact ⟨_, w, rfl, rfl, hbs.see, fun _ _ hj => hj⟩
  | cons dt dts ih =>
    obtain ⟨v, hv, hsees, hspares⟩ := advanceAll_branches hm dt dts hbs hok
    have hnext := next_all m dt (bs.map Branch.task) w
    rw [hv] at hnext
    have hmost : most (bs.map fun b => b.task.strides? m (dt :: dts) b.world) =
        (most ((bs.filterMap (Branch.step m dt)).map fun b => b.task.strides? m dts b.world)).map
          (1 + ·) := by
      rw [List.map_congr_left fun b hb => (hok b hb).strides?_cons, ← most_filterMap,
        ← most_map (fun a b => by omega) (fun h => hne (List.map_eq_nil_iff.mp h)), List.map_map]
      rfl
    have hlive := hbs.step hm hok hsees
    have hrest : ∀ b' ∈ bs.filterMap (Branch.step m dt), b'.Holds m dts := by
      intro b' hb'
      obtain ⟨b, hb, hs⟩ := List.mem_filterMap.mp hb'
      exact (hok b hb).of_step hs
    rw [hmost]
    by_cases hnone : bs.filterMap (Branch.step m dt) = []
    · rw [hnone] at hnext ⊢
      refine ⟨.done 1, v, through_of_done hnext dts, rfl, fun b hb => ?_, hspares⟩
      rcases (hok b hb).cases with ⟨x, hn, -⟩ | ⟨b', hn, howner, hs, -⟩
      · have hsee := hsees b hb
        rw [hn] at hsee
        rwa [through_of_done hn]
      · exact absurd (hs.symm.trans (List.filterMap_eq_nil_iff.mp hnone b hb)) nofun
    · obtain ⟨f, v', hthrough, hsteps, hsees', hspares'⟩ := ih hnone hlive hrest
      have hpaused : (Task.paused (.all (bs.map Branch.task))).next m dt w =
          ((.ok false, .paused (.all ((bs.filterMap (Branch.step m dt)).map Branch.task))), v) := by
        obtain ⟨c, cs, hlv⟩ := List.exists_cons_of_ne_nil hnone
        rw [hlv] at hnext ⊢
        exact hnext
      refine ⟨f.after 1, v', ?_, ?_, fun b hb => ?_, fun j hj hw => ?_⟩
      · rw [through_of_paused hpaused, hthrough]
        rfl
      · rw [Fate.steps?_after, hsteps]
      · rcases (hok b hb).cases with ⟨x, hn, hs⟩ | ⟨b', hn, howner, hs, -⟩
        · have hsee := hsees b hb
          rw [hn] at hsee
          rw [through_of_done hn]
          have hspared :=
            hspares' b.owner (hbs.apart_of_done hm hb hs) (hm.trans hsee (hm.symm hsee))
          exact hm.trans (hm.symm hspared) hsee
        · have hsee := hsees' b' (List.mem_filterMap.mpr ⟨b, hb, hs⟩)
          rw [through_of_paused hn]
          rwa [howner] at hsee
      · have hfirst := hspares j hj hw
        refine hm.trans hfirst (hspares' j (fun c hc => ?_) (hm.trans (hm.symm hfirst) hfirst))
        obtain ⟨b, hb, hc⟩ := List.mem_filterMap.mp hc
        rw [Branch.owner_of_step hc]
        exact hj b hb

end
end Task
end Choreo
