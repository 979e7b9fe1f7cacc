import Mathlib.Data.List.Forall2
import Choreo.Proofs.Routine.Combined

/-!
How a group and a chain share out their steps.

The tasks of a combination act on one world, and what one of them does there may decide when another
pauses and when it is done. So the steps are shared out here in the worlds of the run itself. A step
of a group is a round: every task that is not done has its turn, in the order of the group, each in
the world that the turn before it left (`Task.oneRound`). A chain is a relay: every task is given
the steps that are left, from the world in which the one before it was done (`Task.relay`).

That the two combinations do just that is the law of them both (`Task.combined_law`). It holds of
all tasks, those that fail included.
-/

namespace Choreo
variable {L δ W ε : Type}

/-- A task in a group with the turns it has had, each of them a step and the world it came in, and
what has become of the task. -/
structure Slot (L δ W : Type) where
  task : Task L
  turns : List (δ × W)
  fate : Fate L

/-- The slot of a task that has not had a turn. -/
def Slot.unused (t : Task L) : Slot L δ W := ⟨t, [], .left t⟩

/-- Gives the task a turn, unless it is done. -/
def Slot.turn (m : Machine L δ W ε) (dt : δ) (s : Slot L δ W) (w : W) :
    Except ε (Slot L δ W) × W :=
  match s.fate with
  | .done _ => (.ok s, w)
  | .left t =>
    match t.next m dt w with
    | ((.error e, _), w') => (.error e, w')
    | ((.ok true, _), w') => (.ok ⟨s.task, s.turns ++ [(dt, w)], .done (s.turns.length + 1)⟩, w')
    | ((.ok false, t'), w') => (.ok ⟨s.task, s.turns ++ [(dt, w)], .left t'⟩, w')

/-- What becomes of a combination, told from its tasks. It waits as long as one of them is not done,
and the number of its step is made of theirs. -/
def Fate.together (number : List (Option Nat) → Option Nat) (wait : List (Task L) → Routine L)
    (fs : List (Fate L)) : Fate L :=
  match number (fs.map Fate.steps?) with
  | some n => .done n
  | none => .left (.paused (wait (fs.filterMap Fate.left?)))

theorem Fate.steps?_together (number : List (Option Nat) → Option Nat)
    (wait : List (Task L) → Routine L) (fs : List (Fate L)) :
    (together number wait fs).steps? = number (fs.map steps?) := by
  unfold together
  cases number (fs.map steps?) <;> rfl

namespace Task

/-! ## Numbers of steps -/

/-- How many steps the task takes after its start until it is done. -/
def steps? (m : Machine L δ W ε) (dts : List δ) (w : W) (t : Task L) : Option Nat :=
  (course m dts t w).1.toOption.bind Fate.steps?

/-- The most of some numbers of steps, if each of them is known. -/
def most : List (Option Nat) → Option Nat
  | [] => some 0
  | n :: ns => n.bind fun n => (most ns).map (max n)

/-- The sum of some numbers of steps, if each of them is known. -/
def sum : List (Option Nat) → Option Nat
  | [] => some 0
  | n :: ns => n.bind fun n => (sum ns).map (n + ·)

theorem most_eq_none {ns : List (Option Nat)} (h : none ∈ ns) : most ns = none := by
  induction ns with
  | nil => exact absurd h List.not_mem_nil
  | cons n ns ih =>
    rcases List.mem_cons.mp h with rfl | h
    · rfl
    · rw [most, ih h]
      cases n <;> rfl

theorem most_le {ns : List (Option Nat)} {k : Nat} (hle : ∀ n ∈ ns, ∃ i ≤ k, n = some i) :
    ∃ i ≤ k, most ns = some i := by
  induction ns with
  | nil => exact ⟨0, Nat.zero_le k, rfl⟩
  | cons n ns ih =>
    obtain ⟨i, hi, rfl⟩ := hle n List.mem_cons_self
    obtain ⟨j, hj, hmost⟩ := ih fun n hn => hle n (List.mem_cons_of_mem _ hn)
    exact ⟨max i j, Nat.max_le.mpr ⟨hi, hj⟩, by rw [most, hmost]; rfl⟩

theorem most_eq_some {ns : List (Option Nat)} {k : Nat} (hle : ∀ n ∈ ns, ∃ i ≤ k, n = some i)
    (hmem : some k ∈ ns) : most ns = some k := by
  induction ns with
  | nil => exact absurd hmem List.not_mem_nil
  | cons n ns ih =>
    have hrest : ∀ n ∈ ns, ∃ i ≤ k, n = some i := fun n hn => hle n (List.mem_cons_of_mem _ hn)
    rcases List.mem_cons.mp hmem with rfl | hreached
    · obtain ⟨i, hi, hmost⟩ := most_le hrest
      rw [most, hmost]
      exact congrArg some (Nat.max_eq_left hi)
    · obtain ⟨i, hi, rfl⟩ := hle n List.mem_cons_self
      rw [most, ih hrest hreached]
      exact congrArg some (Nat.max_eq_right hi)

theorem most_map {φ : Nat → Nat} (hφ : ∀ a b, φ (max a b) = max (φ a) (φ b))
    {ns : List (Option Nat)} (hns : ns ≠ []) :
    most (ns.map (Option.map φ)) = (most ns).map φ := by
  induction ns with
  | nil => exact absurd rfl hns
  | cons n ns ih =>
    cases n with
    | none => rfl
    | some n =>
      by_cases h : ns = []
      · subst h
        exact congrArg some (by rw [Nat.max_zero, Nat.max_zero])
      · simp only [List.map_cons, most, ih h, Option.map_some, Option.bind_some]
        cases most ns with
        | none => rfl
        | some b => exact congrArg some (hφ n b).symm

theorem steps?_of_map {m : Machine L δ W ε} {t : Task L} {dts : List δ} {w : W} {n : Option Nat}
    (h : (course m dts t w).1.map Fate.steps? = .ok n) : t.steps? m dts w = n := by
  rw [steps?]
  cases hr : (course m dts t w).1 with
  | error e => rw [hr] at h; cases h
  | ok f => rw [hr] at h; exact Except.ok.inj h

theorem course_of_steps? {m : Machine L δ W ε} {t : Task L} {dts : List δ} {w : W} {n : Nat}
    (h : t.steps? m dts w = some n) : course m dts t w = (.ok (.done n), (course m dts t w).2) := by
  obtain ⟨f, hf, hn⟩ := Option.bind_eq_some_iff.mp h
  rcases hr : course m dts t w with ⟨e | f', u⟩ <;> rw [hr] at hf <;> cases hf
  rw [Fate.eq_done_of_steps? hn]

/-! ## Tasks in given worlds -/

/-- Gives a task its turns until it is done, whatever the world is by the time each of them
comes. -/
def throughTurns (m : Machine L δ W ε) : List (δ × W) → Task L → Except ε (Fate L)
  | [], t => .ok (.left t)
  | (dt, w) :: turns, t =>
    match t.next m dt w with
    | ((.error e, _), _) => .error e
    | ((.ok true, _), _) => .ok (.done 1)
    | ((.ok false, t'), _) => (throughTurns m turns t').map (Fate.after 1)

/-- Starts a task in its first turn and then gives it its turns until it is done. A task that is
done at its start takes no step. -/
def courseTurns (m : Machine L δ W ε) : List (δ × W) → Task L → Except ε (Fate L)
  | [], t => .ok (.left t)
  | (dt, w) :: turns, t =>
    match t.start m w with
    | ((.error e, _), _) => .error e
    | ((.ok true, _), _) => .ok (.done 0)
    | ((.ok false, t'), w') => throughTurns m ((dt, w') :: turns) t'

section
variable {m : Machine L δ W ε} {dt : δ} {dts : List δ} {t t' : Task L} {w w' : W}
  {turns : List (δ × W)}

theorem throughTurns_of_error {e : ε} (h : t.next m dt w = ((.error e, t'), w'))
    (turns : List (δ × W)) : throughTurns m ((dt, w) :: turns) t = .error e := by
  rw [throughTurns, h]

theorem throughTurns_of_done (h : t.next m dt w = ((.ok true, t'), w')) (turns : List (δ × W)) :
    throughTurns m ((dt, w) :: turns) t = .ok (.done 1) := by
  rw [throughTurns, h]

theorem throughTurns_of_paused (h : t.next m dt w = ((.ok false, t'), w'))
    (turns : List (δ × W)) :
    throughTurns m ((dt, w) :: turns) t = (throughTurns m turns t').map (Fate.after 1) := by
  rw [throughTurns, h]

/-- One more turn of a task that is not done is a step of what its turns left. -/
theorem throughTurns_concat (h : throughTurns m turns t = .ok (.left t')) (dt : δ) (w : W) :
    throughTurns m (turns ++ [(dt, w)]) t =
      match t'.next m dt w with
      | ((.error e, _), _) => .error e
      | ((.ok true, _), _) => .ok (.done (turns.length + 1))
      | ((.ok false, t''), _) => .ok (.left t'') := by
  induction turns generalizing t with
  | nil =>
    cases h
    rw [List.nil_append, throughTurns]
    rcases t'.next m dt w with ⟨⟨_ | _ | _, t''⟩, u⟩ <;> rfl
  | cons turn turns ih =>
    obtain ⟨dt₀, w₀⟩ := turn
    rw [List.cons_append]
    rcases hn : t.next m dt₀ w₀ with ⟨⟨_ | _ | _, t₁⟩, u⟩
    · rw [throughTurns_of_error hn] at h
      cases h
    · rw [throughTurns_of_paused hn] at h ⊢
      have hrest : throughTurns m turns t₁ = .ok (.left t') := by
        rcases hf : throughTurns m turns t₁ with e | _ | t₂ <;> rw [hf] at h <;> cases h
        rfl
      rw [ih hrest]
      rcases t'.next m dt w with ⟨⟨_ | _ | _, t''⟩, v⟩
      · rfl
      · rfl
      · exact congrArg (fun n => Except.ok (Fate.done n)) (Nat.add_comm 1 _)
    · rw [throughTurns_of_done hn] at h
      cases h

/-- A task that has a turn is done with the first at the soonest. -/
theorem throughTurns_cons_stepped (m : Machine L δ W ε) (turn : δ × W) (turns : List (δ × W))
    (t : Task L) :
    (throughTurns m (turn :: turns) t).map Fate.stepped = throughTurns m (turn :: turns) t := by
  obtain ⟨dt, w⟩ := turn
  rcases hn : t.next m dt w with ⟨⟨_ | _ | _, t'⟩, w'⟩
  · rw [throughTurns_of_error hn]
    rfl
  · rw [throughTurns_of_paused hn]
    cases throughTurns m turns t' with
    | error e => rfl
    | ok f => exact congrArg Except.ok (Fate.stepped_after 0 f)
  · rw [throughTurns_of_done hn]
    rfl

theorem throughTurns_cons_eq_courseTurns (m : Machine L δ W ε) (turn : δ × W)
    (turns : List (δ × W)) (ht : t ≠ .done) :
    throughTurns m (turn :: turns) t = (courseTurns m (turn :: turns) t).map Fate.stepped := by
  obtain ⟨dt, w⟩ := turn
  have hnext := next_eq_start m dt ht w
  rw [courseTurns]
  rcases hs : t.start m w with ⟨⟨_ | _ | _, t'⟩, w'⟩
  · rw [hs] at hnext
    exact throughTurns_of_error hnext turns
  · rw [hs] at hnext
    simp only [throughTurns_cons_stepped]
    rw [throughTurns, hnext, ← throughTurns]
  · rw [hs] at hnext
    exact throughTurns_of_done hnext turns

end

/-! ## Groups -/

/-- One step of a group whose tasks keep their places when they are done. -/
def oneRound (m : Machine L δ W ε) (dt : δ) :
    List (Slot L δ W) → W → Except ε (List (Slot L δ W)) × W
  | [], w => (.ok [], w)
  | s :: ss, w =>
    match s.turn m dt w with
    | (.error e, w') => (.error e, w')
    | (.ok s', w') => ((oneRound m dt ss w').1.map (s' :: ·), (oneRound m dt ss w').2)

/-- One round after another, up to one in which a task fails. -/
def rounds (m : Machine L δ W ε) :
    List δ → List (Slot L δ W) → W → Except ε (List (Slot L δ W)) × W
  | [], ss, w => (.ok ss, w)
  | dt :: dts, ss, w =>
    match oneRound m dt ss w with
    | (.error e, w') => (.error e, w')
    | (.ok ss', w') => rounds m dts ss' w'

end Task

open Choreo.Task

namespace Slot

/-- What is left of the tasks that are not done. -/
def live (ss : List (Slot L δ W)) : List (Task L) := (ss.map fate).filterMap Fate.left?

/-- How many steps the task takes after its start, in its turns, until it is done. -/
def steps? (m : Machine L δ W ε) (s : Slot L δ W) : Option Nat :=
  (courseTurns m s.turns s.task).toOption.bind Fate.steps?

/-- The task has been served with steps that came one after another: it is as its turns left it, and
these were the first of the steps, each once, up to the one it was done with. -/
structure Served (m : Machine L δ W ε) (dts : List δ) (s : Slot L δ W) : Prop where
  fate_eq : throughTurns m s.turns s.task = .ok s.fate
  given : s.turns.map Prod.fst <+: dts
  length_eq : s.turns.length = s.fate.steps?.getD dts.length

section
variable {m : Machine L δ W ε} {dt : δ} {dts : List δ} {s s' : Slot L δ W}
  {ss ss' : List (Slot L δ W)} {w w' : W}

theorem turn_of_done {n : Nat} (hf : s.fate = .done n) (m : Machine L δ W ε) (dt : δ) (w : W) :
    s.turn m dt w = (.ok s, w) := by
  rw [turn, hf]

theorem turn_of_left {t : Task L} (hf : s.fate = .left t) (m : Machine L δ W ε) (dt : δ) (w : W) :
    s.turn m dt w =
      match t.next m dt w with
      | ((.error e, _), w') => (.error e, w')
      | ((.ok true, _), w') =>
        (.ok ⟨s.task, s.turns ++ [(dt, w)], .done (s.turns.length + 1)⟩, w')
      | ((.ok false, t'), w') => (.ok ⟨s.task, s.turns ++ [(dt, w)], .left t'⟩, w') := by
  rw [turn, hf]

/-- A turn without a fault passes over a task that is done, and is a step of any other. -/
theorem turn_cases (h : s.turn m dt w = (.ok s', w')) :
    ((∃ n, s.fate = .done n) ∧ s' = s ∧ w' = w) ∨
      ∃ t t', s.fate = .left t ∧ s'.task = s.task ∧ s'.turns = s.turns ++ [(dt, w)] ∧
        ((t.next m dt w = ((.ok true, t'), w') ∧ s'.fate = .done (s.turns.length + 1)) ∨
          (t.next m dt w = ((.ok false, t'), w') ∧ s'.fate = .left t')) := by
  cases hf : s.fate with
  | done n =>
    rw [turn_of_done hf] at h
    cases h
    exact .inl ⟨⟨n, rfl⟩, rfl, rfl⟩
  | left t =>
    rw [turn_of_left hf] at h
    rcases hn : t.next m dt w with ⟨⟨_ | _ | _, t'⟩, u⟩ <;> rw [hn] at h <;> cases h
    · exact .inr ⟨t, t', rfl, rfl, rfl, .inr ⟨hn, rfl⟩⟩
    · exact .inr ⟨t, t', rfl, rfl, rfl, .inl ⟨hn, rfl⟩⟩

theorem served_unused (m : Machine L δ W ε) (ts : List (Task L)) :
    ∀ s ∈ (ts.map unused : List (Slot L δ W)), s.Served m [] := by
  intro s hs
  obtain ⟨t, -, rfl⟩ := List.mem_map.mp hs
  exact ⟨rfl, List.prefix_rfl, rfl⟩

/-- A task that is not done has had all the steps. -/
theorem Served.given_of_left {t : Task L} (h : s.Served m dts) (hf : s.fate = .left t) :
    s.turns.map Prod.fst = dts := by
  refine h.given.eq_of_length ?_
  rw [List.length_map, h.length_eq, hf]
  rfl

theorem Served.done_le {n : Nat} (h : s.Served m dts) (hf : s.fate = .done n) :
    n ≤ dts.length := by
  have hlength := h.length_eq
  rw [hf] at hlength
  rw [show n = s.turns.length from hlength.symm, ← List.length_map]
  exact h.given.length_le

theorem Served.turn (h : s.Served m dts) (hturn : s.turn m dt w = (.ok s', w')) :
    s'.Served m (dts ++ [dt]) := by
  rcases turn_cases hturn with ⟨⟨n, hf⟩, rfl, rfl⟩ | ⟨t, t', hf, htask, hturns, hnext⟩
  · refine ⟨h.fate_eq, h.given.trans (List.prefix_append dts [dt]), ?_⟩
    rw [h.length_eq, hf]
    rfl
  · have hfate := throughTurns_concat (hf ▸ h.fate_eq) dt w
    have hgiven : s'.turns.map Prod.fst = dts ++ [dt] := by
      rw [hturns, List.map_append, h.given_of_left hf]
      rfl
    rcases hnext with ⟨hn, hf'⟩ | ⟨hn, hf'⟩ <;> rw [hn] at hfate
    · refine ⟨by rw [htask, hturns, hf', hfate], hgiven ▸ List.prefix_rfl, ?_⟩
      rw [hf', hturns, List.length_append]
      rfl
    · refine ⟨by rw [htask, hturns, hf', hfate], hgiven ▸ List.prefix_rfl, ?_⟩
      rw [hf', ← hgiven, List.length_map]
      rfl

/-- A task that was not done before its turn is done with that turn, if it is done. -/
theorem Served.done_of_left {t : Task L} {n : Nat} (h : s.Served m dts) (hf : s.fate = .left t)
    (hturn : s.turn m dt w = (.ok s', w')) (hdone : s'.fate = .done n) :
    n = dts.length + 1 := by
  have hlength : s.turns.length = dts.length := by
    rw [← h.given_of_left hf, List.length_map]
  rcases turn_cases hturn with ⟨⟨k, hk⟩, -⟩ | ⟨t, t', -, -, -, ⟨-, hf'⟩ | ⟨-, hf'⟩⟩
  · rw [hf] at hk
    cases hk
  · rw [hdone, hlength] at hf'
    exact Fate.done.inj hf'
  · rw [hdone] at hf'
    cases hf'

theorem oneRound_turns (h : oneRound m dt ss w = (.ok ss', w')) :
    List.Forall₂ (fun s s' => ∃ u u', s.turn m dt u = (.ok s', u')) ss ss' := by
  induction ss generalizing ss' w with
  | nil =>
    cases h
    exact .nil
  | cons s ss ih =>
    rw [oneRound] at h
    rcases ht : s.turn m dt w with ⟨_ | s', u⟩
    · rw [ht] at h
      cases h
    · rcases hr : oneRound m dt ss u with ⟨_ | ss', v⟩
      · simp only [ht, hr] at h
        cases h
      · simp only [ht, hr] at h
        cases h
        exact .cons ⟨w, u, ht⟩ (ih hr)

theorem exists_turn_of_mem (h : oneRound m dt ss w = (.ok ss', w')) (hs : s ∈ ss) :
    ∃ s' ∈ ss', ∃ u u', s.turn m dt u = (.ok s', u') := by
  have hturns := oneRound_turns h
  obtain ⟨i, hi, rfl⟩ := List.getElem_of_mem hs
  have hi' : i < ss'.length := hturns.length_eq ▸ hi
  exact ⟨ss'[i], List.getElem_mem hi', hturns.get hi hi'⟩

/-- What a round leaves of served tasks is served with one more step. -/
theorem served_oneRound (hss : ∀ s ∈ ss, s.Served m dts) (h : oneRound m dt ss w = (.ok ss', w')) :
    ∀ s' ∈ ss', s'.Served m (dts ++ [dt]) := by
  have hturns := oneRound_turns h
  clear h
  induction hturns with
  | nil => exact nofun
  | cons hturn _ ih =>
    obtain ⟨u, u', hturn⟩ := hturn
    obtain ⟨hs, hss⟩ := List.forall_mem_cons.mp hss
    exact List.forall_mem_cons.mpr ⟨hs.turn hturn, ih hss⟩

theorem task_oneRound (h : oneRound m dt ss w = (.ok ss', w')) : ss'.map task = ss.map task := by
  have hturns := oneRound_turns h
  clear h
  induction hturns with
  | nil => rfl
  | cons hturn _ ih =>
    obtain ⟨u, u', hturn⟩ := hturn
    rw [List.map_cons, List.map_cons, ih]
    rcases turn_cases hturn with ⟨-, rfl, -⟩ | ⟨t, t', -, htask, -⟩
    · rfl
    · rw [htask]

theorem served_rounds {before : List δ} (hss : ∀ s ∈ ss, s.Served m before)
    (h : rounds m dts ss w = (.ok ss', w')) :
    ss'.map task = ss.map task ∧ ∀ s' ∈ ss', s'.Served m (before ++ dts) := by
  induction dts generalizing before ss w with
  | nil =>
    cases h
    rw [List.append_nil]
    exact ⟨rfl, hss⟩
  | cons dt dts ih =>
    rw [rounds] at h
    rcases hr : oneRound m dt ss w with ⟨_ | ss₁, u⟩
    · rw [hr] at h
      cases h
    · rw [hr] at h
      obtain ⟨htask, hserved⟩ := ih (served_oneRound hss hr) h
      rw [List.append_assoc] at hserved
      exact ⟨htask.trans (task_oneRound hr), hserved⟩

theorem live_cons_of_done {n : Nat} (hf : s.fate = .done n) (ss : List (Slot L δ W)) :
    live (s :: ss) = live ss := by
  rw [live, List.map_cons, hf]
  rfl

theorem live_cons_of_left {t : Task L} (hf : s.fate = .left t) (ss : List (Slot L δ W)) :
    live (s :: ss) = t :: live ss := by
  rw [live, List.map_cons, hf]
  rfl

theorem live_unused (ts : List (Task L)) : live (ts.map unused : List (Slot L δ W)) = ts := by
  induction ts with
  | nil => rfl
  | cons t ts ih => exact congrArg (t :: ·) ih

/-- What a step leaves of the tasks of a group is what a round leaves of them. -/
theorem advanceAll_live (m : Machine L δ W ε) (dt : δ) (ss : List (Slot L δ W)) (w : W) :
    advanceAll m dt (live ss) w = ((oneRound m dt ss w).1.map live, (oneRound m dt ss w).2) := by
  induction ss generalizing w with
  | nil => rfl
  | cons s ss ih =>
    cases hf : s.fate with
    | done n =>
      simp only [oneRound, turn_of_done hf, live_cons_of_done hf, ih]
      cases (oneRound m dt ss w).1 with
      | error e => rfl
      | ok ss' => simp only [Except.map, live_cons_of_done hf]
    | left t =>
      rw [oneRound, turn_of_left hf, live_cons_of_left hf, advanceAll_cons_next]
      rcases t.next m dt w with ⟨⟨_ | _ | _, t'⟩, u⟩
      · rfl
      · simp only [ih]
        cases (oneRound m dt ss u).1 <;> rfl
      · simp only [ih]
        cases (oneRound m dt ss u).1 <;> rfl

theorem oneRound_of_live_nil (m : Machine L δ W ε) (dt : δ) (h : live ss = []) (w : W) :
    oneRound m dt ss w = (.ok ss, w) := by
  induction ss with
  | nil => rfl
  | cons s ss ih =>
    cases hf : s.fate with
    | left t =>
      rw [live_cons_of_left hf] at h
      cases h
    | done n =>
      rw [live_cons_of_done hf] at h
      rw [oneRound, turn_of_done hf]
      simp only [ih h, Except.map]

theorem rounds_of_live_nil (m : Machine L δ W ε) (dts : List δ) (h : live ss = []) (w : W) :
    rounds m dts ss w = (.ok ss, w) := by
  induction dts with
  | nil => rfl
  | cons dt dts ih => simp only [rounds, oneRound_of_live_nil m dt h, ih]

/-- What has become of a group, told from its slots. -/
def grouped (ss : List (Slot L δ W)) : Fate L := Fate.together most .all (ss.map fate)

theorem exists_left_of_live (h : live ss ≠ []) : ∃ s ∈ ss, ∃ t, s.fate = .left t := by
  obtain ⟨t, ht⟩ := List.exists_mem_of_ne_nil _ h
  obtain ⟨f, hf, hleft⟩ := List.mem_filterMap.mp ht
  obtain ⟨s, hs, rfl⟩ := List.mem_map.mp hf
  refine ⟨s, hs, ?_⟩
  cases hfate : s.fate with
  | done n => rw [hfate] at hleft; cases hleft
  | left t => exact ⟨t, rfl⟩

theorem exists_done_of_live_nil (h : live ss = []) (hs : s ∈ ss) : ∃ n, s.fate = .done n := by
  have hnone := List.filterMap_eq_nil_iff.mp h s.fate (List.mem_map_of_mem hs)
  cases hf : s.fate with
  | done n => exact ⟨n, rfl⟩
  | left t => rw [hf] at hnone; cases hnone

theorem grouped_of_live (h : live ss ≠ []) : grouped ss = .left (.paused (.all (live ss))) := by
  have hnone : most ((ss.map fate).map Fate.steps?) = none := by
    obtain ⟨s, hs, t, hf⟩ := exists_left_of_live h
    exact most_eq_none (List.mem_map.mpr ⟨s.fate, List.mem_map_of_mem hs, by rw [hf]; rfl⟩)
  rw [grouped, Fate.together, hnone]
  rfl

/-- The round in which the last task is done is the one with the step that all the tasks together
are done with. -/
theorem grouped_oneRound (hss : ∀ s ∈ ss, s.Served m dts) (hlive : live ss ≠ [])
    (h : oneRound m dt ss w = (.ok ss', w')) (hdone : live ss' = []) :
    grouped ss' = .done (dts.length + 1) := by
  have hle : ∀ n ∈ (ss'.map fate).map Fate.steps?, ∃ i ≤ dts.length + 1, n = some i := by
    intro n hn
    rw [List.map_map] at hn
    obtain ⟨s', hs', rfl⟩ := List.mem_map.mp hn
    obtain ⟨n, hf⟩ := exists_done_of_live_nil hdone hs'
    have hn := (served_oneRound hss h s' hs').done_le hf
    rw [List.length_append] at hn
    exact ⟨n, hn, congrArg Fate.steps? hf⟩
  -- A task that was not done before the round was done in it.
  have hreached : some (dts.length + 1) ∈ (ss'.map fate).map Fate.steps? := by
    obtain ⟨s, hs, t, hf⟩ := exists_left_of_live hlive
    obtain ⟨s', hs', u, u', hturn⟩ := exists_turn_of_mem h hs
    obtain ⟨n, hf'⟩ := exists_done_of_live_nil hdone hs'
    obtain rfl := (hss s hs).done_of_left hf hturn hf'
    exact List.mem_map.mpr ⟨s'.fate, List.mem_map_of_mem hs', congrArg Fate.steps? hf'⟩
  rw [grouped, Fate.together, most_eq_some hle hreached]

/-- A group that waits for the tasks that are not done takes their rounds. -/
theorem through_live {before : List δ} (hss : ∀ s ∈ ss, s.Served m before) (hlive : live ss ≠ [])
    (dts : List δ) (w : W) :
    ((through m dts (.paused (.all (live ss))) w).1.map (Fate.after before.length),
        (through m dts (.paused (.all (live ss))) w).2) =
      ((rounds m dts ss w).1.map grouped, (rounds m dts ss w).2) := by
  -- The slots count their steps from the first, so those before these are counted in on both sides.
  induction dts generalizing before ss w with
  | nil =>
    simp only [through, rounds, Except.map, grouped_of_live hlive]
    rfl
  | cons dt dts ih =>
    have hnext := next_all m dt (live ss) w
    rw [advanceAll_live] at hnext
    rcases hr : oneRound m dt ss w with ⟨_ | ss', u⟩
    · rw [hr] at hnext
      rw [through_of_error hnext, rounds, hr]
      rfl
    · rw [hr] at hnext
      have hserved := served_oneRound hss hr
      by_cases hdone : live ss' = []
      · simp only [Except.map, hdone] at hnext
        rw [through_of_done hnext, rounds, hr]
        simp only [rounds_of_live_nil m dts hdone]
        simp only [Except.map, grouped_oneRound hss hlive hr hdone]
        rfl
      · have hpaused : (Task.paused (.all (live ss))).next m dt w =
            ((.ok false, .paused (.all (live ss'))), u) := by
          obtain ⟨t, ts, hts⟩ := List.exists_cons_of_ne_nil hdone
          simp only [Except.map, hts] at hnext ⊢
          exact hnext
        have hrest := ih hserved hdone u
        rw [List.length_append] at hrest
        rw [through_of_paused hpaused, rounds, hr, ← hrest]
        cases (through m dts (.paused (.all (live ss'))) u).1 with
        | error e => rfl
        | ok f => exact congrArg (fun f => (Except.ok f, _)) (Fate.after_after _ _ f)

/-- A served task is done with a step as it is in its turns, and with the first at the soonest. -/
theorem Served.steps?_eq (h : s.Served m dts) (hdts : dts ≠ []) :
    s.fate.steps? = (s.steps? m).map (max 1) := by
  have hturns : s.turns ≠ [] := by
    intro hnil
    have hfate := h.fate_eq
    have hlength := h.length_eq
    rw [hnil] at hfate hlength
    rw [← Except.ok.inj hfate] at hlength
    exact hdts (List.length_eq_zero_iff.mp hlength.symm)
  obtain ⟨turn, turns, hcons⟩ := List.exists_cons_of_ne_nil hturns
  have hfate := h.fate_eq
  rw [hcons] at hfate
  have hne : s.task ≠ .done := by
    intro hdone
    rw [hdone] at hfate
    cases hfate
  rw [throughTurns_cons_eq_courseTurns m turn turns hne] at hfate
  rw [steps?, hcons]
  cases hcourse : courseTurns m (turn :: turns) s.task with
  | error e => rw [hcourse] at hfate; cases hfate
  | ok f =>
    rw [hcourse] at hfate
    rw [← Except.ok.inj hfate]
    exact Fate.steps?_stepped f

end
end Slot

namespace Task
open Slot (live grouped unused)

section
variable {m : Machine L δ W ε} {dts : List δ} {t : Task L} {ts : List (Task L)} {w v : W}

theorem course_all_rounds (m : Machine L δ W ε) (dts : List δ) (ts : List (Task L)) (w : W) :
    course m dts (.fresh (.all ts)) w =
      ((rounds m dts (ts.map unused) w).1.map grouped, (rounds m dts (ts.map unused) w).2) := by
  by_cases hts : ts = []
  · subst hts
    rw [List.map_nil, Slot.rounds_of_live_nil m dts rfl w]
    rfl
  · have hlive : live (ts.map unused : List (Slot L δ W)) = ts := Slot.live_unused ts
    have hthrough := Slot.through_live (Slot.served_unused m ts) (by rwa [hlive]) dts w
    rw [course_all hts, ← hthrough, hlive, List.length_nil, Fate.after_zero, Except.map_id]
    rfl

theorem served_of_rounds {ss : List (Slot L δ W)}
    (h : rounds m dts (ts.map unused) w = (.ok ss, v)) :
    ss.map Slot.task = ts ∧ ∀ s ∈ ss, s.Served m dts := by
  obtain ⟨htask, hss⟩ := Slot.served_rounds (Slot.served_unused m ts) h
  rw [List.map_map] at htask
  exact ⟨htask.trans (List.map_id ts), hss⟩

theorem course_all_fates {ss : List (Slot L δ W)}
    (h : rounds m dts (ts.map unused) w = (.ok ss, v)) :
    (course m dts (.fresh (.all ts)) w).1.map Fate.steps? =
      .ok (most (ss.map (·.fate.steps?))) := by
  rw [course_all_rounds, h]
  show Except.ok (grouped ss).steps? = _
  rw [grouped, Fate.steps?_together, List.map_map]
  rfl

/-- A group that takes a step takes as many as the task that takes the most, when the numbers of
steps do not tell the start of a task apart from its first step. -/
theorem course_all_of_counts {ss : List (Slot L δ W)} {counts : List (Option Nat)}
    (h : rounds m dts (ts.map unused) w = (.ok ss, v))
    (hcounts : dts ≠ [] → ss.map (·.fate.steps?) = counts.map (Option.map (max 1))) :
    (course m dts (.fresh (.all ts)) w).1.map Fate.steps? =
      .ok (if ts = [] then some 0 else if dts = [] then none
        else (most counts).map (max 1)) := by
  have htask := (served_of_rounds h).1
  rw [course_all_fates h]
  cases ts with
  | nil =>
    rw [List.map_eq_nil_iff.mp htask]
    rfl
  | cons t ts =>
    rw [if_neg (List.cons_ne_nil t ts)]
    cases dts with
    | nil =>
      cases h
      rfl
    | cons dt dts =>
      have hsteps := hcounts (List.cons_ne_nil dt dts)
      have hne : counts ≠ [] := by
        rintro rfl
        rw [List.map_eq_nil_iff.mp hsteps] at htask
        cases htask
      rw [if_neg (List.cons_ne_nil dt dts), hsteps, most_map (fun a b => by omega) hne]

/-- A group takes as many steps as the task that takes the most in its turns, and one at least. -/
theorem course_all_most {ss : List (Slot L δ W)}
    (h : rounds m dts (ts.map unused) w = (.ok ss, v)) :
    (course m dts (.fresh (.all ts)) w).1.map Fate.steps? =
      .ok (if ts = [] then some 0 else if dts = [] then none
        else (most (ss.map (·.steps? m))).map (max 1)) := by
  refine course_all_of_counts h fun hdts => ?_
  rw [List.map_map]
  exact List.map_congr_left fun s hs => ((served_of_rounds h).2 s hs).steps?_eq hdts

/-- A task that is not done in its turns keeps the group from being done. -/
theorem steps?_all_eq_none {ss : List (Slot L δ W)}
    (h : rounds m dts (ts.map unused) w = (.ok ss, v)) {s : Slot L δ W} (hs : s ∈ ss)
    (hnone : s.steps? m = none) : steps? m dts w (.fresh (.all ts)) = none := by
  have hts : ts ≠ [] := by
    rw [← (served_of_rounds h).1]
    exact List.ne_nil_of_mem (List.mem_map_of_mem hs)
  have hmost : most (ss.map (·.steps? m)) = none :=
    most_eq_none (List.mem_map.mpr ⟨s, hs, hnone⟩)
  have hsteps := course_all_most h
  rw [if_neg hts, hmost, Option.map_none, ite_self] at hsteps
  exact steps?_of_map hsteps

/-! ## Chains -/

/-- Tasks that are given the steps one after another: each starts in the world in which the one
before it was done, with the steps that are left then. -/
def relay (m : Machine L δ W ε) : List δ → List (Task L) → W → Except ε (List (Fate L)) × W
  | _, [], w => (.ok [], w)
  | dts, t :: ts, w =>
    match course m dts t w with
    | (.error e, w') => (.error e, w')
    | (.ok (.left t'), w') => (.ok (.left t' :: ts.map .left), w')
    | (.ok (.done n), w') =>
      ((relay m (dts.drop n) ts w').1.map (.done n :: ·), (relay m (dts.drop n) ts w').2)

theorem together_left (t : Task L) (ts : List (Task L)) :
    Fate.together sum .chain (.left t :: ts.map .left) = .left (.paused (.chain (t :: ts))) := by
  have hleft : ts.filterMap (Fate.left? ∘ Fate.left) = ts := List.filterMap_some
  show Fate.left (.paused (.chain (t :: (ts.map Fate.left).filterMap Fate.left?))) = _
  rw [List.filterMap_map, hleft]

theorem together_done (n : Nat) (fs : List (Fate L)) :
    Fate.together sum .chain (.done n :: fs) = (Fate.together sum .chain fs).after n := by
  simp only [Fate.together, List.map_cons, Fate.steps?, sum, Option.bind_some]
  cases sum (fs.map Fate.steps?) <;> rfl

theorem course_chain_relay (m : Machine L δ W ε) (dts : List δ) (ts : List (Task L)) (w : W) :
    course m dts (.fresh (.chain ts)) w =
      ((relay m dts ts w).1.map (Fate.together sum .chain), (relay m dts ts w).2) := by
  induction ts generalizing dts w with
  | nil => rfl
  | cons t ts ih =>
    rw [course_chain_cons, relay]
    rcases course m dts t w with ⟨_ | n | t', u⟩
    · rfl
    · simp only [ih]
      cases (relay m (dts.drop n) ts u).1 with
      | error e => rfl
      | ok fs => exact congrArg (fun f => (Except.ok f, _)) (together_done n fs).symm
    · exact congrArg (fun f => (Except.ok f, _)) (together_left t' ts).symm

theorem steps?_chain_cons (m : Machine L δ W ε) (dts : List δ) (t : Task L) (ts : List (Task L))
    (w : W) :
    steps? m dts w (.fresh (.chain (t :: ts))) = (t.steps? m dts w).bind fun n =>
      (steps? m (dts.drop n) (course m dts t w).2 (.fresh (.chain ts))).map (n + ·) := by
  simp only [steps?, course_chain_cons]
  rcases course m dts t w with ⟨_ | n | t', u⟩
  · rfl
  · show ((course m (dts.drop n) (.fresh (.chain ts)) u).1.map (Fate.after n)).toOption.bind _ =
      ((course m (dts.drop n) (.fresh (.chain ts)) u).1.toOption.bind Fate.steps?).map (n + ·)
    cases (course m (dts.drop n) (.fresh (.chain ts)) u).1 with
    | error e => rfl
    | ok f => exact Fate.steps?_after n f
  · rfl

/-- A task that is not done when its turn in a chain comes keeps the chain from being done. -/
theorem steps?_chain_eq_none {before : List (Task L)} (after : List (Task L))
    (hnone : ∀ n v, course m dts (.fresh (.chain before)) w = (.ok (.done n), v) →
      t.steps? m (dts.drop n) v = none) :
    steps? m dts w (.fresh (.chain (before ++ t :: after))) = none := by
  -- Down the chain, each task leaves its successors the steps that it did not need.
  induction before generalizing dts w with
  | nil =>
    have hfirst := hnone 0 w (course_chain_nil m dts w)
    rw [List.drop_zero] at hfirst
    rw [List.nil_append, steps?_chain_cons, hfirst, Option.bind_none]
  | cons s before ih =>
    rw [List.cons_append, steps?_chain_cons]
    cases hs : s.steps? m dts w with
    | none => rfl
    | some k =>
      have hrest : steps? m (dts.drop k) (course m dts s w).2
          (.fresh (.chain (before ++ t :: after))) = none := by
        refine ih fun n v hdone => ?_
        rw [List.drop_drop]
        refine hnone (k + n) v ?_
        rw [course_chain_cons, course_of_steps? hs]
        simp only [hdone]
        rfl
      rw [Option.bind_some, hrest, Option.map_none]

/-! ## The law -/

/-- How the two combinations share out steps among their tasks.

A group takes rounds. Each of its tasks is as its own turns left it, and these are the steps of the
group in their order, each once, up to the one the task was done with: no task is left out because
another is done, and none has a turn after it is done. A group of none takes no step; any other
takes as many as the task that takes the most in its turns, and at least one.

A chain takes a relay. The first task is given all the steps, and each of the others those that the
tasks before it did not need; it starts in the step in which the one before it was done, and the
chain takes the sum of the steps they take.

A task that is not done in its turns keeps the group from being done, and one that is not done when
it comes to it the chain. -/
theorem combined_law (m : Machine L δ W ε) (ts : List (Task L)) (w : W) :
    (∀ dts, course m dts (.fresh (.all ts)) w =
      ((rounds m dts (ts.map unused) w).1.map grouped, (rounds m dts (ts.map unused) w).2)) ∧
    (∀ dts ss v, rounds m dts (ts.map unused) w = (.ok ss, v) →
      ss.map Slot.task = ts ∧ (∀ s ∈ ss, s.Served m dts) ∧
      (course m dts (.fresh (.all ts)) w).1.map Fate.steps? =
        .ok (if ts = [] then some 0 else if dts = [] then none
          else (most (ss.map (·.steps? m))).map (max 1)) ∧
      ∀ s ∈ ss, s.steps? m = none → steps? m dts w (.fresh (.all ts)) = none) ∧
    (∀ dts, course m dts (.fresh (.chain ts)) w =
      ((relay m dts ts w).1.map (Fate.together sum .chain), (relay m dts ts w).2)) ∧
    ∀ dts before t after, ts = before ++ t :: after →
      (∀ n v, course m dts (.fresh (.chain before)) w = (.ok (.done n), v) →
        t.steps? m (dts.drop n) v = none) →
      steps? m dts w (.fresh (.chain ts)) = none := by
  refine ⟨fun dts => course_all_rounds m dts ts w, fun dts ss v h => ?_,
    fun dts => course_chain_relay m dts ts w, ?_⟩
  · obtain ⟨htask, hserved⟩ := served_of_rounds h
    exact ⟨htask, hserved, course_all_most h, fun s hs => steps?_all_eq_none h hs⟩
  · rintro dts before t after rfl hnone
    exact steps?_chain_eq_none after hnone

end

/-- Leaves that act on a tally. Some add to it for a number of steps, others wait until it has come
to a mark. -/
def tally : Machine (Nat ⊕ Nat) Nat Nat Unit where
  start l w := (.paused l, w)
  resume
    | .inl k, dt, w => (if k ≤ 1 then .finished else .paused (.inl (k - 1)), w + dt)
    | .inr mark, _, w => (if mark ≤ w then .finished else .paused (.inr mark), w)
  stepped := ()

/-- A task that waits for what another does sees it in the same round when it comes after that one
in the group, and in the next round when it comes before it. In a chain, it must come after. -/
theorem combined_law_tally :
    let adds : Task (Nat ⊕ Nat) := .fresh (.leaf (.inl 2))
    let waits : Task (Nat ⊕ Nat) := .fresh (.leaf (.inr 5))
    course tally [3, 3, 3] (.fresh (.all [adds, waits])) 0 = (.ok (.done 2), 6) ∧
      (course tally [3, 3, 3] (.fresh (.all [waits, adds])) 0).1.map Fate.steps? =
        .ok (some 3) ∧
      course tally [3, 3, 3] (.fresh (.chain [adds, waits])) 0 = (.ok (.done 3), 6) ∧
      steps? tally [3, 3, 3] 0 (.fresh (.chain [waits, adds])) = none := by
  intro adds waits
  obtain ⟨hgroup, -, hchain, -⟩ := combined_law tally [adds, waits] 0
  obtain ⟨-, hrounds, -, hnever⟩ := combined_law tally [waits, adds] 0
  obtain ⟨-, -, hmost, -⟩ := hrounds [3, 3, 3] _ _ rfl
  refine ⟨(hgroup _).trans rfl, hmost.trans rfl, (hchain _).trans rfl,
    hnever [3, 3, 3] [] waits [adds] rfl ?_⟩
  rintro n v hdone
  cases hdone
  rfl

end Task
end Choreo
