import Choreo.Proofs.Number.Rational
import Choreo.Timeline
import Mathlib.Algebra.Order.BigOperators.Group.List
import Mathlib.Order.Monotone.Basic

/-!
The master timeline as a layout and its inverse.

A scene starts when all scenes before it are over, and a scene of negative length is over at once.
The scene that plays at a time is the last that has started by then. Scenes without length start
together with the one behind them, so this is a scene with length or the last of all, and the walk
forward behind the binary search has nothing left to do: `Timeline.locate_eq`. From it follows what
a look-up promises (`Timeline.locate_inverts_layout`).
-/

namespace Choreo
namespace Timeline

/-! ## Starts -/

/-- When the scene at a place starts. The place behind the last scene is where the timeline ends. -/
def startAt (ds : List Rat) (i : Nat) : Rat := ((ds.take i).map fun d => max d 0).sum

section
variable {ds : List Rat} {i : Nat}

theorem startAt_zero (ds : List Rat) : startAt ds 0 = 0 := by
  rw [startAt, List.take_zero, List.map_nil, List.sum_nil]

theorem startAt_cons (d : Rat) (ds : List Rat) (i : Nat) :
    startAt (d :: ds) (i + 1) = max d 0 + startAt ds i := by
  rw [startAt, List.take_succ_cons, List.map_cons, List.sum_cons, startAt]

theorem startAt_succ {d : Rat} (hd : ds[i]? = some d) :
    startAt ds (i + 1) = startAt ds i + max d 0 := by
  rw [startAt, List.take_add_one, hd, Option.toList_some, List.map_append, List.sum_append, startAt,
    List.map_singleton, List.sum_singleton]

/-- Later scenes start no earlier, as no scene counts less than nought. -/
theorem startAt_mono (ds : List Rat) : Monotone (startAt ds) := by
  refine monotone_nat_of_le_succ fun i => ?_
  by_cases hi : i < ds.length
  · rw [startAt_succ (List.getElem?_eq_getElem hi)]
    exact le_add_of_nonneg_right (le_max_right _ _)
  · have hall : ds.length ≤ i := Nat.le_of_not_lt hi
    rw [startAt, startAt, List.take_of_length_le hall,
      List.take_of_length_le (Nat.le_succ_of_le hall)]

theorem startAt_nonneg (ds : List Rat) (i : Nat) : 0 ≤ startAt ds i := by
  rw [← startAt_zero ds]
  exact startAt_mono ds (Nat.zero_le i)

/-- Scenes are laid out from a time on at their starts. -/
theorem layOut_fst (ds : List Rat) (t : Rat) :
    (layOut t ds).1 = (List.range ds.length).map fun i => t + startAt ds i := by
  induction ds generalizing t with
  | nil => rfl
  | cons d ds ih =>
    have hrest : (layOut t (d :: ds)).1 = t :: (layOut (t + max d 0) ds).1 := by
      rw [layOut, Scalar.larger_rat, Scalar.zero_rat]
    rw [hrest, ih, List.length_cons, List.range_succ_eq_map, List.map_cons, List.map_map,
      startAt_zero, add_zero]
    refine congrArg (t :: ·) (List.map_congr_left fun i _ => ?_)
    simp only [Function.comp_apply, Nat.succ_eq_add_one, startAt_cons, add_assoc]

theorem starts_ofDurations (ds : List Rat) :
    (ofDurations ds).starts = (List.range ds.length).map (startAt ds) := by
  have hstarts : (ofDurations ds).starts = (layOut 0 ds).1 := rfl
  rw [hstarts, layOut_fst]
  exact List.map_congr_left fun i _ => zero_add _

theorem getElem?_starts (hi : i < ds.length) :
    (ofDurations ds).starts[i]? = some (startAt ds i) := by
  rw [starts_ofDurations, List.getElem?_map, List.getElem?_range hi, Option.map_some]

theorem getD_starts (hi : i < ds.length) (x : Rat) :
    (ofDurations ds).starts.getD i x = startAt ds i := by
  rw [List.getD_eq_getElem?_getD, getElem?_starts hi, Option.getD_some]

end

/-! ## The search -/

/-- Among sorted starts the search finds the place behind all that are not after the time. -/
theorem insertion_spec {starts : List Rat} {f : Nat → Rat} (hf : Monotone f) {t : Rat} {lo hi : Nat}
    (hle : lo ≤ hi) (hstarts : ∀ j < hi, starts.getD j t = f j) :
    insertion starts t lo hi ≤ hi ∧
      (∀ j, lo ≤ j → j < insertion starts t lo hi → f j ≤ t) ∧
      ∀ j, insertion starts t lo hi ≤ j → j < hi → t < f j := by
  fun_induction insertion starts t lo hi with
  | case1 lo hi hlt middle hbefore ih =>
    have hmiddle : middle < hi := by omega
    rw [hstarts middle hmiddle] at hbefore
    obtain ⟨hend, hnot, hafter⟩ := ih (by omega) fun j hj => hstarts j (by omega)
    refine ⟨by omega, hnot, fun j hj hjhi => ?_⟩
    by_cases hjm : j < middle
    · exact hafter j hj hjm
    · exact hbefore.trans_le (hf (Nat.le_of_not_lt hjm))
  | case2 lo hi hlt middle hbefore ih =>
    have hmiddle : middle < hi := by omega
    rw [hstarts middle hmiddle] at hbefore
    obtain ⟨hend, hnot, hafter⟩ := ih (by omega) hstarts
    refine ⟨hend, fun j hj hjk => ?_, hafter⟩
    by_cases hjm : j ≤ middle
    · exact (hf hjm).trans (not_lt.mp hbefore)
    · exact hnot j (by omega) hjk
  | case3 lo hi hlt =>
    exact ⟨hle, fun j hj hjk => absurd hjk (by omega), fun j hj hjhi => absurd hjhi (by omega)⟩

/-! ## The scene that plays -/

/-- The scene at a place is the last that has started by a time. -/
structure Playing (ds : List Rat) (u : Rat) (i : Nat) : Prop where
  lt : i < ds.length
  started : startAt ds i ≤ u
  last : ∀ j, i < j → j < ds.length → u < startAt ds j

namespace Playing
variable {ds : List Rat} {u u' d : Rat} {i i' : Nat}

/-- At a later time no earlier scene plays. -/
theorem le (h : Playing ds u i) (h' : Playing ds u' i') (hu : u ≤ u') : i ≤ i' := by
  by_contra hlt
  have hafter : u' < startAt ds i := h'.last i (Nat.lt_of_not_le hlt) h.lt
  exact absurd (h.started.trans hu) (not_le.mpr hafter)

theorem unique (h : Playing ds u i) (h' : Playing ds u i') : i = i' :=
  Nat.le_antisymm (h.le h' le_rfl) (h'.le h le_rfl)

/-- The playing scene is not over, unless it is the last of all. -/
theorem not_over (h : Playing ds u i) (hd : ds[i]? = some d) (hi : i + 1 < ds.length) :
    u < startAt ds i + max d 0 := by
  rw [← startAt_succ hd]
  exact h.last (i + 1) (Nat.lt_succ_self i) hi

/-- So it has a length that is more than nought. -/
theorem not_ended (h : Playing ds u i) (hd : ds[i]? = some d) (hi : i + 1 < ds.length) :
    u < startAt ds i + d := by
  have hover := h.not_over hd hi
  by_cases hpos : 0 ≤ d
  · rwa [max_eq_left hpos] at hover
  · rw [max_eq_right (le_of_not_ge hpos), add_zero] at hover
    exact absurd h.started (not_le.mpr hover)

/-- A time within a scene is one at which it plays. -/
theorem of_offset {o : Rat} (hd : ds[i]? = some d) (ho : 0 ≤ o) (hod : o < d) :
    Playing ds (startAt ds i + o) i where
  lt := (List.getElem?_eq_some_iff.mp hd).1
  started := le_add_of_nonneg_right ho
  last j hij _ := by
    have hnext : startAt ds (i + 1) ≤ startAt ds j := startAt_mono ds hij
    rw [startAt_succ hd] at hnext
    exact (add_lt_add_right (lt_max_of_lt_left hod) _).trans_le hnext

end Playing

section
variable {ds : List Rat} {u t : Rat} {i : Nat}

/-- The search over the starts ends behind the scene that plays. -/
theorem playing_insertion (hds : ds ≠ []) (hu : 0 ≤ u) :
    Playing ds u (insertion (ofDurations ds).starts u 0 ds.length - 1) := by
  have hlength : 0 < ds.length := List.length_pos_iff.mpr hds
  obtain ⟨hle, hbefore, hafter⟩ := insertion_spec (startAt_mono ds) (Nat.zero_le ds.length)
    fun j hj => getD_starts hj u
  generalize insertion (ofDurations ds).starts u 0 ds.length = k at hle hbefore hafter ⊢
  -- The first scene starts at nought, so the search does not end in front of it.
  have hpos : 0 < k := by
    by_contra hk
    have hfirst := hafter 0 (Nat.le_of_not_lt hk) hlength
    rw [startAt_zero] at hfirst
    exact absurd hu (not_le.mpr hfirst)
  exact
    { lt := by omega
      started := hbefore (k - 1) (Nat.zero_le _) (by omega)
      last := fun j hj hjn => hafter j (by omega) hjn }

/-- From the scene that plays the walk does not go on. -/
theorem settle_playing (h : Playing ds u i) :
    settle (ofDurations ds) u i (ds.length - 1 - i) = i := by
  cases hn : ds.length - 1 - i with
  | zero => rfl
  | succ remaining =>
    obtain ⟨d, hd⟩ : ∃ d, ds[i]? = some d := ⟨_, List.getElem?_eq_getElem h.lt⟩
    have hduration : (ofDurations ds).durations[i]? = some d := hd
    have hend : ¬startAt ds i + d ≤ u := not_le.mpr (h.not_ended hd (by omega))
    rw [settle, getElem?_starts h.lt, hduration]
    exact if_neg hend

/-- A time is located in the scene that plays then, as far in as that has been playing. -/
theorem locate_eq (h : Playing ds (max t 0) i) :
    (ofDurations ds).locate t = some (i, max t 0 - startAt ds i) := by
  have hne : ds ≠ [] := List.length_pos_iff.mp (Nat.zero_lt_of_lt h.lt)
  have hlength : (ofDurations ds).length ≠ 0 := (List.length_pos_iff.mpr hne).ne'
  have hfound : insertion (ofDurations ds).starts (max t 0) 0 (ofDurations ds).length - 1 = i :=
    (playing_insertion hne (le_max_right t 0)).unique h
  have hsettled : settle (ofDurations ds) (max t 0) i ((ofDurations ds).length - 1 - i) = i :=
    settle_playing h
  rw [locate, if_neg hlength]
  simp only [Scalar.larger_rat, Scalar.zero_rat, hfound, hsettled, getD_starts h.lt]

theorem exists_playing (hds : ds ≠ []) (t : Rat) : ∃ i, Playing ds (max t 0) i :=
  ⟨_, playing_insertion hds (le_max_right t 0)⟩

/-- What a located time says of its scene. -/
theorem playing_of_locate {o : Rat} (h : (ofDurations ds).locate t = some (i, o)) :
    Playing ds (max t 0) i ∧ o = max t 0 - startAt ds i := by
  have hds : ds ≠ [] := by
    rintro rfl
    cases h
  obtain ⟨j, hj⟩ := exists_playing hds t
  rw [locate_eq hj] at h
  cases h
  exact ⟨hj, rfl⟩

end

/-- Every time is located in one scene of a timeline, a negative one as nought is. It is the last
that has started by then; the offset is how long ago that was, and it is within the scene unless the
scene is the last of all. A time within a scene is located there, so the look-up inverts the layout,
and a later time is not located earlier. -/
theorem locate_inverts_layout {ds : List Rat} (hds : ds ≠ []) :
    ((ofDurations ds).starts = (List.range ds.length).map (startAt ds)) ∧
    (∀ t, ∃ i o, ∃ hi : i < ds.length, (ofDurations ds).locate t = some (i, o) ∧
      o = max t 0 - startAt ds i ∧ 0 ≤ o ∧
      (∀ j < ds.length, startAt ds j ≤ max t 0 ↔ j ≤ i) ∧
      (i + 1 < ds.length → o < max ds[i] 0)) ∧
    (∀ i (hi : i < ds.length) o, 0 ≤ o → o < ds[i] →
      (ofDurations ds).locate (startAt ds i + o) = some (i, o)) ∧
    ∀ t t' i i' o o', t ≤ t' → (ofDurations ds).locate t = some (i, o) →
      (ofDurations ds).locate t' = some (i', o') → i < i' ∨ i = i' ∧ o ≤ o' := by
  refine ⟨starts_ofDurations ds, fun t => ?_, fun i hi o ho hod => ?_, ?_⟩
  · obtain ⟨i, h⟩ := exists_playing hds t
    refine ⟨i, max t 0 - startAt ds i, h.lt, locate_eq h, rfl, sub_nonneg.mpr h.started,
      fun j hj => ⟨fun hstart => ?_, fun hji => (startAt_mono ds hji).trans h.started⟩,
      fun hi => sub_lt_iff_lt_add'.mpr (h.not_over (List.getElem?_eq_getElem h.lt) hi)⟩
    by_contra hij
    exact absurd hstart (not_le.mpr (h.last j (Nat.lt_of_not_le hij) hj))
  · have htime : max (startAt ds i + o) 0 = startAt ds i + o :=
      max_eq_left (add_nonneg (startAt_nonneg ds i) ho)
    have h := Playing.of_offset (List.getElem?_eq_getElem hi) ho hod
    rw [← htime] at h
    rw [locate_eq h, htime, add_sub_cancel_left]
  · intro t t' i i' o o' ht h h'
    obtain ⟨hp, rfl⟩ := playing_of_locate h
    obtain ⟨hp', rfl⟩ := playing_of_locate h'
    have hu : max t 0 ≤ max t' 0 := max_le_max_right 0 ht
    rcases Nat.lt_or_eq_of_le (hp.le hp' hu) with hlt | rfl
    · exact .inl hlt
    · exact .inr ⟨rfl, sub_le_sub_right hu _⟩

/-- Scenes without length and of negative length in front, between and behind: where they meet, the
last that starts there plays, and the end of the timeline lies in the last of all. -/
theorem locate_inverts_layout_emptyScenes :
    let ds : List Rat := [-1, 2, 0, 3, -2]
    ds ≠ [] ∧ (ofDurations ds).locate (1 / 2 : Rat) = some (1, 1 / 2) ∧
      (ofDurations ds).locate 4 = some (3, 2) ∧
      ∃ o, (ofDurations ds).locate 2 = some (3, o) ∧ 0 ≤ o := by
  intro ds
  have hds : ds ≠ [] := nofun
  obtain ⟨-, hlocated, hinverse, -⟩ := locate_inverts_layout hds
  have hstart : startAt ds 1 = 0 := by decide +kernel
  have hstart' : startAt ds 3 = 2 := by decide +kernel
  have hfirst := hinverse 1 (by decide) (1 / 2) (by decide +kernel) (by decide +kernel)
  have hsecond := hinverse 3 (by decide) 2 (by decide +kernel) (by decide +kernel)
  rw [hstart, zero_add] at hfirst
  rw [hstart', show (2 : Rat) + 2 = 4 by decide +kernel] at hsecond
  obtain ⟨i, o, hi, hlocate, -, hnonneg, hlast, -⟩ := hlocated 2
  have hthird : 3 ≤ i := (hlast 3 (by decide)).mp (by decide +kernel)
  have hfourth : ¬4 ≤ i := fun h => absurd ((hlast 4 (by decide)).mpr h) (by decide +kernel)
  obtain rfl : i = 3 := by omega
  exact ⟨hds, hfirst, hsecond, o, hlocate, hnonneg⟩

end Timeline
end Choreo
