import Choreo.Project.Entry
import Choreo.Proofs.Timeline.Locate
import Choreo.Scene
import Mathlib.Data.List.Perm.Basic

/-!
The order of scenes.

Entries are sorted by their numbers and read up to the first that does not carry the number of its
place (`Entry.verdict_order`). There is none exactly if the numbers run from one without a gap, and
then the order does not depend on how the entries came (`Entry.order_gapless`). Otherwise that entry
is reported: with another that carries its number, or in the place of a number that is said to be
missing. The latter is true unless scenes are numbered from nought: `Entry.missing_number`.
-/

namespace Choreo
namespace Entry

/-! ## The first entry astray -/

theorem firstAstray?_eq_none {i : Nat} {es : List Entry} (h : firstAstray? i es = none) :
    es.map index = List.range' (i + 1) es.length := by
  induction es generalizing i with
  | nil => rfl
  | cons e es ih =>
    rw [firstAstray?] at h
    split at h
    · next hindex => rw [List.map_cons, hindex, ih h, List.length_cons, List.range'_succ]
    · cases h

theorem firstAstray?_eq_some {i k : Nat} {es : List Entry} {e : Entry}
    (h : firstAstray? i es = some (k, e)) :
    ∃ before after, es = before ++ e :: after ∧ k = i + before.length ∧
      before.map index = List.range' (i + 1) before.length ∧ e.index ≠ k + 1 := by
  induction es generalizing i with
  | nil => cases h
  | cons x es ih =>
    rw [firstAstray?] at h
    split at h
    · next hindex =>
      obtain ⟨before, after, rfl, rfl, hnumbers, hastray⟩ := ih h
      refine ⟨x :: before, after, rfl, ?_, ?_, hastray⟩
      · rw [List.length_cons, Nat.add_assoc, Nat.add_comm 1]
      · rw [List.map_cons, hindex, hnumbers, List.length_cons, List.range'_succ]
    · next hindex =>
      cases h
      exact ⟨[], es, rfl, rfl, rfl, hindex⟩

/-- Entries, sorted by their numbers, carry the numbers from one up to one that does not carry the
number of its place. -/
structure Astray (es before : List Entry) (e : Entry) (after : List Entry) : Prop where
  perm : (before ++ e :: after).Perm es
  sorted : (before ++ e :: after).Pairwise fun x y => x.index ≤ y.index
  numbers : before.map index = List.range' 1 before.length
  astray : e.index ≠ before.length + 1

/-- What becomes of entries: they are in order, or the first that is astray is reported, with
another of its number if there is one. -/
inductive Verdict (es : List Entry) : Except EntryFault (List Entry) → Prop where
  | gapless {sorted : List Entry} (perm : sorted.Perm es)
      (numbers : sorted.map index = List.range' 1 sorted.length) : Verdict es (.ok sorted)
  | twins {before after : List Entry} {e twin : Entry} (first : Astray es before e after)
      (member : twin ∈ before ++ after) (same : twin.index = e.index) :
      Verdict es (.error (.duplicate e twin))
  | gap {before after : List Entry} {e : Entry} (first : Astray es before e after)
      (sole : ∀ x ∈ before ++ after, x.index ≠ e.index) :
      Verdict es (.error (.missing (before.length + 1) e))

theorem verdict_order (es : List Entry) : Verdict es (order es) := by
  have hperm := List.mergeSort_perm es fun a b => decide (a.index ≤ b.index)
  have hsorted : (es.mergeSort fun a b => decide (a.index ≤ b.index)).Pairwise
      fun x y => x.index ≤ y.index := by
    refine (List.pairwise_mergeSort ?_ ?_ es).imp fun h => of_decide_eq_true h
    · intro a b c hab hbc
      exact decide_eq_true ((of_decide_eq_true hab).trans (of_decide_eq_true hbc))
    · intro a b
      simpa using Nat.le_total a.index b.index
  unfold order
  generalize (es.mergeSort fun a b => decide (a.index ≤ b.index)) = sorted at hperm hsorted
  simp only
  rcases hfirst : firstAstray? 0 sorted with _ | ⟨k, e⟩
  · exact .gapless hperm (firstAstray?_eq_none hfirst)
  obtain ⟨before, after, rfl, rfl, hnumbers, hastray⟩ := firstAstray?_eq_some hfirst
  rw [Nat.zero_add] at hastray ⊢
  have hothers : (before ++ e :: after).eraseIdx before.length = before ++ after := by
    rw [List.eraseIdx_append_of_length_le le_rfl, Nat.sub_self, List.eraseIdx_cons_zero]
  have hpart : Astray es before e after := ⟨hperm, hsorted, hnumbers, hastray⟩
  simp only [hothers]
  split
  · next twin htwin =>
    have hsame := List.find?_some htwin
    exact .twins hpart (List.mem_of_find?_eq_some htwin) (of_decide_eq_true hsame)
  · next htwin =>
    refine .gap hpart fun x hx => ?_
    simpa using List.find?_eq_none.mp htwin x hx

/-! ## In order -/

section
variable {es sorted : List Entry}

/-- An entry stands at the place of its number. -/
theorem index_getElem (h : sorted.map index = List.range' 1 sorted.length) {i : Nat}
    (hi : i < sorted.length) : sorted[i].index = i + 1 := by
  have hget : (sorted.map index)[i]? = some (1 + i) := by
    rw [h, List.getElem?_range' hi, Nat.one_mul]
  rw [List.getElem?_map, List.getElem?_eq_getElem hi] at hget
  rw [Option.some.inj hget, Nat.add_comm]

theorem pairwise_of_numbers (h : sorted.map index = List.range' 1 sorted.length) :
    sorted.Pairwise fun x y => x.index < y.index := by
  rw [← List.pairwise_map (f := index) (R := (· < ·)), h]
  exact List.pairwise_lt_range'

theorem perm_of_numbers (hperm : sorted.Perm es)
    (h : sorted.map index = List.range' 1 sorted.length) :
    (es.map index).Perm (List.range' 1 es.length) := by
  rw [← hperm.length_eq, ← h]
  exact hperm.symm.map index

/-- Entries whose numbers run without a gap have one order. -/
theorem eq_of_numbers {sorted' : List Entry} (hperm : sorted.Perm sorted')
    (h : sorted.map index = List.range' 1 sorted.length)
    (h' : sorted'.map index = List.range' 1 sorted'.length) : sorted = sorted' :=
  hperm.eq_of_pairwise (fun _ _ _ _ hab hba => absurd hab hba.asymm) (pairwise_of_numbers h)
    (pairwise_of_numbers h')

namespace Astray
variable {before after : List Entry} {e : Entry}

/-- An entry astray leaves no order without a gap. -/
theorem not_gapless (h : Astray es before e after) :
    ¬(es.map index).Perm (List.range' 1 es.length) := by
  intro hnumbers
  have hsorted : ((before ++ e :: after).map index).Pairwise (· ≤ ·) :=
    List.pairwise_map.mpr h.sorted
  -- Sorted numbers without a gap are one list, and in that the entry is not astray.
  have heq : (before ++ e :: after).map index = List.range' 1 es.length :=
    ((h.perm.map index).trans hnumbers).eq_of_pairwise (fun _ _ _ _ => Nat.le_antisymm) hsorted
      List.pairwise_le_range'
  rw [← h.perm.length_eq] at heq
  have hi : before.length < (before ++ e :: after).length := by
    rw [List.length_append, List.length_cons]
    omega
  have hindex := index_getElem heq hi
  rw [List.getElem_append_right le_rfl] at hindex
  simp only [Nat.sub_self, List.getElem_cons_zero] at hindex
  exact h.astray hindex

end Astray

theorem exists_order_iff :
    (∃ sorted, order es = .ok sorted) ↔ (es.map index).Perm (List.range' 1 es.length) := by
  have hverdict := verdict_order es
  constructor
  · rintro ⟨sorted, hsorted⟩
    rw [hsorted] at hverdict
    cases hverdict with
    | gapless hperm hnumbers => exact perm_of_numbers hperm hnumbers
  · intro hgapless
    generalize order es = r at hverdict ⊢
    cases hverdict with
    | gapless => exact ⟨_, rfl⟩
    | twins h | gap h => exact absurd hgapless h.not_gapless

/-- What stands behind an order that was found. -/
theorem ordered (h : order es = .ok sorted) :
    sorted.Perm es ∧ sorted.map index = List.range' 1 sorted.length := by
  have hverdict := verdict_order es
  rw [h] at hverdict
  cases hverdict with
  | gapless hperm hnumbers => exact ⟨hperm, hnumbers⟩

theorem order_perm (h : order es = .ok sorted) {es' : List Entry} (hes : es'.Perm es) :
    order es' = .ok sorted := by
  obtain ⟨hperm, hnumbers⟩ := ordered h
  obtain ⟨sorted', h'⟩ := exists_order_iff.mpr (perm_of_numbers (hperm.trans hes.symm) hnumbers)
  obtain ⟨hperm', hnumbers'⟩ := ordered h'
  rw [h', eq_of_numbers (hperm'.trans (hes.trans hperm.symm)) hnumbers' hnumbers]

/-- The start of a scene is found under its number less one. -/
theorem startOf?_index {scenes : List (Scene Rat)}
    (hscenes : scenes.map Scene.index = sorted.map fun e => (e.index : Int))
    (hnumbers : sorted.map index = List.range' 1 sorted.length) {i : Nat} (hi : i < scenes.length) :
    (Scene.timeline scenes).startOf? (scenes[i].index - 1) =
      some (Timeline.startAt (scenes.map fun s => s.estimate.duration) i) := by
  have hlength : scenes.length = sorted.length := by
    simpa using congrArg List.length hscenes
  have hindex : scenes[i].index = i + 1 := by
    have hget : (scenes.map Scene.index)[i]? = (sorted.map fun e => (e.index : Int))[i]? := by
      rw [hscenes]
    have hi' : i < sorted.length := hlength ▸ hi
    simp only [List.getElem?_map, List.getElem?_eq_getElem hi, List.getElem?_eq_getElem hi',
      Option.map_some, index_getElem hnumbers hi', Option.some.injEq] at hget
    exact hget
  have hplace : i < (scenes.map fun s => s.estimate.duration).length := by
    rwa [List.length_map]
  rw [Timeline.startOf?, Timeline.member?, hindex, add_sub_cancel_right,
    if_pos (Int.natCast_nonneg i), Int.toNat_natCast]
  exact Timeline.getElem?_starts hplace

end

/-- The entries at two places of a list, one of which is told apart from the rest. -/
theorem exists_places {es others : List Entry} {a b : Entry} (h : (a :: others).Perm es)
    (hb : b ∈ others) : ∃ i j : Nat, i ≠ j ∧ es[i]? = some a ∧ es[j]? = some b := by
  obtain ⟨i, hi, rfl⟩ := List.getElem_of_mem (h.mem_iff.mp List.mem_cons_self)
  have hothers : others.Perm (es.eraseIdx i) :=
    List.Perm.cons_inv (h.trans (List.getElem_cons_eraseIdx_perm hi).symm)
  obtain ⟨j, hj, hget⟩ := List.mem_eraseIdx_iff_getElem?.mp (hothers.mem_iff.mp hb)
  exact ⟨i, j, hj.symm, List.getElem?_eq_getElem hi, hget⟩

/-- The entry of a folder that lies among the scenes. -/
def inFolder (n : Nat) (name folder : String) : Entry :=
  { index := n, name := name, folder := folder, path := ⟨"/", ["scenes", folder, "scene.py"]⟩ }

/-- Entries are put in order exactly if their numbers are those from one up to how many there are.
The order has every entry at the place of its number and is the same however the entries came, and
so on the timeline of the scenes a scene starts where its number less one says. Anything else is
refused: two places of the list carry the number of one entry, or a number is said to be missing. -/
theorem order_gapless (es : List Entry) :
    ((∃ sorted, order es = .ok sorted) ↔ (es.map index).Perm (List.range' 1 es.length)) ∧
    (∀ sorted, order es = .ok sorted →
      sorted.Perm es ∧ (∀ i (hi : i < sorted.length), sorted[i].index = i + 1) ∧
      (∀ es' : List Entry, es'.Perm es → order es' = .ok sorted) ∧
      ∀ scenes : List (Scene Rat),
        scenes.map Scene.index = sorted.map (fun e => (e.index : Int)) →
        ∀ i (hi : i < scenes.length), (Scene.timeline scenes).startOf? (scenes[i].index - 1) =
          some (Timeline.startAt (scenes.map fun s => s.estimate.duration) i)) ∧
    ∀ fault, order es = .error fault →
      (∃ first second, fault = .duplicate first second ∧ first.index = second.index ∧
        ∃ i j : Nat, i ≠ j ∧ es[i]? = some first ∧ es[j]? = some second) ∨
      ∃ n found, fault = .missing n found := by
  refine ⟨exists_order_iff, fun sorted h => ?_, fun fault h => ?_⟩
  · obtain ⟨hperm, hnumbers⟩ := ordered h
    exact ⟨hperm, fun i hi => index_getElem hnumbers hi, fun es' hes => order_perm h hes,
      fun scenes hscenes i hi => startOf?_index hscenes hnumbers hi⟩
  · have hverdict := verdict_order es
    rw [h] at hverdict
    cases hverdict with
    | twins hfirst hmember hsame =>
      exact .inl ⟨_, _, rfl, hsame.symm,
        exists_places (List.perm_middle.symm.trans hfirst.perm) hmember⟩
    | gap => exact .inr ⟨_, _, rfl⟩

/-- Two scenes that come the wrong way round, and two that share a number behind a first. -/
theorem order_gapless_twoScenes :
    let opening := inFolder 1 "intro" "1-intro"
    let middle := inFolder 2 "middle" "2-middle"
    let outro := inFolder 2 "outro" "2-outro"
    order [outro, opening] = .ok [opening, outro] ∧
      order [opening, outro] = .ok [opening, outro] ∧
      order [middle, opening, outro] = .error (.duplicate outro middle) ∧
      ∃ i j : Nat, i ≠ j ∧ [middle, opening, outro][i]? = some outro ∧
        [middle, opening, outro][j]? = some middle := by
  intro opening middle outro
  have hordered : order [outro, opening] = .ok [opening, outro] := by
    simp [opening, outro, order, firstAstray?, List.mergeSort, inFolder]
  have htwins : order [middle, opening, outro] = .error (.duplicate outro middle) := by
    simp [opening, middle, outro, order, firstAstray?, List.mergeSort, inFolder]
  obtain ⟨-, -, hany, -⟩ := (order_gapless [outro, opening]).2.1 _ hordered
  refine ⟨hordered, hany _ (.swap _ _ _), htwins, ?_⟩
  rcases (order_gapless [middle, opening, outro]).2.2 _ htwins with
    ⟨first, second, hfault, -, hplaces⟩ | ⟨n, found, hfault⟩
  · cases hfault
    exact hplaces
  · cases hfault

/-! ## A number that is missing -/

namespace Astray
variable {es before after : List Entry} {e : Entry}

theorem mem_before_iff (h : Astray es before e after) {n : Nat} :
    n ∈ before.map index ↔ 0 < n ∧ n ≤ before.length := by
  rw [h.numbers, List.mem_range'_1]
  omega

/-- A number is carried by the entries in front, by the one astray or by those behind it. -/
theorem mem_iff (h : Astray es before e after) {n : Nat} :
    n ∈ es.map index ↔ (0 < n ∧ n ≤ before.length) ∨ n = e.index ∨ n ∈ after.map index := by
  rw [← (h.perm.map index).mem_iff, List.map_append, List.map_cons, List.mem_append, List.mem_cons,
    h.mem_before_iff]

theorem le_of_mem_before (h : Astray es before e after) {n : Nat} (hn : n ∈ before.map index) :
    n ≤ e.index := by
  obtain ⟨x, hx, rfl⟩ := List.mem_map.mp hn
  exact (List.pairwise_append.mp h.sorted).2.2 x hx e List.mem_cons_self

theorem le_of_mem_after (h : Astray es before e after) {n : Nat} (hn : n ∈ after.map index) :
    e.index ≤ n := by
  obtain ⟨x, hx, rfl⟩ := List.mem_map.mp hn
  exact (List.pairwise_cons.mp (List.pairwise_append.mp h.sorted).2.1).1 x hx

/-- If no other entry carries its number, the one astray carries nought or leaves out the number of
its place. -/
theorem zero_or_lt (h : Astray es before e after)
    (hsole : ∀ x ∈ before ++ after, x.index ≠ e.index) :
    e.index = 0 ∨ before.length + 1 < e.index := by
  by_contra hnot
  have hastray := h.astray
  -- Otherwise its number is among those in front, and the entry there would be its twin.
  have hnumber : e.index ∈ before.map index := h.mem_before_iff.mpr (by omega)
  obtain ⟨x, hx, hsame⟩ := List.mem_map.mp hnumber
  exact hsole x (List.mem_append_left after hx) hsame

/-- An entry with nought comes first. -/
theorem length_eq_zero (h : Astray es before e after) (hzero : e.index = 0) :
    before.length = 0 := by
  by_contra hlength
  have hone : 1 ∈ before.map index := h.mem_before_iff.mpr (by omega)
  have hle := h.le_of_mem_before hone
  omega

/-- No number is carried that lies between the numbers in front and the one astray. -/
theorem not_mem (h : Astray es before e after) {n : Nat} (hfront : n = 0 ∨ before.length < n)
    (hlt : n < e.index) : n ∉ es.map index := by
  intro hn
  rcases h.mem_iff.mp hn with hbefore | hself | hbehind
  · omega
  · omega
  · exact absurd (h.le_of_mem_after hbehind) (Nat.not_le_of_lt hlt)

/-- The number of the place is carried only where the numbers begin with nought and one. -/
theorem place_mem_iff (h : Astray es before e after)
    (hsole : ∀ x ∈ before ++ after, x.index ≠ e.index) :
    before.length + 1 ∈ es.map index ↔ 0 ∈ es.map index ∧ 1 ∈ es.map index := by
  rcases h.zero_or_lt hsole with hzero | hlt
  · have hnought : 0 ∈ es.map index := h.mem_iff.mpr (.inr (.inl hzero.symm))
    rw [h.length_eq_zero hzero, Nat.zero_add, and_iff_right hnought]
  · have hplace : before.length + 1 ∉ es.map index := h.not_mem (.inr (Nat.lt_succ_self _)) hlt
    have hnought : 0 ∉ es.map index := h.not_mem (.inl rfl) (Nat.zero_lt_of_lt hlt)
    exact iff_of_false hplace fun hboth => hnought hboth.1

end Astray

/-- When a number is said to be missing, every smaller positive number is carried. The number itself
is not carried either, unless one entry carries nought and another one; then one is said to be
missing. The entry that is to be given the number is one of those at hand, and with the number it is
the only one to carry it, with the same exception. -/
theorem missing_number {es : List Entry} {m : Nat} {found : Entry}
    (h : order es = .error (.missing m found)) :
    found ∈ es ∧ 0 < m ∧ (∀ k, 0 < k → k < m → k ∈ es.map index) ∧
    (m ∈ es.map index ↔ 0 ∈ es.map index ∧ 1 ∈ es.map index) ∧
    ∀ i, es[i]? = some found → ∀ renamed : Entry, renamed.index = m →
      (((es.set i renamed).map index).count m = 1 ↔ ¬(0 ∈ es.map index ∧ 1 ∈ es.map index)) := by
  have hverdict := verdict_order es
  rw [h] at hverdict
  cases hverdict with
  | @gap before after _ hfirst hsole =>
    have hplace := hfirst.place_mem_iff hsole
    have hmember : found ∈ before ++ found :: after :=
      List.mem_append_right before List.mem_cons_self
    refine ⟨hfirst.perm.mem_iff.mp hmember, Nat.succ_pos _, fun k hk hkm => ?_, hplace, ?_⟩
    · exact hfirst.mem_iff.mpr (.inl ⟨hk, Nat.le_of_lt_succ hkm⟩)
    · intro i hi renamed hrenamed
      obtain ⟨hlt, hget⟩ := List.getElem?_eq_some_iff.mp hi
      have hcount : ((es.set i renamed).map index).count (before.length + 1) =
          (es.map index).count (before.length + 1) + 1 := by
        rw [List.map_set, List.count_set (by rwa [List.length_map]), List.getElem_map, hget,
          hrenamed]
        simp only [beq_self_eq_true, if_true, beq_iff_eq, hfirst.astray, if_false, Nat.sub_zero]
      rw [hcount, ← hplace, Nat.add_eq_right, List.count_eq_zero]

/-- Behind a first scene the fourth comes: two is missing, and two scenes are in order once the
fourth is given it. -/
theorem missing_number_fourth :
    let opening := inFolder 1 "intro" "1-intro"
    let outro := inFolder 4 "outro" "4-outro"
    let renamed := inFolder 2 "outro" "2-outro"
    order [outro, opening] = .error (.missing 2 outro) ∧ 2 ∉ [outro, opening].map index ∧
      (([outro, opening].set 0 renamed).map index).count 2 = 1 := by
  intro opening outro renamed
  have hmissing : order [outro, opening] = .error (.missing 2 outro) := by
    simp [opening, outro, order, firstAstray?, List.mergeSort, inFolder]
  obtain ⟨-, -, -, hcarried, hrenamed⟩ := missing_number hmissing
  have hnought : ¬(0 ∈ [outro, opening].map index ∧ 1 ∈ [outro, opening].map index) := by decide
  exact ⟨hmissing, mt hcarried.mp hnought, (hrenamed 0 rfl renamed rfl).mpr hnought⟩

/-- Scenes that are numbered from nought are said to miss one, which is there. Given that number as
told, the first shares it with the second. -/
theorem zeroAndOne_misreported :
    let zero := inFolder 0 "a" "0-a"
    let one := inFolder 1 "b" "1-b"
    ofPath zero.path = .ok zero ∧ ofPath one.path = .ok one ∧
      order [zero, one] = .error (.missing 1 zero) ∧ 1 ∈ [zero, one].map index ∧
      (([zero, one].set 0 (inFolder 1 "a" "1-a")).map index).count 1 = 2 := by
  intro zero one
  have hreport : order [zero, one] = .error (.missing 1 zero) := by
    simp [zero, one, order, firstAstray?, List.mergeSort, inFolder]
  exact ⟨by decide +kernel, by decide +kernel, hreport, by decide, by decide⟩

end Entry
end Choreo
