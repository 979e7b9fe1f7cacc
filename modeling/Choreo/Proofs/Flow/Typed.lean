import Mathlib.Algebra.Order.Floor.Semifield
import Mathlib.Data.List.Nodup
import Mathlib.Data.Rat.Floor
import Choreo.Proofs.Flow.Deeds
import Choreo.Proofs.Flow.Updates
import Choreo.Proofs.Stage.Retained

/-!
Typing a text.

A text is typed by a linear tween that keeps the count of characters it last showed. A step applies
an opening of the content, unless it comes to the count that is shown already, and the step that
comes to the duration is to show the whole content. So what is typed are openings of the content,
each longer than the one before, and the whole content is the last of them, once
(`Flow.types_out`): neither a content without characters nor a count that a step comes to twice
makes a difference.
-/

namespace Choreo

/-! ## Openings of a text -/

namespace Typing

/-- How many characters of a text are to be shown once some time has passed. -/
def revealed (length : Nat) (d elapsed : Rat) : Nat :=
  if elapsed < d then ⌊length * elapsed / d⌋₊ else length

/-- How many characters the last of some texts has. -/
def shown (texts : List (List Char)) : Option Nat := texts.getLast?.map List.length

/-- What is typed when so many characters are to be shown: an opening of the content, or nothing
where as many are shown already. -/
def reveal (content : List Char) (shown : Option Nat) (count : Nat) : List (List Char) :=
  if shown = some count then [] else [content.take count]

/-- The texts typed in some first steps. `counts` tells for each step how many characters are to be
shown. -/
def texts (content : List Char) (counts : Nat → Nat) : Nat → List (List Char)
  | 0 => []
  | k + 1 =>
    texts content counts k ++ reveal content (shown (texts content counts k)) (counts (k + 1))

theorem eq_take_of_mem_reveal {content text : List Char} {shown : Option Nat} {count : Nat}
    (h : text ∈ reveal content shown count) : text = content.take count := by
  unfold reveal at h
  split_ifs at h
  · cases h
  · exact List.mem_singleton.mp h

theorem revealed_le {length : Nat} {d : Rat} (hd : 0 < d) (elapsed : Rat) :
    revealed length d elapsed ≤ length := by
  unfold revealed
  split_ifs with h
  · refine Nat.floor_le_of_le ?_
    rw [mul_div_assoc]
    exact mul_le_of_le_one_right (Nat.cast_nonneg length) ((div_le_one hd).mpr h.le)
  · exact le_rfl

theorem revealed_mono {length : Nat} {d : Rat} (hd : 0 < d) : Monotone (revealed length d) := by
  intro e e' h
  by_cases he' : e' < d
  · rw [revealed, revealed, if_pos (h.trans_lt he'), if_pos he']
    gcongr
  · have hwhole : revealed length d e' = length := if_neg he'
    rw [hwhole]
    exact revealed_le hd e

/-! ### The texts of some steps -/

section
variable {content : List Char} {counts : Nat → Nat}

/-- After a step the last text shows what the step was to show. -/
theorem shown_texts_succ {k : Nat} (hle : counts (k + 1) ≤ content.length) :
    shown (texts content counts (k + 1)) = some (counts (k + 1)) := by
  rw [texts, reveal]
  split_ifs with h
  · rwa [List.append_nil]
  · rw [shown, List.getLast?_concat, Option.map_some, List.length_take_of_le hle]

theorem prefix_of_mem_texts {k : Nat} {text : List Char} (h : text ∈ texts content counts k) :
    text <+: content := by
  induction k with
  | zero => cases h
  | succ k ih =>
    rw [texts, List.mem_append] at h
    rcases h with h | h
    · exact ih h
    · exact eq_take_of_mem_reveal h ▸ List.take_prefix _ content

theorem length_le_of_mem_texts (hmono : Monotone counts) {k : Nat} {text : List Char}
    (h : text ∈ texts content counts k) : text.length ≤ counts k := by
  induction k with
  | zero => cases h
  | succ k ih =>
    rw [texts, List.mem_append] at h
    rcases h with h | h
    · exact (ih h).trans (hmono k.le_succ)
    · exact eq_take_of_mem_reveal h ▸ List.length_take_le _ content

/-- A text that is typed is longer than every text before it. -/
theorem length_lt_of_mem_texts (hmono : Monotone counts) (hle : ∀ k, counts k ≤ content.length)
    {k : Nat} (hnew : shown (texts content counts k) ≠ some (counts (k + 1))) {text : List Char}
    (h : text ∈ texts content counts k) : text.length < counts (k + 1) := by
  cases k with
  | zero => cases h
  | succ k =>
    -- The last text shows what the step before was to show, and this step shows something else.
    have hne : counts (k + 1) ≠ counts (k + 2) := fun heq => hnew (by
      rw [shown_texts_succ (hle (k + 1)), heq])
    calc text.length ≤ counts (k + 1) := length_le_of_mem_texts hmono h
      _ < counts (k + 2) := lt_of_le_of_ne (hmono (k + 1).le_succ) hne

theorem texts_pairwise (hmono : Monotone counts) (hle : ∀ k, counts k ≤ content.length) (k : Nat) :
    ((texts content counts k).map List.length).Pairwise (· < ·) := by
  induction k with
  | zero => exact .nil
  | succ k ih =>
    rw [texts, reveal]
    split_ifs with h
    · rwa [List.append_nil]
    · rw [List.map_append, List.pairwise_append]
      refine ⟨ih, List.pairwise_singleton _ _, ?_⟩
      rw [List.forall_mem_map]
      intro text htext length hlength
      obtain rfl : length = counts (k + 1) := by
        rwa [List.map_singleton, List.mem_singleton, List.length_take_of_le (hle (k + 1))]
          at hlength
      exact length_lt_of_mem_texts hmono hle h htext

/-- Once the whole content is to be shown it is the last text. -/
theorem getLast?_texts {k : Nat} (hwhole : counts (k + 1) = content.length) :
    (texts content counts (k + 1)).getLast? = some content := by
  obtain ⟨text, hlast, hlength⟩ := Option.map_eq_some_iff.mp (shown_texts_succ hwhole.le)
  have hprefix : text <+: content := prefix_of_mem_texts (List.mem_of_getLast? hlast)
  rw [hlast, hprefix.eq_of_length (hlength.trans hwhole)]

end

/-- How the texts of a content come about, step by step, where `passed` tells what has passed of the
duration after each step and `texts` what has been typed by then. -/
structure Typewritten (content : List Char) (d : Rat) (passed : Nat → Rat)
    (texts : Nat → List (List Char)) : Prop where
  /-- Before the first step nothing is typed. -/
  start : texts 0 = []
  /-- A step that reveals nothing new types nothing. -/
  still : ∀ k, shown (texts k) = some (revealed content.length d (passed (k + 1))) →
    texts (k + 1) = texts k
  /-- Any other step types one text, with as many characters as are to be shown. -/
  reveals : ∀ k, shown (texts k) ≠ some (revealed content.length d (passed (k + 1))) →
    ∃ text, text.length = revealed content.length d (passed (k + 1)) ∧
      texts (k + 1) = texts k ++ [text]
  opening : ∀ k, ∀ text ∈ texts k, text <+: content
  longer : ∀ k, ((texts k).map List.length).Pairwise (· < ·)
  /-- At the end the whole content has been typed, once and last. -/
  whole : ∀ k, d ≤ passed k → (texts k).count content = 1 ∧ (texts k).getLast? = some content

theorem texts_typewritten (content : List Char) {d : Rat} (hd : 0 < d) {passed : Nat → Rat}
    (hpassed : Monotone passed) (hstart : passed 0 = 0) :
    Typewritten content d passed
      (texts content fun k => revealed content.length d (passed k)) := by
  have hmono : Monotone fun k => revealed content.length d (passed k) :=
    (revealed_mono hd).comp hpassed
  have hle (k : Nat) : revealed content.length d (passed k) ≤ content.length := revealed_le hd _
  refine ⟨rfl, fun k h => ?_, fun k h => ⟨_, List.length_take_of_le (hle (k + 1)), ?_⟩,
    fun k text => prefix_of_mem_texts, texts_pairwise hmono hle, fun k h => ?_⟩
  · rw [texts, reveal, if_pos h, List.append_nil]
  · rw [texts, reveal, if_neg h]
  · cases k with
    | zero => exact absurd (hstart ▸ h) (not_le.mpr hd)
    | succ k =>
      have hlast : (texts content (fun k => revealed content.length d (passed k))
          (k + 1)).getLast? = some content := getLast?_texts (if_neg (not_lt.mpr h))
      have hnodup : (texts content (fun k => revealed content.length d (passed k)) (k + 1)).Nodup :=
        List.Nodup.of_map List.length ((texts_pairwise hmono hle (k + 1)).imp Nat.ne_of_lt)
      exact ⟨List.count_eq_one_of_mem hnodup (List.mem_of_getLast? hlast), hlast⟩

/-- Nothing more is to be said of the texts: there is one way for them to come about. -/
theorem Typewritten.eq_texts {content : List Char} {d : Rat} {passed : Nat → Rat}
    {typed : Nat → List (List Char)} (h : Typewritten content d passed typed) (k : Nat) :
    typed k = texts content (fun k => revealed content.length d (passed k)) k := by
  induction k with
  | zero => exact h.start
  | succ k ih =>
    rw [texts, reveal, ← ih]
    split_ifs with hshown
    · rw [h.still k hshown, List.append_nil]
    · obtain ⟨text, hlength, hstep⟩ := h.reveals k hshown
      have hopening : text <+: content :=
        h.opening (k + 1) text (hstep ▸ List.mem_append_right _ (List.mem_singleton_self text))
      rw [hstep, ← hlength, ← List.prefix_iff_eq_take.mp hopening]

end Typing

/-! ## Texts that are applied -/

namespace World
variable {α C : Type}

/-- The world in which some texts have been shown on a target since. -/
def typed (h : Handle) (texts : List (List Char)) (w : World α C) : World α C :=
  texts.foldl (fun w text =>
    w.apply h "textContent" (.text (String.ofList text)) "textContent" (String.ofList text)) w

theorem typed_append (h : Handle) (texts more : List (List Char)) (w : World α C) :
    w.typed h (texts ++ more) = (w.typed h texts).typed h more := List.foldl_append

@[simp] theorem apply_crew (w : World α C) (h : Handle) (key : String) (value : Value α)
    (property text : String) : (w.apply h key value property text).crew = w.crew := by
  unfold apply
  split
  · rfl
  · unfold emit
    split <;> rfl

@[simp] theorem typed_crew (h : Handle) (texts : List (List Char)) (w : World α C) :
    (w.typed h texts).crew = w.crew := by
  induction texts generalizing w with
  | nil => rfl
  | cons text texts ih => exact (ih _).trans (apply_crew ..)

@[simp] theorem typed_suppressed (h : Handle) (texts : List (List Char)) (w : World α C) :
    (w.typed h texts).suppressed = w.suppressed := by
  induction texts generalizing w with
  | nil => rfl
  | cons text texts ih => exact (ih _).trans (apply_suppressed ..)

theorem events_apply {w : World α C} {h : Handle} {t : Target α} (hsink : w.stage.hasSink = true)
    (ht : w.stage.targets[h]? = some t) (key : String) (value : Value α) (property text : String) :
    (w.apply h key value property text).events = w.events ++ [.apply t.id property text] := by
  have hkept : (w.retain h key value).stage.hasSink = true := hsink
  unfold apply
  simp only [ht]
  rw [emit, if_pos hkept]
  exact List.reverse_cons

/-- The sink of a stage is handed every text that is shown. -/
theorem events_typed {h : Handle} (texts : List (List Char)) {w : World α C} {id : String}
    (hsink : w.stage.hasSink = true) (hid : w.stage.targets[h]?.map Target.id = some id) :
    (w.typed h texts).events =
      w.events ++ texts.map fun text => .apply id "textContent" (String.ofList text) := by
  induction texts generalizing w with
  | nil => exact (List.append_nil _).symm
  | cons text texts ih =>
    set w' := w.apply h "textContent" (.text (String.ofList text)) "textContent"
      (String.ofList text)
    have hstage : w'.stage = w.stage.modify h fun t =>
      { t with applied := assign "textContent" (.text (String.ofList text)) t.applied } :=
      apply_stage ..
    have hevents : w'.events = w.events ++ [.apply id "textContent" (String.ofList text)] := by
      obtain ⟨t, ht, rfl⟩ := Option.map_eq_some_iff.mp hid
      exact events_apply hsink ht ..
    have hid' : w'.stage.targets[h]?.map Target.id = some id := by
      rw [hstage, Stage.modify, List.getElem?_modify_eq, Option.map_eq_map, Option.map_map]
      exact hid
    have hsink' : w'.stage.hasSink = true := by rw [hstage]; exact hsink
    rw [List.map_cons, List.append_cons, ← hevents]
    exact ih hsink' hid'

end World

/-! ## Tweens that type -/

open Typing (revealed reveal shown texts)

section
variable [Analytic Rat] {h : Handle} {content : List Char} {last : Option Nat} {d e dt p : Rat}
  {w : Show Rat}

/-- Typing where the last text that was shown had so many characters. -/
def Effect.typing (h : Handle) (content : List Char) (last : Option Nat) : Effect Rat :=
  .type h content (last.elim (-1) Nat.cast)

/-- A tween on its way that types. -/
def Tween.typing (h : Handle) (content : List Char) (d elapsed : Rat) (last : Option Nat) :
    Tween Rat :=
  ⟨d, Curve.linear, .typing h content last, elapsed⟩

theorem Effect.perform_typing (hp : 0 ≤ p) :
    (typing h content last).perform p w =
      (.ok (typing h content (some ⌊content.length * p⌋₊)),
        w.typed h (reveal content last ⌊content.length * p⌋₊)) := by
  have hshare : 0 ≤ content.length * p := mul_nonneg (Nat.cast_nonneg _) hp
  have hcount : Scalar.truncate (Scalar.ofNat content.length * p) =
      .ok (⌊content.length * p⌋₊ : Int) := by
    rw [Int.natCast_floor_eq_floor hshare]
    exact Scalar.truncate_rat_of_nonneg hshare
  generalize ⌊content.length * p⌋₊ = count at hcount
  have hsame : (count : Int) = last.elim (-1) Nat.cast ↔ last = some count := by
    cases last with
    | none => exact iff_of_false (by rw [Option.elim_none]; omega) (Option.some_ne_none count).symm
    | some n => rw [Option.elim_some, Nat.cast_inj, Option.some_inj, eq_comm]
  have hopening : opening content count = content.take count :=
    if_neg (not_lt.mpr (Int.natCast_nonneg count))
  simp only [typing, perform, hcount, hsame, reveal]
  split_ifs with h
  · rw [h]
    rfl
  · rw [hopening]
    rfl

namespace Tween

theorem update_typing (hw : w.suppressed = false) (hp : 0 ≤ p) :
    (typing h content d e last).update p w =
      (.ok (typing h content d e (some ⌊content.length * p⌋₊)),
        w.typed h (reveal content last ⌊content.length * p⌋₊)) := by
  unfold update
  rw [if_neg (ne_true_of_eq_false hw)]
  simp only [show (typing h content d e last).effect = .typing h content last from rfl,
    Effect.perform_typing hp]
  rfl

theorem finish_typing (hw : w.suppressed = false) :
    (typing h content d e last).finish w =
      (.finished, w.typed h (reveal content last content.length)) := by
  unfold finish
  rw [show (Scalar.one : Rat) = 1 from rfl, update_typing hw zero_le_one, mul_one,
    Nat.floor_natCast]

theorem start_typing_of_lt (hlt : e < d) :
    (typing h content d e last).start w = (.paused (typing h content d e last), w) := if_pos hlt

theorem start_typing_of_not_lt (hw : w.suppressed = false) (hlt : ¬e < d) :
    (typing h content d e last).start w =
      (.finished, w.typed h (reveal content last content.length)) :=
  (if_neg hlt).trans (finish_typing hw)

theorem resume_typing_of_lt (hw : w.suppressed = false) (hd : 0 < d) (hpassed : 0 ≤ e + dt)
    (hlt : e + dt < d) :
    (typing h content d e last).resume (some dt) w =
      (.paused (typing h content d (e + dt) (some (revealed content.length d (e + dt)))),
        w.typed h (reveal content last (revealed content.length d (e + dt)))) := by
  have helapsed : (typing h content d e last).elapsed + (some dt).getD Scalar.zero = e + dt := rfl
  have hnext : ({ typing h content d e last with elapsed := e + dt } : Tween Rat) =
      typing h content d (e + dt) last := rfl
  have hshare : (typing h content d (e + dt) last).share = (e + dt) / d :=
    (Scalar.smaller_rat _ _).trans (min_eq_left ((div_le_one₀ hd).mpr hlt.le))
  have hcurve : (typing h content d e last).curve ((e + dt) / d) = .ok ((e + dt) / d) := rfl
  have hrevealed : revealed content.length d (e + dt) = ⌊content.length * ((e + dt) / d)⌋₊ := by
    rw [revealed, if_pos hlt, mul_div_assoc]
  unfold resume
  simp only [helapsed]
  rw [hnext, if_pos (show e + dt < (typing h content d e last).duration from hlt),
    if_neg (ne_true_of_eq_false hw), hshare]
  simp only [hcurve, update_typing hw (div_nonneg hpassed hd.le), hrevealed]

theorem resume_typing_of_not_lt (hw : w.suppressed = false) (hlt : ¬e + dt < d) :
    (typing h content d e last).resume (some dt) w =
      (.finished, w.typed h (reveal content last content.length)) :=
  (if_neg hlt).trans (finish_typing hw)

end Tween

theorem Leaf.start_type {id : String} (text : String) (d : Rat)
    (hid : w.stage.handle? id = some h) :
    machine.start (.todo (.type id text d)) w =
      ofTween ((Tween.typing h text.toList d 0 none).start w) := by
  rw [machine_start_todo]
  simp only [begin, Animation.startTyping, hid, Animation.startTween, Easing.resolve_linear,
    Animation.duration]
  rfl

/-! ## Steps -/

namespace Playback
variable {c : Crew Rat}

/-- A step of a tween that types shows what is revealed then, and the tween is done with the step
that comes to the duration. -/
theorem next_typing (h : Handle) (content : List Char) (last : Option Nat)
    (hw : w.suppressed = false) (hc : w.crew = c) (hd : 0 < d) (hpassed : 0 ≤ e + dt) :
    (ofTween (.typing h content d e last) c).next (some dt) w =
      ((.ok (decide (d ≤ e + dt)),
          if d ≤ e + dt then { task := .done, crew := c }
          else ofTween
            (.typing h content d (e + dt) (some (revealed content.length d (e + dt)))) c),
        w.typed h (reveal content last (revealed content.length d (e + dt)))) := by
  subst hc
  by_cases hlt : e + dt < d
  · rw [next_ofTween, Tween.resume_typing_of_lt hw hd hpassed hlt, decide_eq_false (not_le.mpr hlt),
      if_neg (not_le.mpr hlt)]
    simp only [Leaf.ofTween, Task.ofLeaf, World.typed_crew]
    rfl
  · have hwhole : revealed content.length d (e + dt) = content.length := if_neg hlt
    rw [next_ofTween, Tween.resume_typing_of_not_lt hw hlt, decide_eq_true (not_lt.mp hlt),
      if_pos (not_lt.mp hlt), hwhole]
    simp only [Leaf.ofTween, Task.ofLeaf, World.typed_crew]

/-- One more step after steps with which a flow was not done. -/
theorem playThrough_concat {steps : List (Bool × Rat)} {p p' q : Playback Rat} {w' v : Show Rat}
    {done : Bool} (h : playThrough steps p w = ((.ok none, p'), w'))
    (hnext : p'.next (some dt) w' = ((.ok done, q), v)) :
    playThrough (steps ++ [(false, dt)]) p w =
      ((.ok (if done then some (steps.length + 1) else none), q), v) := by
  induction steps generalizing p w with
  | nil =>
    cases h
    rw [List.nil_append, playThrough, World.suppressing, if_neg Bool.false_ne_true, hnext]
    cases done <;> rfl
  | cons step steps ih =>
    obtain ⟨hush, dt⟩ := step
    rw [playThrough] at h
    split at h
    · cases h
    · cases h
    · next p₁ w₁ hstep =>
      have hrest : playThrough steps p₁ w₁ = ((.ok none, p'), w') := by
        generalize playThrough steps p₁ w₁ = rest at h ⊢
        obtain ⟨⟨_ | _ | _, _⟩, _⟩ := rest <;> cases h
        rfl
      rw [List.cons_append, playThrough, hstep]
      simp only [ih hrest]
      cases done <;> rfl

/-- The steps of a tween that types, up to the first that comes to the duration. -/
theorem playThrough_typing (h : Handle) (content : List Char) (hw : w.suppressed = false)
    (hc : w.crew = c) (hd : 0 < d) {dts : List Rat} (hdts : ∀ dt ∈ dts, 0 ≤ dt)
    {passed : Nat → Rat} (hpassed : ∀ k, passed k = (dts.take k).sum) {n : Nat}
    (hn : n ≤ dts.length) (hbefore : ∀ k < n, passed k < d) :
    let typed := texts content fun k => revealed content.length d (passed k)
    playThrough ((dts.take n).map fun dt => (false, dt))
        (ofTween (.typing h content d 0 none) c) w =
      ((.ok (if d ≤ passed n then some n else none),
          if d ≤ passed n then { task := .done, crew := c }
          else ofTween (.typing h content d (passed n) (shown (typed n))) c),
        w.typed h (typed n)) := by
  intro typed
  induction n with
  | zero =>
    have hzero : passed 0 = 0 := hpassed 0
    rw [hzero, if_neg (not_le.mpr hd), if_neg (not_le.mpr hd)]
    rfl
  | succ n ih =>
    have hlt : ¬d ≤ passed n := not_le.mpr (hbefore n n.lt_succ_self)
    have hrun := ih (Nat.le_of_succ_le hn) fun k hk => hbefore k (hk.trans n.lt_succ_self)
    rw [if_neg hlt, if_neg hlt] at hrun
    have hsum : passed (n + 1) = passed n + dts[n] := by
      rw [hpassed, hpassed, List.sum_take_succ dts n hn]
    have hnonneg : 0 ≤ passed (n + 1) := by
      rw [hpassed]
      exact List.sum_nonneg fun dt hdt => hdts dt (List.mem_of_mem_take hdt)
    have hnext := next_typing h content (shown (typed n)) (w := w.typed h (typed n))
      (by rw [World.typed_suppressed, hw]) (by rw [World.typed_crew, hc]) hd (hsum ▸ hnonneg)
    rw [← hsum, ← World.typed_append] at hnext
    -- The count the tween keeps is the length of the last text, typed in this step or before.
    have hshown : shown (typed (n + 1)) = some (revealed content.length d (passed (n + 1))) :=
      Typing.shown_texts_succ (Typing.revealed_le hd _)
    rw [← List.take_concat_get' dts n hn, List.map_append, List.map_singleton,
      playThrough_concat hrun hnext, hshown, List.length_map,
      List.length_take_of_le (Nat.le_of_succ_le hn)]
    simp only [decide_eq_true_eq]
    rfl

/-! ### The start -/

theorem start_type_of_lt {id text : String} (hid : w.stage.handle? id = some h) (hd : 0 < d) :
    (ofFlow (.act (.type id text d))).start w =
      ((.ok false, ofTween (.typing h text.toList d 0 none) (ofFlow (.act (.type id text d))).crew),
        { w with crew := (ofFlow (.act (.type id text d))).crew }) := by
  rw [start_ofFlow]
  generalize (ofFlow (.act (.type id text d))).crew = crew
  rw [Leaf.start_type text d (w := { w with crew := crew }) hid, Tween.start_typing_of_lt hd]
  rfl

theorem start_type_of_not_lt {id text : String} (hw : w.suppressed = false)
    (hid : w.stage.handle? id = some h) (hd : ¬0 < d) :
    (ofFlow (.act (.type id text d))).start w =
      ((.ok true, { task := .done, crew := (ofFlow (.act (.type id text d))).crew }),
        World.typed h [text.toList]
          { w with crew := (ofFlow (.act (.type id text d))).crew }) := by
  have hwhole : reveal text.toList none text.toList.length = [text.toList] := by
    rw [reveal, if_neg (Option.some_ne_none _).symm, List.take_length]
  rw [start_ofFlow]
  generalize (ofFlow (.act (.type id text d))).crew = crew
  rw [Leaf.start_type text d (w := { w with crew := crew }) hid,
    Tween.start_typing_of_not_lt (w := { w with crew := crew }) hw hd, hwhole]
  simp only [Leaf.ofTween, Task.ofLeaf, World.typed_crew]

end Playback
end

/-! ## The law -/

namespace Flow

/-- A text without a duration is typed whole at its start. Any other is typed in steps, and it is
done with the first step that comes to the duration. What is typed are openings of the content, each
longer than the one before and as long as the share of the duration that has passed, and at the end
the whole content, once and last. A step that reveals nothing new types nothing. Nothing happens but
that the target shows these texts, and the sink is handed them. -/
theorem types_out [Analytic Rat] {w : Show Rat} (hw : w.suppressed = false) {id : String}
    {h : Handle} {t : Target Rat} (hid : w.stage.handle? id = some h)
    (ht : w.stage.targets[h]? = some t) (content : String) (d : Rat) {dts : List Rat}
    (hdts : ∀ dt ∈ dts, 0 ≤ dt) :
    let p := Playback.ofFlow (.act (.type id content d))
    let begun := p.start w
    let passed (k : Nat) := (dts.take k).sum
    let played (k : Nat) :=
      Playback.playThrough ((dts.take k).map fun dt => (false, dt)) begun.1.2 begun.2
    (d ≤ 0 → begun.1.1 = .ok true ∧ begun.1.2.isDone = true ∧
      begun.2 = World.typed h [content.toList] { w with crew := p.crew }) ∧
    (0 < d → begun.1.1 = .ok false ∧ begun.2 = { w with crew := p.crew } ∧
      ∃ texts, Typing.Typewritten content.toList d passed texts ∧
        ∀ n ≤ dts.length, (∀ k < n, passed k < d) →
          (played n).1.1 = .ok (if d ≤ passed n then some n else none) ∧
          (played n).2 = begun.2.typed h (texts n)) ∧
    (w.stage.hasSink = true → ∀ texts,
      (World.typed h texts { w with crew := p.crew }).events =
        w.events ++ texts.map fun text => .apply t.id "textContent" (String.ofList text)) := by
  intro p begun passed played
  refine ⟨fun hd => ?_, fun hd => ?_, fun hsink texts => ?_⟩
  · have hbegun : begun = ((.ok true, { task := .done, crew := p.crew }),
        World.typed h [content.toList] { w with crew := p.crew }) :=
      Playback.start_type_of_not_lt hw hid (not_lt.mpr hd)
    rw [hbegun]
    exact ⟨rfl, rfl, rfl⟩
  · have hbegun : begun = ((.ok false, Playback.ofTween (.typing h content.toList d 0 none) p.crew),
        { w with crew := p.crew }) := Playback.start_type_of_lt hid hd
    have hmono : Monotone passed := fun j k hjk =>
      (List.take_sublist_take_left hjk).sum_le_sum fun dt hdt => hdts dt (List.mem_of_mem_take hdt)
    refine ⟨by rw [hbegun], by rw [hbegun], _,
      Typing.texts_typewritten content.toList hd hmono rfl, fun n hn hbefore => ?_⟩
    have hplayed := Playback.playThrough_typing h content.toList
      (w := { w with crew := p.crew }) hw rfl hd hdts (fun k => rfl) hn hbefore
    simp only [played, hbegun, hplayed]
    exact ⟨rfl, rfl⟩
  · exact World.events_typed texts (w := { w with crew := p.crew }) hsink
      (congrArg (Option.map Target.id) ht)

/-- Six letters in a second, in steps that do not divide it: the second step reveals nothing new,
and the last two letters come with a step beyond the duration. -/
theorem types_out_title :
    let w : Show Rat :=
      World.ofStage ⟨[.ofClasses "title" ""], [("title", 0)], none, true⟩ .empty
    let dts : List Rat := [1 / 8, 0, 1 / 4, 3 / 8, 1 / 2]
    let begun := (Playback.ofFlow (.act (.type "title" "Sorted" 1))).start w
    let played := Playback.playThrough (dts.map fun dt => (false, dt)) begun.1.2 begun.2
    played.1.1 = .ok (some 5) ∧
      played.2.events = ["", "So", "Sort", "Sorted"].map (.apply "title" "textContent" ·) := by
  intro w dts begun played
  have hid : w.stage.handle? "title" = some 0 := rfl
  have hdts : ∀ dt ∈ dts, 0 ≤ dt := by decide +kernel
  obtain ⟨-, htyped, hevents⟩ := types_out (w := w) rfl hid rfl "Sorted" 1 hdts
  obtain ⟨-, hbegun, texts, htexts, hplayed⟩ := htyped (by decide +kernel)
  obtain ⟨hanswer, hworld⟩ := hplayed 5 le_rfl (by decide +kernel)
  have hshown : texts 5 = ["", "So", "Sort", "Sorted"].map String.toList := by
    rw [htexts.eq_texts]
    decide +kernel
  refine ⟨hanswer.trans (by decide +kernel), ?_⟩
  rw [show played.2 = _ from hworld, hbegun, hevents rfl, hshown]
  decide +kernel

end Flow
end Choreo
