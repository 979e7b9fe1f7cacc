import Mathlib.Data.List.Forall2
import Choreo.Proofs.Stage.Retained

/-!
Jobs and the places of their tokens.

A goal that animates something makes one job, and the jobs come in the order of the goals. A job
starts from the token at the same place of the start state, read in the measure of the goal, and
from what the target shows where the start state is too short (`Job.build_eq_ok_iff`). So goals that
animate nothing may be put in at any place, if the start state is moved on with the others
(`Job.pairs_by_place`).
-/

namespace Choreo
variable {α : Type} [Scalar α]

namespace Token

/-- Whether a token animates anything. -/
def animates (token : String) : Bool := (property? token.toList).isSome

theorem describe?_eq_none_iff {token : String} :
    (describe? token.toList : Except NumberFault (Option (Descriptor α))) = .ok none ↔
      animates token = false := by
  unfold describe? animates
  cases property? token.toList with
  | none => simp
  | some p =>
    dsimp only
    split_ifs
    · simp
    · refine iff_of_false (fun h => ?_) (by simp)
      obtain ⟨q, -, h⟩ := bind_eq_ok.mp h
      obtain ⟨x, -, h⟩ := bind_eq_ok.mp h
      cases h

theorem animates_of_describe? {token : String} {d : Descriptor α}
    (h : describe? token.toList = .ok (some d)) : animates token = true := by
  rw [animates, (property?_of_describe? h).1]
  rfl

end Token

/-- A current value as a value that can be kept. -/
def Stage.Current.toValue : Stage.Current α → Value α
  | .number x => .real x
  | .color c => .ofColor c

/-- What is read where a color is asked for is a color, and a number elsewhere. -/
theorem Stage.current_isColor {s : Stage α} {t : Target α} {property key : String}
    {measure : Measure} {x : Stage.Current α} (h : s.current t property measure key = .ok x) :
    if measure = .color then ∃ c, x = .color c else ∃ y, x = .number y := by
  unfold current at h
  dsimp only at h
  generalize (if key = "" then property else key) = key at h
  split_ifs at h ⊢ with hcolor
  · split at h
    all_goals
      obtain ⟨c, -, rfl⟩ := map_eq_ok.mp h
      exact ⟨c, rfl⟩
  · obtain ⟨y, -, rfl⟩ := map_eq_ok.mp h
    exact ⟨y, rfl⟩

namespace Job
variable {s : Stage α} {t : Target α} {d : Token.Descriptor α} {j : Job α}
  {goals origins : List String} {jobs : List (Job α)}

/-! ## Starts -/

/-- Where the property of a descriptor starts: at what the token of the start state says in the
measure of the property, and without one at what the target shows. -/
def origin (s : Stage α) (t : Target α) (d : Token.Descriptor α) :
    Option String → Except NumberFault (Value α)
  | some token =>
    if d.property.measure = .color then (tokenColor token.toList).map .ofColor
    else ((Token.value token.toList).bind (Token.inMeasure · d.property.measure)).map .number
  | none =>
    (s.current t d.property.name d.property.measure (Token.key d.property.name d.token)).map
      Stage.Current.toValue

theorem origin_color (hc : d.property.measure = .color) (origin? : Option String) :
    origin s t d origin? = (startColor s t d origin?).map .ofColor := by
  cases origin? with
  | some token => exact if_pos hc
  | none =>
    unfold origin startColor
    rw [hc]
    cases h : s.current t d.property.name .color (Token.key d.property.name d.token) with
    | error e => rfl
    | ok x =>
      obtain ⟨c, rfl⟩ := by simpa using Stage.current_isColor h
      rfl

theorem origin_number (hc : d.property.measure ≠ .color) (origin? : Option String) :
    origin s t d origin? = (startNumber s t d origin?).map .number := by
  cases origin? with
  | some token => exact if_neg hc
  | none =>
    unfold origin startNumber
    cases h : s.current t d.property.name d.property.measure
        (Token.key d.property.name d.token) with
    | error e => rfl
    | ok x =>
      obtain ⟨y, rfl⟩ := by simpa [hc] using Stage.current_isColor h
      rfl

/-- A descriptor makes a job if its start and its goal can be read, and the job runs from the one to
the other. -/
theorem ofDescriptor_eq_ok_iff {origin? : Option String} :
    ofDescriptor s t d origin? = .ok j ↔
      j.Serves d ∧ origin s t d origin? = .ok j.span.start := by
  constructor
  · intro h
    refine ⟨serves_of_ofDescriptor h, ?_⟩
    by_cases hc : d.property.measure = .color
    · rw [ofDescriptor_color hc] at h
      obtain ⟨a, ha, h⟩ := bind_eq_ok.mp h
      obtain ⟨b, -, h⟩ := bind_eq_ok.mp h
      cases h
      rw [origin_color hc, ha]
      rfl
    · rw [ofDescriptor_number hc] at h
      obtain ⟨a, ha, h⟩ := bind_eq_ok.mp h
      obtain ⟨b, -, h⟩ := bind_eq_ok.mp h
      cases h
      rw [origin_number hc, ha]
      rfl
  · rintro ⟨⟨hproperty, htoken, hkey, hgoal, hmeasure⟩, horigin⟩
    obtain ⟨property, key, span, token⟩ := j
    obtain rfl : property = d.property := hproperty
    obtain rfl : token = d.token := htoken
    obtain rfl : key = Token.key d.property.name d.token := hkey
    by_cases hc : d.property.measure = .color
    · rw [origin_color hc] at horigin
      rw [Token.Descriptor.goal, if_pos hc] at hgoal
      obtain ⟨a, ha, hstart⟩ := map_eq_ok.mp horigin
      obtain ⟨b, hb, hstop⟩ := map_eq_ok.mp hgoal
      rw [ofDescriptor_color hc, ha, hb]
      cases span with
      | numbers => exact absurd (hmeasure.mpr hc) Bool.false_ne_true
      | colors a' b' =>
        obtain rfl := Value.ofColor_inj hstart
        obtain rfl := Value.ofColor_inj hstop
        rfl
    · rw [origin_number hc] at horigin
      rw [Token.Descriptor.goal, if_neg hc] at hgoal
      obtain ⟨a, ha, hstart⟩ := map_eq_ok.mp horigin
      obtain ⟨b, hb, hstop⟩ := map_eq_ok.mp hgoal
      rw [ofDescriptor_number hc, ha, hb]
      cases span with
      | colors => exact absurd (hmeasure.mp rfl) hc
      | numbers a' b' =>
        cases hstart
        cases hstop
        rfl

/-! ## Places -/

/-- The job of a goal, given the token at the same place of the start state. -/
def Answers (s : Stage α) (t : Target α) (token : String) (origin? : Option String) (j : Job α) :
    Prop :=
  ∃ d : Token.Descriptor α, Token.describe? token.toList = .ok (some d) ∧ j.Serves d ∧
    origin s t d origin? = .ok j.span.start

/-- The goals that animate something, each with its place, from a place on. -/
def places (goals : List String) (k : Nat) : List (String × Nat) :=
  (goals.zipIdx k).filter fun place => Token.animates place.1

omit [Scalar α] in
theorem places_cons (token : String) (rest : List String) (k : Nat) :
    places (token :: rest) k =
      if Token.animates token then (token, k) :: places rest (k + 1) else places rest (k + 1) := by
  rw [places, List.zipIdx_cons, List.filter_cons]
  rfl

/-- The first goal is skipped if it animates nothing, and makes the first job if it does. -/
theorem build_cons_iff {token : String} {rest start : List String} :
    build s t (token :: rest) start = .ok jobs ↔
      (Token.animates token = false ∧ build s t rest (start.drop 1) = .ok jobs) ∨
        ∃ j others, Answers s t token start.head? j ∧
          build s t rest (start.drop 1) = .ok others ∧ jobs = j :: others := by
  constructor
  · intro h
    rcases build_cons h with ⟨hnone, hrest⟩ | ⟨d, j, others, hd, hj, hrest, hjobs⟩
    · exact .inl ⟨Token.describe?_eq_none_iff.mp hnone, hrest⟩
    · exact .inr ⟨j, others, ⟨d, hd, ofDescriptor_eq_ok_iff.mp hj⟩, hrest, hjobs⟩
  · rintro (⟨hnone, hrest⟩ | ⟨j, others, ⟨d, hd, hj⟩, hrest, rfl⟩)
    · rw [build, Token.describe?_eq_none_iff.mpr hnone, hrest]
      rfl
    · have hjob : (ofDescriptor s t d start.head?).map some = .ok (some j) :=
        map_eq_ok.mpr ⟨j, ofDescriptor_eq_ok_iff.mpr hj, rfl⟩
      rw [build]
      exact bind_eq_ok.mpr ⟨some d, hd, bind_eq_ok.mpr ⟨some j, hjob,
        bind_eq_ok.mpr ⟨others, hrest, rfl⟩⟩⟩

/-- Jobs are made if every goal that animates something can be read, and so can the start of its
job. -/
theorem build_from_iff (k : Nat) :
    build s t goals (origins.drop k) = .ok jobs ↔
      List.Forall₂ (fun place j => Answers s t place.1 origins[place.2]? j) (places goals k)
        jobs := by
  induction goals generalizing k jobs with
  | nil =>
    rw [build, show places [] k = [] from rfl, List.forall₂_nil_left_iff]
    exact ⟨fun h => (Except.ok.inj h).symm, fun h => congrArg Except.ok h.symm⟩
  | cons token rest ih =>
    rw [build_cons_iff, List.head?_drop, List.drop_drop, places_cons]
    cases hanimates : Token.animates token with
    | false =>
      simp only [true_and, Bool.false_eq_true, if_false, ← ih]
      refine or_iff_left ?_
      rintro ⟨j, others, ⟨d, hd, -⟩, -⟩
      rw [Token.animates_of_describe? hd] at hanimates
      cases hanimates
    | true =>
      simp only [Bool.true_eq_false, false_and, false_or, if_true, List.forall₂_cons_left_iff]
      refine exists_congr fun j => exists_congr fun others => ?_
      rw [ih]

/-! ## Goals that animate nothing -/

variable {idle before after after' others start start' : List String}

/-- Goals that animate nothing take their places of the start state with them. -/
theorem build_idle (hidle : ∀ token ∈ idle, Token.animates token = false) :
    build s t (idle ++ after) start = build s t after (start.drop idle.length) := by
  induction idle generalizing start with
  | nil => rfl
  | cons token idle ih =>
    have hnone := Token.describe?_eq_none_iff (α := α).mpr (hidle token List.mem_cons_self)
    rw [List.cons_append, build, hnone, ih fun x hx => hidle x (List.mem_cons_of_mem token hx),
      List.drop_drop, List.length_cons, Nat.add_comm 1]
    show (build s t after _ >>= fun jobs => pure ([] ++ jobs)) = _
    simp

/-- What comes later in either list is of no account for the first goals. -/
theorem build_append_congr (htake : start.take before.length = start'.take before.length)
    (hrest : build s t after (start.drop before.length) =
      build s t after' (start'.drop before.length)) :
    build s t (before ++ after) start = build s t (before ++ after') start' := by
  induction before generalizing start start' with
  | nil => exact hrest
  | cons token before ih =>
    have hhead : start.head? = start'.head? := by
      have h := congrArg List.head? htake
      rwa [List.head?_take, List.head?_take, List.length_cons,
        if_neg (Nat.succ_ne_zero before.length), if_neg (Nat.succ_ne_zero before.length)] at h
    have htake : (start.drop 1).take before.length = (start'.drop 1).take before.length := by
      have h := congrArg (List.drop 1) htake
      rwa [List.drop_take, List.drop_take] at h
    rw [List.length_cons, Nat.add_comm, ← List.drop_drop, ← List.drop_drop] at hrest
    rw [List.cons_append, List.cons_append, build, build, hhead, ih htake hrest]

/-- The jobs of two lists of tokens. There is one for each goal that animates something, in order,
and it starts from the token at the same place of the start state, or from what the target shows
where that is too short. If goals that animate nothing are put in at a place, and as many tokens of
any kind at this place of the start state if it is that long, then nothing changes, a fault
included. -/
theorem pairs_by_place (s : Stage α) (t : Target α) (goals origins : List String) :
    (∀ jobs, build s t goals origins = .ok jobs ↔
      List.Forall₂ (fun place j => Answers s t place.1 origins[place.2]? j) (places goals 0) jobs) ∧
    ∀ before after idle others, goals = before ++ after →
      (∀ token ∈ idle, Token.animates token = false) → others.length = idle.length →
      (before.length ≤ origins.length →
        build s t (before ++ (idle ++ after))
          (origins.take before.length ++ (others ++ origins.drop before.length)) =
            build s t goals origins) ∧
      (origins.length ≤ before.length →
        build s t (before ++ (idle ++ after)) origins = build s t goals origins) := by
  refine ⟨fun jobs => build_from_iff 0, fun before after idle others hgoals hidle hothers =>
    ⟨fun hreach => ?_, fun hshort => ?_⟩⟩
  · have hlength : (origins.take before.length).length = before.length :=
      List.length_take_of_le hreach
    rw [hgoals]
    refine build_append_congr ?_ ?_
    · rw [List.take_append_of_le_length hlength.ge, List.take_take, min_self]
    · rw [build_idle hidle, List.drop_left' hlength, ← hothers, List.drop_left]
  · rw [hgoals]
    refine build_append_congr rfl ?_
    rw [build_idle hidle, List.drop_drop, List.drop_eq_nil_of_le hshort,
      List.drop_eq_nil_of_le (hshort.trans (Nat.le_add_right _ _))]

/-- The start of `h-4` is read off the target, as there is one start only. It still is if `foo`
comes before it, with a start that `foo` takes. -/
theorem pairs_by_place_foo :
    let s : Stage Rat := .empty none false
    let t : Target Rat := .ofClasses "box" ""
    build s t ["w-10", "foo", "h-4"] ["h-2", "m-1"] = build s t ["w-10", "h-4"] ["h-2"] ∧
      ∃ jobs, build s t ["w-10", "h-4"] ["h-2"] = .ok jobs ∧
        List.Forall₂ (fun place j => Answers s t place.1 ["h-2"][place.2]? j)
          [("w-10", 0), ("h-4", 1)] jobs := by
  intro s t
  have hplaces : places ["w-10", "h-4"] 0 = [("w-10", 0), ("h-4", 1)] := by decide +kernel
  have hfoo : ∀ token ∈ ["foo"], Token.animates token = false := by decide +kernel
  have hsome : (build s t ["w-10", "h-4"] ["h-2"]).toOption.isSome = true := by decide +kernel
  obtain ⟨hjobs, hinsert⟩ := pairs_by_place s t ["w-10", "h-4"] ["h-2"]
  refine ⟨(hinsert ["w-10"] ["h-4"] ["foo"] ["m-1"] rfl hfoo rfl).1 (by decide), ?_⟩
  cases hbuild : build s t ["w-10", "h-4"] ["h-2"] with
  | error e =>
    rw [hbuild] at hsome
    cases hsome
  | ok jobs => exact ⟨jobs, rfl, hplaces ▸ (hjobs jobs).mp hbuild⟩

end Job
end Choreo
