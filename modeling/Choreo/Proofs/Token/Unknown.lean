import Choreo.Proofs.Stage.Retained
import Choreo.Proofs.Token.Arbitrary

/-!
Tokens that animate nothing.

Such a token carries nought, and a job that takes its start from it starts at nought. Only a value
in brackets is read all the same, as if the token were a width (`Job.unknown_tokens`).
-/

namespace Choreo
namespace Token

/-- The arbitrary token of a width with a payload. -/
def width (negative : Bool) (payload : List Char) : List Char :=
  (if negative then ['-'] else []) ++ 'w' :: '-' :: '[' :: (payload ++ [']'])

section
variable {token payload : List Char}

/-- Every named token animates something. -/
theorem lookup_of_unknown (h : property? token = none) :
    namedValues.lookup (String.ofList token) = none := by
  refine lookup_eq_none fun entry hentry htoken => ?_
  have hnamed : ∀ entry ∈ namedValues, property? entry.1.toList ≠ none := by decide +kernel
  exact hnamed entry hentry (htoken ▸ h)

/-- What an unknown token carries stands in its brackets, or is nought. -/
theorem value_of_unknown {α : Type} [Scalar α] (h : property? token = none) :
    (value token : Except NumberFault (Quantity α)) =
      match payload? (withoutMinus token) with
      | some payload => .ok (payloadValue (isNegative token) payload)
      | none => .ok (.whole 0) := by
  unfold value
  rw [lookup_of_unknown h]
  dsimp only
  cases payload? (withoutMinus token) with
  | some payload => rfl
  | none =>
    rw [h]
    rfl

theorem nonempty_of_payload? {cs : List Char} (h : payload? cs = some payload) :
    payload ≠ [] ∧ '\n' ∉ payload := by
  unfold payload? at h
  dsimp only at h
  split_ifs at h
  obtain ⟨hbody, hfilter⟩ := Option.filter_eq_some_iff.mp h
  exact ⟨by simpa using hfilter, (bracketed?_eq_some.mp hbody).2⟩

theorem width_eq_arbitrary (negative : Bool) (payload : List Char) :
    width negative payload = arbitrary negative "w-" payload := by
  cases negative <;> rfl

theorem value_width {α : Type} [Scalar α] (negative : Bool) (hne : payload ≠ [])
    (hline : '\n' ∉ payload) :
    (value (width negative payload) : Except NumberFault (Quantity α)) =
      .ok (payloadValue negative payload) := by
  have hmem : ("w-", ⟨"width", .px⟩) ∈ table := List.mem_cons_self
  rw [width_eq_arbitrary, value_arbitrary hmem negative hne hline]

end

/-! ## Starts -/

/-- A token that animates nothing and holds no value in brackets. -/
structure IsNeutral (token : List Char) : Prop where
  unknown : property? token = none
  plain : payload? (withoutMinus token) = none

/-- Nought is nought in every measure. -/
theorem inMeasure_zero (m : Measure) :
    ∃ q : Quantity Float, inMeasure (.whole 0) m = .ok q ∧ q.exact = .finite false 0 := by
  have hzero : (Quantity.ofWhole 0 : Except NumberFault Float) = .ok (Binary64.ofRat 0) := by
    rw [Quantity.ofWhole_doubles, if_neg]
    · rfl
    · rw [Int.cast_zero, abs_zero]
      exact not_le.mpr Binary64.overflowBound_pos
  cases m with
  | rem =>
    refine ⟨.real (Binary64.ofRat 0 * Binary64.ofRat (1 / 4)), ?_, by decide +kernel⟩
    rw [inMeasure, Quantity.quarter, Quantity.toReal, hzero]
    rfl
  | percent =>
    have hexact : Scalar.exact (Scalar.ofRat (mkRat 0 100) : Float) = .finite false 0 := by
      decide +kernel
    refine ⟨.real (Scalar.ofRat (mkRat 0 100)), ?_, hexact⟩
    rw [inMeasure, Quantity.dividedBy, hexact]
  | _ => exact ⟨_, rfl, rfl⟩

theorem inMeasure_real (x : Float) (m : Measure) :
    ∃ y : Float, (inMeasure (.real x) m).bind Quantity.toReal = .ok y := by
  cases m <;> exact ⟨_, rfl⟩

end Token

namespace Job

open Token

section
variable {s : Stage Float} {t : Target Float}

/-- A token that says nothing puts the start of a job on nought, unless the job is one of colors. -/
theorem ofDescriptor_neutral {d : Descriptor Float} {origin : String}
    (hcolor : d.property.measure ≠ .color) (hneutral : IsNeutral origin.toList) :
    ∃ q x, ofDescriptor s t d (some origin) =
        .ok ⟨d.property, Token.key d.property.name d.token, .numbers q (.real x), d.token⟩ ∧
      q.exact = .finite false 0 := by
  obtain ⟨q, hq, hzero⟩ := inMeasure_zero d.property.measure
  obtain ⟨x, hx⟩ := inMeasure_real d.value d.property.measure
  have hvalue : (value origin.toList : Except NumberFault (Quantity Float)) = .ok (.whole 0) := by
    rw [value_of_unknown hneutral.unknown, hneutral.plain]
  have hstart : startNumber s t d (some origin) = .ok q :=
    bind_eq_ok.mpr ⟨_, hvalue, hq⟩
  have hstop : d.inMeasure = .ok x := hx
  rw [ofDescriptor_number hcolor, hstart, hstop]
  exact ⟨q, x, rfl, hzero⟩

/-- What became of each goal: its job, if it animates anything. A job has its goal for a token, and
starts at nought if the token at the same place of the start says nothing. -/
structure Made (goals start : List String) (made : List (Option (Job Float))) : Prop where
  length_eq : made.length = goals.length
  token_eq : ∀ (i : Nat) (j : Job Float), made[i]? = some (some j) →
    goals[i]?.map String.toList = some j.token
  zero : ∀ (i : Nat) (j : Job Float) (origin : String), made[i]? = some (some j) →
    start[i]? = some origin → IsNeutral origin.toList → j.property.measure ≠ .color →
      ∃ q x, j.span = .numbers q x ∧ q.exact = .finite false 0

theorem Made.cons {token : String} {goals start : List String} {made : List (Option (Job Float))}
    {job? : Option (Job Float)} (h : Made goals (start.drop 1) made)
    (htoken : ∀ j, job? = some j → j.token = token.toList)
    (hzero : ∀ (j : Job Float) (origin : String), job? = some j → start.head? = some origin →
      IsNeutral origin.toList → j.property.measure ≠ .color →
        ∃ q x, j.span = .numbers q x ∧ q.exact = .finite false 0) :
    Made (token :: goals) start (job? :: made) where
  length_eq := congrArg (· + 1) h.length_eq
  token_eq i j hj := by
    cases i with
    | zero =>
      obtain rfl := Option.some.inj hj
      exact congrArg some (htoken j rfl).symm
    | succ i => exact h.token_eq i j hj
  zero i j origin hj horigin := by
    cases i with
    | zero =>
      obtain rfl := Option.some.inj hj
      exact hzero j origin rfl (by rw [List.head?_eq_getElem?]; exact horigin)
    | succ i =>
      refine h.zero i j origin hj ?_
      rw [List.getElem?_drop, Nat.add_comm]
      exact horigin

theorem build_made {goals start : List String} {jobs : List (Job Float)}
    (h : build s t goals start = .ok jobs) :
    ∃ made, Made goals start made ∧ jobs = made.filterMap id := by
  induction goals generalizing start jobs with
  | nil =>
    rw [build] at h
    obtain rfl := Except.ok.inj h
    exact ⟨[], ⟨rfl, by simp, by simp⟩, rfl⟩
  | cons token goals ih =>
    rcases build_cons h with ⟨-, hrest⟩ | ⟨d, j, others, hd, hj, hrest, rfl⟩
    · obtain ⟨made, hmade, rfl⟩ := ih hrest
      exact ⟨none :: made, hmade.cons (by simp) (by simp), rfl⟩
    · obtain ⟨made, hmade, rfl⟩ := ih hrest
      have hserves := serves_of_ofDescriptor hj
      refine ⟨some j :: made, hmade.cons ?_ ?_, rfl⟩
      · rintro _ ⟨⟩
        rw [hserves.token, (Token.property_of_describe? hd).2]
      · rintro _ origin ⟨⟩ hhead hneutral hcolor
        rw [hserves.property] at hcolor
        rw [hhead] at hj
        obtain ⟨q, x, hmade, hzero⟩ := ofDescriptor_neutral (s := s) (t := t) hcolor hneutral
        rw [hmade] at hj
        cases hj
        exact ⟨q, _, rfl, hzero⟩

end

/-- An unknown token carries nought and puts jobs on nought, unless it holds a value in brackets:
that is read as if the token were a width. -/
theorem unknown_tokens (s : Stage Float) (t : Target Float) (goals start : List String) :
    (∀ token, IsNeutral token →
      (value token : Except NumberFault (Quantity Float)) = .ok (.whole 0)) ∧
    (∀ token payload, property? token = none → payload? (withoutMinus token) = some payload →
      (value token : Except NumberFault (Quantity Float)) =
        value (width (isNegative token) payload)) ∧
    ∀ jobs, build s t goals start = .ok jobs →
      ∃ made, Made goals start made ∧ jobs = made.filterMap id := by
  refine ⟨fun token h => ?_, fun token payload h hpayload => ?_, fun _ h => build_made h⟩
  · rw [value_of_unknown h.unknown, h.plain]
  · obtain ⟨hne, hline⟩ := nonempty_of_payload? hpayload
    rw [value_of_unknown h, hpayload, value_width _ hne hline]

/-- A stage without targets, and a target without classes. -/
def bareStage : Stage Float := .empty none false

def bareTarget : Target Float := .ofClasses "title" ""

def tenWide : Descriptor Float := ⟨⟨"width", .px⟩, Binary64.ofRat 10, "w-10".toList⟩

theorem describe?_tenWide : describe? "w-10".toList = .ok (some tenWide) := by
  have hdigits : ∀ c ∈ ['1', '0'], Text.isDigit c = true := by
    simp only [List.forall_mem_cons]
    exact ⟨by decide +kernel, by decide +kernel, by simp⟩
  have hnumbered : Numbered "w-10".toList ['1', '0'] :=
    ⟨by decide +kernel, by decide +kernel, ⟨['w'], by decide +kernel⟩, by decide, hdigits⟩
  have hvalue : (value "w-10".toList : Except NumberFault (Quantity Float)) = .ok (.whole 10) := by
    rw [value_of_numbered hnumbered, if_neg (by decide)]
    congr 2
  have hreal : (Quantity.ofWhole 10 : Except NumberFault Float) = .ok (Binary64.ofRat 10) := by
    have hpow : |((10 : Int) : Rat)| < 2 ^ (4 : Int) := by norm_num
    rw [Quantity.ofWhole_doubles, if_neg]
    · rfl
    · exact not_le.mpr (hpow.trans (Binary64.lt_overflowBound (by decide)))
  have hproperty : property? "w-10".toList = some ⟨"width", .px⟩ := by decide +kernel
  rw [describe?, hproperty]
  dsimp only
  rw [if_neg (by decide), hvalue]
  exact bind_eq_ok.mpr ⟨_, rfl, bind_eq_ok.mpr ⟨_, hreal, rfl⟩⟩

/-- A job from `foo-5` to `w-10` starts at nought, and `foo-[5px]` is read as `w-[5px]` is. -/
theorem unknown_tokens_foo :
    (∃ j, build bareStage bareTarget ["w-10"] ["foo-5"] = .ok [j] ∧
        ∃ q x, j.span = .numbers q x ∧ q.exact = .finite false 0) ∧
      (value "foo-[5px]".toList : Except NumberFault (Quantity Float)) =
        value (width false "5px".toList) := by
  constructor
  · have hneutral : IsNeutral "foo-5".toList := ⟨by decide +kernel, by decide +kernel⟩
    obtain ⟨j, hj⟩ : ∃ j, ofDescriptor bareStage bareTarget tenWide (some "foo-5") = .ok j := by
      obtain ⟨q, x, hjob, -⟩ := ofDescriptor_neutral (s := bareStage) (t := bareTarget)
        (d := tenWide) (by decide) hneutral
      exact ⟨_, hjob⟩
    have hbuild : build bareStage bareTarget ["w-10"] ["foo-5"] = .ok [j] := by
      rw [build]
      refine bind_eq_ok.mpr ⟨_, describe?_tenWide, bind_eq_ok.mpr ⟨some j, ?_, rfl⟩⟩
      exact map_eq_ok.mpr ⟨j, hj, rfl⟩
    obtain ⟨made, ⟨hlength, -, hzero⟩, hfilter⟩ := (unknown_tokens _ _ _ _).2.2 _ hbuild
    refine ⟨j, hbuild, hzero 0 j "foo-5" ?_ rfl hneutral ?_⟩
    · obtain ⟨job?, rfl⟩ := List.length_eq_one_iff.mp hlength
      cases job? with
      | none => cases hfilter
      | some j' =>
        cases hfilter
        rfl
    · rw [(serves_of_ofDescriptor hj).property]
      decide
  · have hbracketed := (unknown_tokens bareStage bareTarget [] []).2.1
    exact hbracketed _ _ (by decide +kernel) (by decide +kernel)

/-- A token that animates nothing starts a width at five pixels. -/
theorem foo_misread :
    property? "foo-[5px]".toList = none ∧
      ∃ q : Quantity Float, value "foo-[5px]".toList = .ok q ∧ q.exact = .finite false (5 / 4) := by
  have hunknown : property? "foo-[5px]".toList = none := by decide +kernel
  have hpayload : payload? (withoutMinus "foo-[5px]".toList) = some "5px".toList := by
    decide +kernel
  refine ⟨hunknown, payloadValue false "5px".toList, ?_, by decide +kernel⟩
  rw [value_of_unknown hunknown, hpayload]
  rfl

end Job
end Choreo
