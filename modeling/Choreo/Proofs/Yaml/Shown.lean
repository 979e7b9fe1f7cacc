import Choreo.Yaml.Datum
import Mathlib.Tactic.Common

/-!
Why a datum cannot be shown.

There are two reasons and no other: a whole number in it has more digits than are written, or it
holds a row of collections, each inside the one before, that is longer than what can be shown
(`Contents.shown_failsBy`, `Contents.plain_failsBy`). A collection that is met again inside itself
ends such a row.
-/

namespace Choreo

/-! ## Computations that may fail -/

/-- What a computation comes to: what is known of its result, and what of its fault. -/
def Ends {ε β : Type} (P : β → Prop) (Q : ε → Prop) : Except ε β → Prop
  | .ok b => P b
  | .error e => Q e

/-- What is known of the fault of a computation, if it fails. -/
abbrev FailsBy {ε β : Type} (Q : ε → Prop) (x : Except ε β) : Prop := Ends (fun _ => True) Q x

section
variable {ε ε' β γ : Type} {P : β → Prop} {Q Q' : ε → Prop} {R : γ → Prop} {x : Except ε β}

theorem Ends.imp (h : Ends P Q x) (hQ : ∀ e, Q e → Q' e) : Ends P Q' x := by
  cases x with
  | ok b => exact h
  | error e => exact hQ e h

theorem Ends.eq (h : Ends P Q x) : Ends (fun b => x = .ok b ∧ P b) Q x := by
  cases x with
  | ok b => exact ⟨rfl, h⟩
  | error e => exact h

theorem Ends.bind (h : Ends P Q x) {f : β → Except ε γ} (hf : ∀ b, P b → Ends R Q (f b)) :
    Ends R Q (x >>= f) := by
  cases x with
  | ok b => exact hf b h
  | error e => exact h

theorem Ends.map (h : Ends P Q x) {f : β → γ} (hf : ∀ b, P b → R (f b)) : Ends R Q (f <$> x) := by
  cases x with
  | ok b => exact hf b h
  | error e => exact h

theorem Ends.mapError {S : ε' → Prop} (h : Ends P Q x) {f : ε → ε'} (hf : ∀ e, Q e → S (f e)) :
    Ends P S (x.mapError f) := by
  cases x with
  | ok b => exact h
  | error e => exact hf e h

theorem failsBy_mapM {f : γ → Except ε β} {xs : List γ} (h : ∀ x ∈ xs, FailsBy Q (f x)) :
    FailsBy Q (xs.mapM f) := by
  induction xs with
  | nil => trivial
  | cons x xs ih =>
    rw [List.mapM_cons]
    obtain ⟨hx, hxs⟩ := List.forall_mem_cons.mp h
    exact hx.bind fun y _ => (ih hxs).bind fun ys _ => trivial

end

variable {α : Type}

theorem Quantity.text_failsBy [Scalar α] (q : Quantity α) :
    FailsBy (· = NumberFault.tooLong) q.text := by
  cases q with
  | real x => trivial
  | whole n =>
    unfold Quantity.text
    dsimp only
    split
    · rfl
    · trivial

namespace Yaml

/-! ## Single values -/

theorem Atom.shown_failsBy [Scalar α] (a : Atom α) : FailsBy (· = NumberFault.tooLong) a.shown := by
  induction a with
  | number q => exact q.text_failsBy
  | pair a b iha ihb => exact iha.bind fun s _ => ihb.bind fun t _ => trivial
  | null | flag | nan | text | bytes | day | moment => trivial

theorem Atom.plain_failsBy [Scalar α] (a : Atom α) : FailsBy (· = NumberFault.tooLong) a.plain := by
  cases a with
  | text | day | moment => trivial
  | null | flag | number | nan | bytes | pair => exact Atom.shown_failsBy _

/-! ## Rows of collections -/

namespace Contents

/-- A datum opens a row of so many pairs and collections, each inside the one before. Those that it
stands in do not come in the row, nor does one of the row a second time. -/
inductive Nests (c : Contents α) : (length : Nat) → (around : List Nat) → Datum α → Prop
  | any (around : List Nat) (d : Datum α) : Nests c 0 around d
  | first {k : Nat} {around : List Nat} {a : Datum α} (b : Datum α) (h : Nests c k around a) :
    Nests c (k + 1) around (.pair a b)
  | second {k : Nat} {around : List Nat} {b : Datum α} (a : Datum α) (h : Nests c k around b) :
    Nests c (k + 1) around (.pair a b)
  | item {k n : Nat} {around : List Nat} {items : List (Datum α)} {d : Datum α}
    (hn : n ∉ around) (hitems : c.collection n = .list items) (hd : d ∈ items)
    (h : Nests c k (n :: around) d) : Nests c (k + 1) around (.collection n)
  | value {k n : Nat} {around : List Nat} {entries : List (Atom α × Datum α)} {key : Atom α}
    {d : Datum α} (hn : n ∉ around) (hentries : c.collection n = .mapping entries)
    (hd : (key, d) ∈ entries) (h : Nests c k (n :: around) d) :
    Nests c (k + 1) around (.collection n)

theorem Nests.mono {c : Contents α} {k k' : Nat} {around : List Nat} {d : Datum α}
    (h : Nests c k around d) (hk : k' ≤ k) : Nests c k' around d := by
  induction k' generalizing k around d with
  | zero => exact .any around d
  | succ k' ih =>
    cases h with
    | any => cases hk
    | first b h => exact .first b (ih h (Nat.le_of_succ_le_succ hk))
    | second a h => exact .second a (ih h (Nat.le_of_succ_le_succ hk))
    | item hn hitems hd h => exact .item hn hitems hd (ih h (Nat.le_of_succ_le_succ hk))
    | value hn hentries hd h => exact .value hn hentries hd (ih h (Nat.le_of_succ_le_succ hk))

/-- Why a datum is not shown that stands inside some collections, and of which no more is looked at
than so many data around each other. -/
inductive Unshown (c : Contents α) (k : Nat) (around : List Nat) (d : Datum α) : Fault → Prop
  | tooLong : Unshown c k around d (.number .tooLong)
  | tooDeep (h : Nests c k around d) : Unshown c k around d .tooDeep

theorem Unshown.row {c : Contents α} {k k' : Nat} {around around' : List Nat} {d d' : Datum α}
    (h : Nests c k around d → Nests c k' around' d') {e : Fault} (he : Unshown c k around d e) :
    Unshown c k' around' d' e := by
  cases he with
  | tooLong => exact .tooLong
  | tooDeep hnests => exact .tooDeep (h hnests)

variable [Scalar α] (c : Contents α)

theorem shownAtom_failsBy (a : Atom α) : FailsBy (· = Fault.number .tooLong) (shownAtom a) :=
  a.shown_failsBy.mapError fun _ he => congrArg Fault.number he

theorem shownWithin_failsBy (k : Nat) (around : List Nat) (d : Datum α) :
    FailsBy (Unshown c k around d) (c.shownWithin k around d) := by
  induction k generalizing around d with
  | zero => exact .tooDeep (.any around d)
  | succ k ih =>
    have hatom (a : Atom α) : FailsBy (Unshown c (k + 1) around d) (shownAtom a) :=
      (shownAtom_failsBy a).imp fun e he => he ▸ .tooLong
    cases d with
    | atom a => exact hatom a
    | pair a b =>
      have ha := (ih around a).imp fun _ => Unshown.row (.first b)
      have hb := (ih around b).imp fun _ => Unshown.row (.second a)
      exact ha.bind fun s _ => hb.bind fun t _ => trivial
    | collection n =>
      unfold shownWithin
      dsimp only
      cases hc : c.collection n with
      | list items =>
        dsimp only
        split
        · trivial
        · next hn =>
          have hparts : ∀ d ∈ items, FailsBy (Unshown c (k + 1) around (.collection n))
              (c.shownWithin k (n :: around) d) :=
            fun d hd => (ih (n :: around) d).imp fun _ =>
              Unshown.row (.item (by simpa using hn) hc hd)
          exact (failsBy_mapM hparts).bind fun parts _ => trivial
      | mapping entries =>
        dsimp only
        split
        · trivial
        · next hn =>
          refine (failsBy_mapM fun (key, d) hd => ?_).bind fun parts _ => trivial
          refine (hatom key).bind fun s _ => Ends.bind (P := fun _ => True) ?_ fun t _ => trivial
          exact (ih (n :: around) d).imp fun _ =>
            Unshown.row (.value (by simpa using hn) hc hd)
      | set members =>
        cases members with
        | nil => trivial
        | cons a members => exact (failsBy_mapM fun a _ => hatom a).bind fun parts _ => trivial

/-- A datum is shown, unless a number in it is too long or its collections are nested too deeply. -/
theorem shown_failsBy (d : Datum α) : FailsBy (Unshown c shownLimit [] d) (c.shown d) :=
  c.shownWithin_failsBy shownLimit [] d

theorem plain_failsBy (d : Datum α) : FailsBy (Unshown c (shownLimit - 1) [] d) (c.plain d) := by
  cases d with
  | atom a => exact a.plain_failsBy.mapError fun e he => he ▸ .tooLong
  | pair a b => exact c.shownWithin_failsBy (shownLimit - 1) [] (.pair a b)
  | collection n => exact c.shownWithin_failsBy (shownLimit - 1) [] (.collection n)

end Contents
end Yaml
end Choreo
