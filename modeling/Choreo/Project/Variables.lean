import Choreo.Text.Word

/-!
Variables in texts: `$` and a name in braces stand for what the name is bound to.
-/

namespace Choreo
namespace Variables

/-- What a name is bound to. -/
inductive Binding where
  | unbound
  /-- Bound to nothing: the variable vanishes. -/
  | empty
  | text (s : String)
  /-- Bound to something that is no text. -/
  | other
  deriving DecidableEq, Repr

/-- Why a text could not be expanded. -/
inductive Fault where
  | unbound (name : String)
  | notText
  deriving DecidableEq, Repr

def Fault.message : Fault → String
  | unbound name => "Unknown path variable: $\x7b" ++ name ++ "\x7d"
  | notText => "path variables must be texts"

/-- The name of the variable a text opens with, and the rest behind it. -/
def leadingName? : List Char → Option (List Char × List Char)
  | '$' :: '\x7b' :: rest =>
    let name := rest.takeWhile Text.isWord
    match rest.dropWhile Text.isWord with
    | '\x7d' :: behind => if name.isEmpty then none else some (name, behind)
    | _ => none
  | _ => none

theorem leadingName?_length {cs name behind : List Char}
    (h : leadingName? cs = some (name, behind)) :
    behind.length < cs.length := by
  unfold leadingName? at h
  split at h
  · rename_i rest
    simp only at h
    split at h
    · rename_i b hb
      split at h
      · simp at h
      · have hlen : (rest.dropWhile Text.isWord).length ≤ rest.length :=
          (List.dropWhile_sublist _).length_le
        simp only [hb, List.length_cons] at hlen
        simp only [Option.some.injEq, Prod.mk.injEq] at h
        obtain ⟨_, rfl⟩ := h
        simp only [List.length_cons]
        omega
    · simp at h
  · simp at h

/-- A text in pieces: plain characters and variables, in order. -/
def segments (cs : List Char) : List (Char ⊕ List Char) :=
  match h : leadingName? cs with
  | some (name, behind) =>
    have := leadingName?_length h
    .inr name :: segments behind
  | none =>
    match cs with
    | [] => []
    | c :: rest => .inl c :: segments rest
termination_by cs.length

/-- Replaces every variable by what it is bound to. An unbound name is reported before a binding
that is no text. -/
def expand (binding : String → Binding) (s : String) : Except Fault String :=
  let parts := (segments s.toList).map fun
    | .inl c => (Binding.text (String.singleton c), "")
    | .inr name => (binding (String.ofList name), String.ofList name)
  match parts.find? (·.1 == .unbound) with
  | some (_, name) => .error (.unbound name)
  | none =>
    if parts.any (·.1 == .other) then .error .notText
    else .ok (String.join (parts.map fun
      | (.text t, _) => t
      | _ => ""))

end Variables
end Choreo
