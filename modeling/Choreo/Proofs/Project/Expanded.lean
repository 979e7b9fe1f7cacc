import Choreo.Project.Variables
import Mathlib.Data.List.TakeWhile

/-!
Texts with their variables replaced.

`Expands` reads a text from the left: where a variable stands it goes on with what the variable is
bound to, and behind it, and everywhere else it keeps the character. `expand` gives a text that is
expanded in this sense, or finds a variable in the text for which there is none (`expand_spec`).
-/

namespace Choreo
namespace Variables

/-! ## Variables in a text -/

structure IsName (name : List Char) : Prop where
  ne_nil : name ≠ []
  isWord : ∀ c ∈ name, Text.isWord c = true

/-- How a variable is written. -/
def written (name : List Char) : List Char := '$' :: '\x7b' :: (name ++ ['\x7d'])

/-- A text has a variable in it. -/
def Mentions (cs name : List Char) : Prop :=
  IsName name ∧ ∃ before behind, cs = before ++ (written name ++ behind)

theorem Mentions.cons {cs name : List Char} (h : Mentions cs name) (c : Char) :
    Mentions (c :: cs) name := by
  obtain ⟨hname, before, behind, rfl⟩ := h
  exact ⟨hname, c :: before, behind, rfl⟩

theorem Mentions.append {cs name : List Char} (h : Mentions cs name) (front : List Char) :
    Mentions (front ++ cs) name := by
  induction front with
  | nil => exact h
  | cons c front ih => exact ih.cons c

/-- The name a text opens with is the longest run of word characters, so it is the only one. -/
theorem leadingName?_eq_some {cs name behind : List Char} :
    leadingName? cs = some (name, behind) ↔ IsName name ∧ cs = written name ++ behind := by
  constructor
  · intro h
    unfold leadingName? at h
    split at h
    · next rest =>
      dsimp only at h
      split at h
      · next tail htail =>
        split at h
        · cases h
        · next hne =>
          cases h
          refine ⟨⟨by simpa using hne, fun c hc => List.mem_takeWhile_imp hc⟩, ?_⟩
          have hrest := List.takeWhile_append_dropWhile (p := Text.isWord) (l := rest)
          rw [htail] at hrest
          simp [written, hrest]
      · cases h
    · cases h
  · rintro ⟨⟨hne, hword⟩, rfl⟩
    have hstop : Text.isWord '\x7d' = false := by decide +kernel
    have hsplit : written name ++ behind = '$' :: '\x7b' :: (name ++ '\x7d' :: behind) := by
      simp [written]
    rw [hsplit]
    simp only [leadingName?, List.takeWhile_append_of_pos hword, List.dropWhile_append_of_pos hword,
      List.takeWhile_cons, List.dropWhile_cons, hstop]
    simp [hne]

/-! ## Expanded texts -/

/-- What a variable is replaced by. -/
def Binding.text? : Binding → Option String
  | .empty => some ""
  | .text s => some s
  | .unbound | .other => none

inductive Expands (binding : String → Binding) : List Char → List Char → Prop
  | done : Expands binding [] []
  | kept {c : Char} {cs out : List Char}
    (hc : ∀ name behind, IsName name → c :: cs ≠ written name ++ behind)
    (h : Expands binding cs out) : Expands binding (c :: cs) (c :: out)
  | replaced {name behind out : List Char} {s : String} (hname : IsName name)
    (hs : (binding (String.ofList name)).text? = some s) (h : Expands binding behind out) :
    Expands binding (written name ++ behind) (s.toList ++ out)

section
variable {binding : String → Binding} {cs name : List Char}

theorem segments_of_leadingName {behind : List Char} (h : leadingName? cs = some (name, behind)) :
    segments cs = .inr name :: segments behind := by
  rw [segments]
  split
  · next n b hn =>
    cases hn.symm.trans h
    rfl
  · next hn => cases hn.symm.trans h

theorem segments_nil : segments [] = [] := by
  rw [segments]
  rfl

/-- A character that no variable opens with stands for itself. -/
theorem segments_cons {c : Char} (h : leadingName? (c :: cs) = none) :
    segments (c :: cs) = .inl c :: segments cs := by
  rw [segments]
  split
  · next hn => cases hn.symm.trans h
  · rfl

theorem mem_segments (h : .inr name ∈ segments cs) : Mentions cs name := by
  induction cs using segments.induct with
  | case1 cs n behind hn hlen ih =>
    obtain ⟨hname, rfl⟩ := leadingName?_eq_some.mp hn
    rw [segments_of_leadingName hn, List.mem_cons] at h
    rcases h with h | h
    · cases h
      exact ⟨hname, [], behind, rfl⟩
    · exact (ih h).append _
  | case2 =>
    rw [segments_nil] at h
    cases h
  | case3 c rest hn ih =>
    rw [segments_cons hn, List.mem_cons] at h
    rcases h with h | h
    · cases h
    · exact (ih h).cons c

/-- What the pieces of a text are replaced by, one after another. -/
def joined (binding : String → Binding) (pieces : List (Char ⊕ List Char)) : List Char :=
  pieces.flatMap fun
    | .inl c => [c]
    | .inr name => ((binding (String.ofList name)).text?.getD "").toList

theorem expands_joined (h : ∀ name, .inr name ∈ segments cs →
    (binding (String.ofList name)).text?.isSome = true) :
    Expands binding cs (joined binding (segments cs)) := by
  induction cs using segments.induct with
  | case1 cs n behind hn hlen ih =>
    obtain ⟨hname, rfl⟩ := leadingName?_eq_some.mp hn
    rw [segments_of_leadingName hn] at h ⊢
    obtain ⟨s, hs⟩ := Option.isSome_iff_exists.mp (h n (List.mem_cons_self ..))
    have hjoined : joined binding (.inr n :: segments behind) =
        s.toList ++ joined binding (segments behind) := by
      simp [joined, hs]
    rw [hjoined]
    exact .replaced hname hs (ih fun name hmem => h name (List.mem_cons_of_mem _ hmem))
  | case2 =>
    rw [segments_nil]
    exact .done
  | case3 c rest hn ih =>
    rw [segments_cons hn] at h ⊢
    refine .kept (fun name behind hname heq => ?_)
      (ih fun name hmem => h name (List.mem_cons_of_mem _ hmem))
    cases hn.symm.trans (leadingName?_eq_some.mpr ⟨hname, heq⟩)

theorem isSome_text? {b : Binding} (hbound : b ≠ .unbound) (htext : b ≠ .other) :
    b.text?.isSome = true := by
  cases b with
  | unbound => exact absurd rfl hbound
  | other => exact absurd rfl htext
  | empty | text => rfl

/-- A text is expanded, or it has a variable that stands for nothing that could be put there. -/
theorem expand_spec (binding : String → Binding) (s : String) :
    match expand binding s with
    | .ok t => Expands binding s.toList t.toList
    | .error (.unbound name) => Mentions s.toList name.toList ∧ binding name = .unbound
    | .error .notText => ∃ name, Mentions s.toList name.toList ∧ binding name = .other := by
  unfold expand
  dsimp only
  cases hunbound : ((segments s.toList).map _).find? _ with
  | some part =>
    obtain ⟨b, name⟩ := part
    have hb : b = .unbound := by simpa using List.find?_some hunbound
    obtain ⟨piece, hmem, hpiece⟩ := List.mem_map.mp (List.mem_of_find?_eq_some hunbound)
    cases piece with
    | inl c =>
      rw [hb] at hpiece
      cases hpiece
    | inr n =>
      cases hpiece
      refine ⟨?_, hb⟩
      rw [String.toList_ofList]
      exact mem_segments hmem
  | none =>
    have hbound : ∀ name, .inr name ∈ segments s.toList →
        binding (String.ofList name) ≠ .unbound := by
      intro name hmem hb
      have := List.find?_eq_none.mp hunbound _ (List.mem_map_of_mem hmem)
      simp [hb] at this
    dsimp only
    split_ifs with hother
    · obtain ⟨part, hpart, hb⟩ := List.any_eq_true.mp hother
      obtain ⟨piece, hmem, rfl⟩ := List.mem_map.mp hpart
      cases piece with
      | inl c => simp at hb
      | inr n =>
        refine ⟨String.ofList n, ?_, by simpa using hb⟩
        rw [String.toList_ofList]
        exact mem_segments hmem
    · have hsome : ∀ name, .inr name ∈ segments s.toList →
          (binding (String.ofList name)).text?.isSome = true := by
        refine fun name hmem => isSome_text? (hbound name hmem) fun hb => ?_
        exact absurd (List.any_eq_true.mpr ⟨_, List.mem_map_of_mem hmem, by simp [hb]⟩) hother
      convert expands_joined hsome using 1
      rw [String.toList_join, List.map_map, List.flatMap_map, joined]
      congr 1
      funext piece
      cases piece with
      | inl c => simp
      | inr n => cases hb : binding (String.ofList n) <;> simp [hb, Binding.text?]

end
end Variables
end Choreo
