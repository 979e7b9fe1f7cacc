import Choreo.Token.Value

/-!
The keys of properties.

A token animates one of finitely many properties, and what it gives is kept under the key of the
property. The key tells the measure: colors have keys of their own (`Token.key_mem_colorKeys_iff`).
-/

namespace Choreo
namespace Token

/-- The keys that colors are kept under. -/
def colorKeys : List String :=
  ["color", "backgroundColor", "borderColor", "--tw-gradient-from", "--tw-gradient-via",
    "--tw-gradient-to"]

/-- All properties that a token can animate. -/
def properties : List Property :=
  ⟨"fontSize", .rem⟩ :: ⟨"borderColor", .color⟩ :: (bare ++ table).map (·.2)

/-- The longest entry of a list is one of its entries, or the one that was best before. -/
theorem foldl_longest_mem (l : List (String × Property)) {best : Option (String × Property)}
    {entry : String × Property}
    (h : l.foldl (fun best entry =>
      if best.any fun b => entry.1.length ≤ b.1.length then best else some entry) best =
        some entry) :
    entry ∈ l ∨ best = some entry := by
  induction l generalizing best with
  | nil => exact .inr h
  | cons x l ih =>
    rcases ih h with hl | hbest
    · exact .inl (List.mem_cons_of_mem x hl)
    · dsimp only at hbest
      split at hbest
      · exact .inr hbest
      · obtain rfl := Option.some.inj hbest
        exact .inl List.mem_cons_self

theorem longestMatch?_mem {cs : List Char} {entry : String × Property}
    (h : longestMatch? cs = some entry) : entry ∈ table :=
  (foldl_longest_mem _ h).elim (fun hentry => (List.mem_filter.mp hentry).1) nofun

theorem property?_mem {token : List Char} {p : Property} (h : property? token = some p) :
    p ∈ properties := by
  unfold property? at h
  dsimp only at h
  split at h
  · next q hbare =>
    obtain rfl := Option.some.inj h
    obtain ⟨before, after, heq, -⟩ := List.lookup_eq_some_iff.mp hbare
    have hmem : (String.ofList (withoutMinus token), q) ∈ bare ++ table := by
      rw [heq]
      simp
    exact List.mem_cons_of_mem _ (List.mem_cons_of_mem _ (List.mem_map_of_mem hmem))
  · obtain ⟨⟨start, q⟩, hmatch, hq⟩ := Option.map_eq_some_iff.mp h
    have hmem := List.mem_append_right bare (longestMatch?_mem hmatch)
    dsimp only at hq
    split at hq
    · exact hq ▸ List.mem_cons_self
    · split at hq
      · exact hq ▸ List.mem_cons_of_mem _ List.mem_cons_self
      · exact hq ▸ List.mem_cons_of_mem _ (List.mem_cons_of_mem _ (List.mem_map_of_mem hmem))

/-- A key is the name of its property, but for the two that are shared by two channels. -/
theorem key_cases (property : String) (token : List Char) :
    (key property token = property ∧ property ≠ "translate" ∧ property ≠ "filter") ∨
      (property = "translate" ∧ key property token ∈ ["translateX", "translateY"]) ∨
      (property = "filter" ∧ key property token ∈ ["brightness", "blur"]) := by
  unfold key
  by_cases ht : property = "translate"
  · rw [if_pos ht]
    refine .inr (.inl ⟨ht, ?_⟩)
    split <;> simp
  · rw [if_neg ht]
    by_cases hf : property = "filter"
    · rw [if_pos hf]
      refine .inr (.inr ⟨hf, ?_⟩)
      split <;> simp
    · rw [if_neg hf]
      exact .inl ⟨rfl, ht, hf⟩

theorem key_mem_colorKeys_iff {p : Property} (hp : p ∈ properties) (token : List Char) :
    key p.name token ∈ colorKeys ↔ p.measure = .color := by
  have hname : ∀ p ∈ properties, p.name ∈ colorKeys ↔ p.measure = .color := by decide +kernel
  rw [← hname p hp]
  rcases key_cases p.name token with ⟨hkey, -⟩ | ⟨hshared, hkey⟩ | ⟨hshared, hkey⟩
  · rw [hkey]
  · have hneither : ∀ k ∈ ["translateX", "translateY"], k ∉ colorKeys := by decide
    exact iff_of_false (hneither _ hkey) (by rw [hshared]; decide)
  · have hneither : ∀ k ∈ ["brightness", "blur"], k ∉ colorKeys := by decide
    exact iff_of_false (hneither _ hkey) (by rw [hshared]; decide)

theorem key_spelled {p : Property} (hp : p ∈ properties) (token : List Char) :
    key p.name token ≠ "" ∧ key p.name token ≠ "textContent" := by
  have hname : ∀ p ∈ properties, p.name ≠ "" ∧ p.name ≠ "textContent" := by decide +kernel
  rcases key_cases p.name token with ⟨hkey, -⟩ | ⟨-, hkey⟩ | ⟨-, hkey⟩
  · rw [hkey]
    exact hname p hp
  · have hspelled : ∀ k ∈ ["translateX", "translateY"], k ≠ "" ∧ k ≠ "textContent" := by decide
    exact hspelled _ hkey
  · have hspelled : ∀ k ∈ ["brightness", "blur"], k ≠ "" ∧ k ≠ "textContent" := by decide
    exact hspelled _ hkey

section
variable {α : Type} [Scalar α] {token : List Char} {d : Descriptor α}

theorem property?_of_describe? (h : describe? token = .ok (some d)) :
    property? token = some d.property ∧ d.token = token := by
  unfold describe? at h
  split at h
  · cases h
  · next p hp =>
    split at h
    · cases h
      exact ⟨hp, rfl⟩
    · rcases hv : (value token : Except NumberFault (Quantity α)) with e | q
      · rw [hv] at h
        cases h
      · rcases hr : q.toReal with e | x
        · simp only [hv, bind, Except.bind, hr] at h
          cases h
        · simp only [hv, bind, Except.bind, hr] at h
          cases h
          exact ⟨hp, rfl⟩

theorem property_of_describe? (h : describe? token = .ok (some d)) :
    d.property ∈ properties ∧ d.token = token :=
  (property?_of_describe? h).imp_left property?_mem

end

end Token
end Choreo
