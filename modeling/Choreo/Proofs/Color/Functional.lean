import Choreo.Color.Parse
import Choreo.Proofs.Text.Decimal

/-!
The loose functional notation.

A text of the form `rgb(…)` or `rgba(…)` has the text between its parentheses as body, and a text is
read by the parts of its body (`Color.parseText_call`). Commas and blanks keep parts apart wherever
they stand, so the arguments of a strict notation are parts as well (`Text.pieces_intercalate`,
`Text.pieces_stripWhere`).
-/

namespace Choreo

/-! ## Pieces -/

namespace Text
variable {p : Char → Bool}

theorem pieces_go_append {separator : Char} (hseparator : p separator = true)
    (front rest begun : List Char) :
    pieces.go p (front ++ separator :: rest) begun = pieces.go p front begun ++ pieces p rest := by
  induction front generalizing begun with
  | nil =>
    rw [List.nil_append, pieces.go, pieces.go, if_pos hseparator]
    split <;> rfl
  | cons c front ih =>
    rw [List.cons_append, pieces.go, pieces.go, ih, ih]
    split
    · split <;> rfl
    · rfl

/-- A text falls into the pieces before a separator and those behind it. -/
theorem pieces_append {separator : Char} (hseparator : p separator = true)
    (front rest : List Char) :
    pieces p (front ++ separator :: rest) = pieces p front ++ pieces p rest :=
  pieces_go_append hseparator front rest []

theorem pieces_intercalate {separator : Char} (hseparator : p separator = true)
    (texts : List (List Char)) :
    pieces p ([separator].intercalate texts) = texts.flatMap (pieces p) := by
  induction texts with
  | nil => rfl
  | cons text texts ih =>
    cases texts with
    | nil =>
      rw [List.intercalate_singleton, List.flatMap_cons, List.flatMap_nil, List.append_nil]
    | cons next texts =>
      rw [List.intercalate_cons_cons, List.append_assoc, List.singleton_append,
        pieces_append hseparator, ih, ← List.flatMap_cons]

theorem pieces_go_word {word : List Char} (hword : ∀ c ∈ word, p c = false)
    (begun : List Char) : pieces.go p word begun = pieces.go p [] (word.reverse ++ begun) := by
  induction word generalizing begun with
  | nil => rfl
  | cons c word ih =>
    have hstep : pieces.go p (c :: word) begun = pieces.go p word (c :: begun) := by
      rw [pieces.go, hword c List.mem_cons_self, if_neg Bool.false_ne_true]
    rw [hstep, ih (fun d hd => hword d (List.mem_cons_of_mem c hd)), List.reverse_cons,
      List.append_assoc]
    rfl

theorem pieces_word {word : List Char} (hword : ∀ c ∈ word, p c = false) (hne : word ≠ []) :
    pieces p word = [word] := by
  rw [pieces, pieces_go_word hword, List.append_nil, pieces.go,
    List.isEmpty_eq_false_iff.mpr (mt List.reverse_eq_nil_iff.mp hne), List.reverse_reverse]
  rfl

/-! ### Separators at the ends -/

theorem pieces_append_left {front : List Char} (hfront : ∀ c ∈ front, p c = true)
    (rest : List Char) : pieces p (front ++ rest) = pieces p rest := by
  induction front with
  | nil => rfl
  | cons c front ih =>
    rw [List.cons_append, ← List.nil_append (c :: _), pieces_append (hfront c List.mem_cons_self)]
    exact ih fun d hd => hfront d (List.mem_cons_of_mem c hd)

theorem pieces_append_right {rest : List Char} (hrest : ∀ c ∈ rest, p c = true)
    (front : List Char) : pieces p (front ++ rest) = pieces p front := by
  cases rest with
  | nil => rw [List.append_nil]
  | cons c rest =>
    have hnone := pieces_append_left (fun d hd => hrest d (List.mem_cons_of_mem c hd)) []
    rw [List.append_nil] at hnone
    rw [pieces_append (hrest c List.mem_cons_self), hnone]
    exact List.append_nil _

/-- What is taken off the ends of a text. -/
theorem exists_stripWhere (q : Char → Bool) (cs : List Char) :
    ∃ front back, cs = front ++ stripWhere q cs ++ back ∧ (∀ c ∈ front, q c = true) ∧
      ∀ c ∈ back, q c = true := by
  have hback : cs.dropWhile q =
      stripWhere q cs ++ ((cs.dropWhile q).reverse.takeWhile q).reverse := by
    rw [stripWhere, ← List.reverse_append, List.takeWhile_append_dropWhile, List.reverse_reverse]
  refine ⟨cs.takeWhile q, ((cs.dropWhile q).reverse.takeWhile q).reverse, ?_, ?_, ?_⟩
  · rw [List.append_assoc, ← hback, List.takeWhile_append_dropWhile]
  · exact fun c hc => List.mem_takeWhile_imp hc
  · exact fun c hc => List.mem_takeWhile_imp (List.mem_reverse.mp hc)

theorem pieces_stripWhere {q : Char → Bool} (hq : ∀ c, q c = true → p c = true)
    (cs : List Char) : pieces p (stripWhere q cs) = pieces p cs := by
  obtain ⟨front, back, hcs, hfront, hback⟩ := exists_stripWhere q cs
  rw [List.append_assoc] at hcs
  calc pieces p (stripWhere q cs)
      = pieces p (stripWhere q cs ++ back) :=
      (pieces_append_right (fun c hc => hq c (hback c hc)) _).symm
    _ = pieces p (front ++ (stripWhere q cs ++ back)) :=
      (pieces_append_left (fun c hc => hq c (hfront c hc)) _).symm
    _ = pieces p cs := by rw [← hcs]

theorem strip_of_ends {cs : List Char} (hfirst : ∀ c ∈ cs.head?, isBlank c = false)
    (hlast : ∀ c ∈ cs.getLast?, isBlank c = false) : strip cs = cs := by
  have hdrop : ∀ {cs : List Char}, (∀ c ∈ cs.head?, isBlank c = false) →
      cs.dropWhile isBlank = cs := by
    intro cs hcs
    cases cs with
    | nil => rfl
    | cons c cs =>
      rw [List.dropWhile_cons_of_neg]
      rw [hcs c rfl]
      exact Bool.false_ne_true
  rw [strip, stripWhere, hdrop hfirst, hdrop, List.reverse_reverse]
  rwa [List.head?_reverse]

end Text

namespace Color

/-! ## Parts -/

/-- What keeps parts apart. -/
def isSeparator (c : Char) : Bool := Text.isBlank c || c == ',' || c == '/'

theorem isSeparator_of_isPlain {part : List Char} (h : Text.IsPlain part) :
    ∀ c ∈ part, isSeparator c = false := by
  intro c hc
  rcases h c hc with hdigit | rfl | rfl
  · have hother : ∀ d, Text.isDigit d = false → c ≠ d := by
      rintro d hd rfl
      rw [hdigit] at hd
      cases hd
    rw [isSeparator, Text.isBlank_of_isDigit hdigit,
      beq_eq_false_iff_ne.mpr (hother ',' (by decide)),
      beq_eq_false_iff_ne.mpr (hother '/' (by decide))]
    rfl
  · decide
  · decide

theorem functionalParts_eq (body : List Char) :
    functionalParts body = Text.pieces isSeparator body := rfl

/-! ## Bodies -/

/-- What opens a call of the loose notation. -/
def loosePrefixes : List String := ["rgb(", "rgba("]

theorem functionalBody?_call {opening : String} (hopening : opening ∈ loosePrefixes)
    {body : List Char} (hbody : ')' ∉ body) (hne : body ≠ []) (rest : List Char) :
    functionalBody? (opening.toList ++ body ++ ')' :: rest) = some body := by
  have hinside : ∀ c ∈ body, (c != ')') = true := by
    intro c hc
    refine bne_iff_ne.mpr ?_
    rintro rfl
    exact hbody hc
  have htake : (body ++ ')' :: rest).takeWhile (· != ')') = body := by
    rw [List.takeWhile_append_of_pos hinside]
    exact List.append_nil body
  have hdrop : (body ++ ')' :: rest).dropWhile (· != ')') = ')' :: rest := by
    rw [List.dropWhile_append_of_pos hinside]
    rfl
  have hfull : body.isEmpty = false := List.isEmpty_eq_false_iff.mpr hne
  rcases List.mem_pair.mp hopening with rfl | rfl
  · show functionalBody? ('r' :: 'g' :: 'b' :: '(' :: (body ++ ')' :: rest)) = some body
    simp [functionalBody?, htake, hdrop, hfull]
  · show functionalBody? ('r' :: 'g' :: 'b' :: 'a' :: '(' :: (body ++ ')' :: rest)) = some body
    simp [functionalBody?, htake, hdrop, hfull]

/-- A place where no call opens is passed over. -/
theorem functionalBody?_cons {c : Char} {rest : List Char}
    (hopening : ∀ opening ∈ loosePrefixes, ¬opening.toList <+: c :: rest) :
    functionalBody? (c :: rest) = functionalBody? rest := by
  have hthree : ∀ r, c :: rest ≠ 'r' :: 'g' :: 'b' :: '(' :: r :=
    fun r h => hopening "rgb(" (by simp [loosePrefixes]) (h ▸ ⟨r, rfl⟩)
  have hfour : ∀ r, c :: rest ≠ 'r' :: 'g' :: 'b' :: 'a' :: '(' :: r :=
    fun r h => hopening "rgba(" (by simp [loosePrefixes]) (h ▸ ⟨r, rfl⟩)
  rw [functionalBody?]
  split
  · next h => exact absurd h (hthree _)
  · next h => exact absurd h (hfour _)
  · rfl

theorem drop_of_loosePrefix {opening : String} (hopening : opening ∈ loosePrefixes) {cs : List Char}
    (h : opening.toList <+: cs) : '(' ∈ cs.drop 3 ∧ (opening = "rgb(" ∨ '(' ∈ cs.drop 4) := by
  obtain ⟨rest, rfl⟩ := h
  rcases List.mem_pair.mp hopening with rfl | rfl
  · exact ⟨List.mem_cons_self, .inl rfl⟩
  · exact ⟨List.mem_cons_of_mem 'a' List.mem_cons_self, .inr List.mem_cons_self⟩

/-- A call opens with a parenthesis behind three letters at least. -/
theorem functionalBody?_of_not_mem {cs : List Char} (h : '(' ∉ cs.drop 3) :
    functionalBody? cs = none := by
  induction cs with
  | nil => rfl
  | cons c rest ih =>
    rw [functionalBody?_cons fun _ hopening hopened => h (drop_of_loosePrefix hopening hopened).1]
    refine ih fun hmem => h ?_
    rw [List.drop_succ_cons] at h ⊢
    exact List.drop_subset_drop_left rest (by decide) hmem

theorem functionalBody?_of_not_opened {cs : List Char} (hopened : ¬"rgb(".toList <+: cs)
    (h : '(' ∉ cs.drop 4) : functionalBody? cs = none := by
  cases cs with
  | nil => rfl
  | cons c rest =>
    rw [functionalBody?_cons, functionalBody?_of_not_mem h]
    intro opening hopening hother
    rcases (drop_of_loosePrefix hopening hother).2 with rfl | hmem
    · exact hopened hother
    · exact h hmem

/-! ## Texts -/

section
variable {α : Type} [Scalar α]

/-- A text with a body of three parts or more is read by them. -/
theorem parseText_of_body {cs body r g b : List Char} {rest : List (List Char)}
    (hstrip : Text.strip cs = cs) (hbody : functionalBody? cs = some body)
    (hparts : functionalParts body = r :: g :: b :: rest) :
    (parseText cs : Except NumberFault (Color α)) = orTransparent (ofParts r g b rest) := by
  have hnone : ¬(cs.isEmpty = true ∨ cs = "transparent".toList) := by
    rintro (hempty | rfl)
    · rw [List.isEmpty_iff.mp hempty] at hbody
      cases hbody
    · have hword : functionalBody? "transparent".toList = none := by decide
      rw [hword] at hbody
      cases hbody
  rw [parseText, hstrip]
  simp only [if_neg hnone, hbody, Option.map_some, hparts]

theorem parseText_call {opening : String} (hopening : opening ∈ loosePrefixes)
    {body r g b : List Char} {rest : List (List Char)} (hbody : ')' ∉ body)
    (hparts : functionalParts body = r :: g :: b :: rest) :
    (parseText (opening.toList ++ body ++ [')']) : Except NumberFault (Color α)) =
      orTransparent (ofParts r g b rest) := by
  have hne : body ≠ [] := by
    rintro rfl
    cases hparts
  refine parseText_of_body (Text.strip_of_ends ?_ ?_) (functionalBody?_call hopening hbody hne [])
    hparts
  · rcases List.mem_pair.mp hopening with rfl | rfl
    · rintro c ⟨⟩
      decide
    · rintro c ⟨⟩
      decide
  · rw [List.getLast?_concat]
    rintro c ⟨⟩
    decide

end

end Color
end Choreo
