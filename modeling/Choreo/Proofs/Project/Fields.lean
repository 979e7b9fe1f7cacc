import Choreo.Project.Manifest
import Choreo.Proofs.Number.Worth
import Choreo.Proofs.Project.Expanded
import Choreo.Proofs.Yaml.Shown

/-!
What each field of a manifest comes to.

A manifest is checked field by field, each field in its own way, and a field that is not there has a
usual value. Every lemma here says of one field which values pass and which faults there are:
refusals of a value that is wrong (`Refusal`), and slips, which do not say what is wrong (`Slip`).
Passing does not always mean being in range, for a number that is not one passes as well.
-/

namespace Choreo

open Yaml

namespace Quantity

def IsAbove : Quantity Float → Prop
  | .whole n => 0 < n
  | .real x => 0 < x

instance : DecidablePred IsAbove
  | .whole n => inferInstanceAs (Decidable (0 < n))
  | .real x => inferInstanceAs (Decidable (0 < x))

/-- Nought or above. -/
def IsNonneg : Quantity Float → Prop
  | .whole n => 0 ≤ n
  | .real x => 0 ≤ x

def IsNan : Quantity Float → Prop
  | .whole _ => False
  | .real x => Exact.ofFloat x = .nan

end Quantity

namespace Manifest

/-! ## What a document says -/

section
variable (c : Contents Float)

/-- The fields of a document. One that is no mapping has none. -/
def fieldsOf : List (Atom Float × Datum Float) := (c.entries? c.whole).getD []

def field (name : String) : Datum Float := (Entries.get? name (fieldsOf c)).getD .null

def scenesIn : Datum Float :=
  (Entries.get? "scenes_dir" (fieldsOf c)).getD (.text usualScenesFolder)

def pathsIn : List (Atom Float × Datum Float) := (c.entries? (field c "paths")).getD []

/-- The number of a field, or the usual one where there is no field. -/
def said (usual : Quantity Float) : Option (Datum Float) → Option (Quantity Float)
  | none => some usual
  | some d => quantity? d

/-- A datum as a text whose variables are replaced by the paths. -/
def Expanded (d : Datum Float) (t : String) : Prop :=
  ∃ s, c.plain d = .ok s ∧ Variables.Expands (binding (pathsIn c)) s.toList t.toList

/-- A list or a pair of two whole numbers above nought. -/
def IsSize (d : Datum Float) (width height : Int) : Prop :=
  (d = .pair (.atom (.number (.whole width))) (.atom (.number (.whole height))) ∨
    ∃ n, d = .collection n ∧ c.collection n =
      .list [.atom (.number (.whole width)), .atom (.number (.whole height))]) ∧
  0 < width ∧ 0 < height

/-- A manifest that says what the document says, or the usual where the document says nothing. -/
structure Follows (root : Path) (m : Manifest Float) : Prop where
  rooted : m.root = root
  video : videoOf c (field c "video") = .ok m.video
  fps : said usualFps (Entries.get? "fps" m.video) = some m.fps
  size : Entries.get? "resolution" m.video = none ∧
      (m.width, m.height) = (usualWidth, usualHeight) ∨
    ∃ d, Entries.get? "resolution" m.video = some d ∧ IsSize c d m.width m.height
  paths : m.paths = pathsIn c
  scenes : ∃ t, Expanded c (scenesIn c) t ∧ m.scenesFolder = root.child t
  audio : field c "audio" = .null ∧ m.audio = none ∨
    field c "audio" ≠ .null ∧ ∃ t, Expanded c (field c "audio") t ∧ m.audio = some t
  fallback : ∃ q, said usualFallback (Entries.get? "fallback_duration" (fieldsOf c)) = some q ∧
    q.toReal = .ok m.fallback

/-! ### What can be wrong with a document -/

/-- A datum in a field of what is said about the picture. -/
def InVideo (name : String) (d : Datum Float) : Prop :=
  ∃ video, videoOf c (field c "video") = .ok video ∧ Entries.get? name video = some d

/-- A frame rate, a size or a duration that is out of range or no such thing. -/
inductive Wrong : Datum Float → Prop
  | fps {d : Datum Float} (hd : InVideo c "fps" d) (h : ∀ q, quantity? d = some q → ¬q.IsAbove) :
    Wrong d
  | size {d : Datum Float} (hd : InVideo c "resolution" d) (h : ∀ w h, ¬IsSize c d w h) : Wrong d
  | fallback {d : Datum Float} (hd : Entries.get? "fallback_duration" (fieldsOf c) = some d)
    (h : ∀ q, quantity? d = some q → ¬q.IsNonneg) : Wrong d

/-- A datum that is read as a text with variables. -/
def IsText (d : Datum Float) : Prop := d = scenesIn c ∨ d = field c "audio"

/-- What is said about the picture can be read as pairs: it is empty or a mapping, or its parts have
parts, and a part of two has a key first. -/
def HasPairs (d : Datum Float) : Prop :=
  c.isTruthy d = false ∨ (c.entries? d).isSome ∨
    ∃ items, parts? c d = some items ∧
      ∀ x ∈ items, ∃ xs, parts? c x = some xs ∧ ∀ k v, xs = [k, v] → k.key?.isSome

/-- Faults that say what is wrong with a value, with the documents they come from. -/
inductive Refusal : ManifestFault → Prop
  | notMapping (htruthy : c.isTruthy c.whole = true) (h : c.entries? c.whole = none) :
    Refusal .notMapping
  | notPair {items xs : List (Datum Float)} {i : Nat} {x : Datum Float}
    (hitems : parts? c (field c "video") = some items) (hx : items[i]? = some x)
    (hxs : parts? c x = some xs) (hlength : xs.length ≠ 2) : Refusal (.notPair i xs.length)
  | fps {d : Datum Float} {s : String} (hd : InVideo c "fps" d)
    (h : ∀ q, quantity? d = some q → ¬q.IsAbove) (hs : c.shown d = .ok s) : Refusal (.fps s)
  | size {d : Datum Float} {s : String} (hd : InVideo c "resolution" d)
    (h : ∀ w h, ¬IsSize c d w h) (hs : c.shown d = .ok s) : Refusal (.resolution s)
  | paths (htruthy : c.isTruthy (field c "paths") = true)
    (h : c.entries? (field c "paths") = none) : Refusal .paths
  | unbound {d : Datum Float} {s name : String} (hd : IsText c d) (hs : c.plain d = .ok s)
    (hname : Variables.Mentions s.toList name.toList)
    (hx : Entries.get? name (pathsIn c) = none) : Refusal (.unexpanded (.unbound name))
  | fallback {d : Datum Float} {s : String}
    (hd : Entries.get? "fallback_duration" (fieldsOf c) = some d)
    (h : ∀ q, quantity? d = some q → ¬q.IsNonneg) (hs : c.shown d = .ok s) : Refusal (.fallback s)
  | tooLong {d : Datum Float} (h : Wrong c d ∧ c.shown d = .error (.number .tooLong) ∨
      IsText c d ∧ c.plain d = .error (.number .tooLong)) : Refusal (.unshown (.number .tooLong))

/-- Faults that do not say what is wrong with a value, with the documents they come from. -/
inductive Slip : ManifestFault → Prop
  | notPairs (h : ¬HasPairs c (field c "video")) : Slip .notPairs
  | notText {d x : Datum Float} {s name : String} (hd : IsText c d) (hs : c.plain d = .ok s)
    (hname : Variables.Mentions s.toList name.toList)
    (hx : Entries.get? name (pathsIn c) = some x)
    (hnull : x ≠ .null) (htext : ∀ t, x ≠ .text t) : Slip (.unexpanded .notText)
  | overflow {n : Int}
    (h : Entries.get? "fallback_duration" (fieldsOf c) = some (.atom (.number (.whole n))))
    (hn : Binary64.overflowBound ≤ n) : Slip (.number .overflow)
  | tooDeep {d : Datum Float} (hd : Wrong c d ∨ IsText c d)
    (h : c.Nests (Contents.shownLimit - 1) [] d) : Slip (.unshown .tooDeep)

/-- A fault with a document that it comes from. -/
def Faulty (f : ManifestFault) : Prop := Refusal c f ∨ Slip c f

end

/-! ## The fields in order

The manifest with its choices made before the next field is read, each by a function of its own. -/

section
variable {α β γ : Type}

/-- A field that is read if it is there, and has a usual value. -/
def orUsual (usual : β) (read : Datum α → Except ManifestFault β) :
    Option (Datum α) → Except ManifestFault β
  | some d => read d
  | none => .ok usual

theorem orUsual_bind {usual : β} {read : Datum α → Except ManifestFault β}
    {k k' : β → Except ManifestFault γ} {o : Option (Datum α)} (h : ∀ b, k b = k' b) :
    (match o with
      | some d => read d >>= k
      | none => pure usual >>= k) = orUsual usual read o >>= k' := by
  cases o with
  | some d => exact bind_congr h
  | none => exact h usual

variable [Scalar α]

/-- The fields of a document that is a mapping or empty. -/
def readFields (c : Contents α) : Except ManifestFault (List (Atom α × Datum α)) :=
  if c.isTruthy c.whole then
    match c.entries? c.whole with
    | some entries => .ok entries
    | none => .error .notMapping
  else .ok []

theorem readFields_bind {c : Contents α}
    {k k' : List (Atom α × Datum α) → Except ManifestFault β} (h : ∀ fields, k fields = k' fields) :
    (if c.isTruthy c.whole then
      match c.entries? c.whole with
      | some entries => pure entries >>= k
      | none => throw .notMapping >>= k
    else pure [] >>= k) = readFields c >>= k' := by
  unfold readFields
  split
  · cases c.entries? c.whole with
    | some entries => exact h entries
    | none => rfl
  · exact h []

/-- The sound track, if there is one. -/
def readAudio (c : Contents α) (paths : List (Atom α × Datum α)) :
    Datum α → Except ManifestFault (Option String)
  | .atom .null => .ok none
  | d => some <$> expand c paths d

theorem readAudio_bind {c : Contents α} {paths : List (Atom α × Datum α)} {d : Datum α}
    {k k' : Option String → Except ManifestFault β} (h : ∀ audio, k audio = k' audio) :
    (match d with
      | .atom .null => pure none >>= k
      | d => (some <$> expand c paths d) >>= k) = readAudio c paths d >>= k' := by
  unfold readAudio
  split
  · exact h none
  · exact bind_congr h

theorem ofContents_eq (root : Path) (c : Contents α) :
    ofContents root c = do
      let fields ← readFields c
      let field := fun (name : String) => (Entries.get? name fields).getD .null
      let video ← videoOf c (field "video")
      let fps ← orUsual usualFps (fpsOf c) (Entries.get? "fps" video)
      let size ← orUsual (usualWidth, usualHeight) (resolutionOf c)
        (Entries.get? "resolution" video)
      let paths ← pathsOf c (field "paths")
      let folder ← expand c paths
        ((Entries.get? "scenes_dir" fields).getD (.text usualScenesFolder))
      let audio ← readAudio c paths (field "audio")
      let fallback ← orUsual usualFallback (fallbackOf c) (Entries.get? "fallback_duration" fields)
      return {
        root := root, fps := fps, width := size.1, height := size.2, video := video, paths := paths,
        scenesFolder := root.child folder, audio := audio,
        fallback := ← fallback.toReal.mapError .number } := by
  unfold ofContents
  -- What follows a choice stays under its name, so that no branch holds a copy of it.
  extract_lets afterFields
  refine readFields_bind fun fields => ?_
  dsimp -zeta only [afterFields]
  extract_lets field
  refine bind_congr fun video => ?_
  extract_lets afterFps
  refine orUsual_bind fun fps => ?_
  dsimp -zeta only [afterFps]
  extract_lets afterSize
  refine orUsual_bind fun size => ?_
  dsimp -zeta only [afterSize]
  refine bind_congr fun paths => ?_
  extract_lets
  refine bind_congr fun folder => ?_
  extract_lets afterAudio
  refine readAudio_bind fun audio => ?_
  dsimp -zeta only [afterAudio]
  extract_lets
  exact orUsual_bind fun fallback => rfl

end

/-! ## What each field comes to -/

section
variable {α : Type} [Scalar α] {c : Contents α} {d : Datum α}

theorem entries_of_falsy (h : c.isTruthy d = false) :
    (c.entries? d).getD [] = [] := by
  cases d with
  | atom a => rfl
  | pair a b => rfl
  | collection n =>
    unfold Contents.isTruthy at h
    unfold Contents.entries?
    dsimp only at h ⊢
    cases hc : c.collection n with
    | list items => rfl
    | set members => rfl
    | mapping entries =>
      rw [hc] at h
      simpa using h

/-- A datum that has to be a mapping or empty. -/
theorem mapping_ends {f : ManifestFault} {Q : ManifestFault → Prop}
    (hf : c.isTruthy d = true → c.entries? d = none → Q f) :
    Ends (· = (c.entries? d).getD []) Q
      (if c.isTruthy d then
        match c.entries? d with
        | some entries => .ok entries
        | none => .error f
      else .ok []) := by
  split
  · next htruthy =>
    cases hentries : c.entries? d with
    | some entries => rfl
    | none => exact hf htruthy hentries
  · next h => exact (entries_of_falsy (by simpa using h)).symm

end

section
variable {c : Contents Float}

theorem refused_faulty {d : Datum Float} (hwrong : Wrong c d) {fault : String → ManifestFault}
    (hfault : ∀ s, c.shown d = .ok s → Refusal c (fault s)) : Faulty c (refused c d fault) := by
  have hshown := c.shown_failsBy d
  unfold refused
  cases hs : c.shown d with
  | ok s => exact .inl (hfault s hs)
  | error e =>
    rw [hs] at hshown
    cases hshown with
    | tooLong => exact .inl (.tooLong (.inl ⟨hwrong, hs⟩))
    | tooDeep h => exact .inr (.tooDeep (.inl hwrong) (h.mono (Nat.sub_le _ _)))

theorem readFields_ends : Ends (· = fieldsOf c) (Faulty c) (readFields c) :=
  mapping_ends (f := .notMapping) fun htruthy h => .inl (.notMapping htruthy h)

theorem pathsOf_ends : Ends (· = pathsIn c) (Faulty c) (pathsOf c (field c "paths")) :=
  mapping_ends (f := .paths) fun htruthy h => .inl (.paths htruthy h)

/-! ### The picture -/

/-- Parts that are not pairs of a key and a datum are refused by their length, unless one has no
parts or no key. -/
theorem entriesOf_failsBy (items : List (Datum Float)) (position : Nat)
    (entries : List (Atom Float × Datum Float)) :
    FailsBy
      (fun f => (∃ (i : Nat) (x : Datum Float) (xs : List (Datum Float)), items[i]? = some x ∧
          parts? c x = some xs ∧ xs.length ≠ 2 ∧ f = .notPair (position + i) xs.length) ∨
        f = .notPairs ∧
          ∃ x ∈ items, ∀ xs, parts? c x = some xs → ∃ k v, xs = [k, v] ∧ k.key? = none)
      (entriesOf c position entries items) := by
  induction items generalizing position entries with
  | nil => trivial
  | cons d rest ih =>
    unfold entriesOf
    split
    · next h => exact .inr ⟨rfl, d, List.mem_cons_self .., by simp [h]⟩
    · next k x h =>
      cases hk : k.key? with
      | some key =>
        refine (ih _ _).imp fun f hf => ?_
        rcases hf with ⟨i, x, xs, hx, hxs, hlength, rfl⟩ | ⟨rfl, x, hx, hbad⟩
        · exact .inl ⟨i + 1, x, xs, hx, hxs, hlength, by rw [Nat.add_assoc, Nat.add_comm 1]⟩
        · exact .inr ⟨rfl, x, List.mem_cons_of_mem _ hx, hbad⟩
      | none =>
        refine .inr ⟨rfl, d, List.mem_cons_self .., fun xs hxs => ⟨k, x, ?_, hk⟩⟩
        cases h.symm.trans hxs
        rfl
    · next xs hne h =>
      refine .inl ⟨0, d, xs, rfl, h, fun hlength => ?_, rfl⟩
      obtain ⟨k, x, rfl⟩ := List.length_eq_two.mp hlength
      exact hne k x rfl

/-- What is not empty and no mapping has pairs only if its parts are pairs. -/
theorem HasPairs.exists_parts {d : Datum Float} (h : HasPairs c d) (htruthy : c.isTruthy d = true)
    (hentries : c.entries? d = none) :
    ∃ items, parts? c d = some items ∧
      ∀ x ∈ items, ∃ xs, parts? c x = some xs ∧ ∀ k v, xs = [k, v] → k.key?.isSome := by
  rcases h with hfalsy | hsome | hparts
  · simp [hfalsy] at htruthy
  · simp [hentries] at hsome
  · exact hparts

theorem videoOf_failsBy : FailsBy (Faulty c) (videoOf c (field c "video")) := by
  unfold videoOf
  split
  · next htruthy =>
    cases hentries : c.entries? (field c "video") with
    | some entries => trivial
    | none =>
      cases hparts : parts? c (field c "video") with
      | some items =>
        refine (entriesOf_failsBy items 0 []).imp fun f hf => ?_
        rcases hf with ⟨i, x, xs, hx, hxs, hlength, rfl⟩ | ⟨rfl, x, hx, hbad⟩
        · rw [Nat.zero_add]
          exact .inl (.notPair hparts hx hxs hlength)
        · refine .inr (.notPairs fun hpairs => ?_)
          obtain ⟨items', hitems, hgood⟩ := hpairs.exists_parts htruthy hentries
          cases hparts.symm.trans hitems
          obtain ⟨xs, hxs, hkey⟩ := hgood x hx
          obtain ⟨k, v, hkv, hnone⟩ := hbad xs hxs
          simpa [hnone] using hkey k v hkv
      | none =>
        refine .inr (.notPairs fun hpairs => ?_)
        obtain ⟨items, hitems, -⟩ := hpairs.exists_parts htruthy hentries
        cases hparts.symm.trans hitems
  · trivial

theorem zero_eq : (Scalar.zero : Float) = 0 := Binary64.ofRat_zero

theorem isAbove_or_isNan {q : Quantity Float} (h : isPositive q = true) : q.IsAbove ∨ q.IsNan := by
  cases q with
  | whole n => exact .inl (of_decide_eq_true (p := 0 < n) h)
  | real x =>
    have hx : ¬x ≤ (Scalar.zero : Float) := by simpa [isPositive] using h
    rw [zero_eq] at hx
    by_cases hnan : Exact.ofFloat x = .nan
    · exact .inr hnan
    · exact .inl (Binary64.zero_lt_of_not_le hnan hx)

theorem not_isAbove {q : Quantity Float} (h : isPositive q = false) : ¬q.IsAbove := by
  cases q with
  | whole n => exact of_decide_eq_false (p := 0 < n) h
  | real x =>
    have hx : x ≤ (Scalar.zero : Float) := by simpa [isPositive] using h
    rw [zero_eq] at hx
    exact Binary64.not_zero_lt_of_le hx

theorem positive?_eq_some {d : Datum Float} {n : Int} :
    positive? d = some n ↔ d = .atom (.number (.whole n)) ∧ 0 < n := by
  constructor
  · intro h
    unfold positive? at h
    split at h
    · split_ifs at h with hpos
      cases h
      exact ⟨rfl, hpos⟩
    · cases h
  · rintro ⟨rfl, hpos⟩
    exact if_pos hpos

theorem sides_eq_some {a b : Datum Float} {s : Int × Int} :
    (do return (← positive? a, ← positive? b)) = some s ↔
      a = .atom (.number (.whole s.1)) ∧ b = .atom (.number (.whole s.2)) ∧ 0 < s.1 ∧ 0 < s.2 := by
  simp only [Option.bind_eq_bind, Option.bind_eq_some_iff, positive?_eq_some]
  constructor
  · rintro ⟨m, ⟨rfl, hm⟩, n, ⟨rfl, hn⟩, hsize⟩
    cases hsize
    exact ⟨rfl, rfl, hm, hn⟩
  · rintro ⟨rfl, rfl, hm, hn⟩
    exact ⟨_, ⟨rfl, hm⟩, _, ⟨rfl, hn⟩, rfl⟩

theorem resolutionOf_ends (d : Datum Float) :
    Ends (fun size => IsSize c d size.1 size.2)
      (fun f => f = refused c d .resolution ∧ ∀ w h, ¬IsSize c d w h) (resolutionOf c d) := by
  unfold resolutionOf
  dsimp only
  split
  · next size hsize =>
    split at hsize
    · next n =>
      split at hsize
      · next a b hc =>
        obtain ⟨rfl, rfl, hpos⟩ := sides_eq_some.mp hsize
        exact ⟨.inr ⟨n, rfl, hc⟩, hpos⟩
      · cases hsize
    · next a b =>
      obtain ⟨rfl, rfl, hpos⟩ := sides_eq_some.mp hsize
      exact ⟨.inl rfl, hpos⟩
    · cases hsize
  · next hnone =>
    refine ⟨rfl, fun w h hsize => ?_⟩
    obtain ⟨hd, hpos⟩ := hsize
    have hsides := (sides_eq_some (s := (w, h))).mpr ⟨rfl, rfl, hpos⟩
    rcases hd with rfl | ⟨n, rfl, hc⟩
    · cases hnone.symm.trans hsides
    · dsimp only at hnone
      rw [hc] at hnone
      cases hnone.symm.trans hsides

theorem fps_ends {video : List (Atom Float × Datum Float)}
    (hvideo : videoOf c (field c "video") = .ok video) :
    Ends (fun q => said usualFps (Entries.get? "fps" video) = some q ∧ (q.IsAbove ∨ q.IsNan))
      (Faulty c) (orUsual usualFps (fpsOf c) (Entries.get? "fps" video)) := by
  cases hget : Entries.get? "fps" video with
  | none => exact ⟨rfl, .inl (by decide : (0 : Int) < 60)⟩
  | some d =>
    have hin : InVideo c "fps" d := ⟨video, hvideo, hget⟩
    have hrefused (h : ∀ q, quantity? d = some q → ¬q.IsAbove) : Faulty c (refused c d .fps) :=
      refused_faulty (.fps hin h) fun s hs => .fps hin h hs
    unfold orUsual fpsOf
    dsimp only
    split
    · next q hq =>
      split
      · next hpos => exact ⟨hq, isAbove_or_isNan hpos⟩
      · next hneg =>
        refine hrefused fun q' hq' => ?_
        cases hq.symm.trans hq'
        exact not_isAbove (by simpa using hneg)
    · next hnone => exact hrefused fun q hq => by simp [hnone] at hq

theorem size_ends {video : List (Atom Float × Datum Float)}
    (hvideo : videoOf c (field c "video") = .ok video) :
    Ends
      (fun size => (Entries.get? "resolution" video = none ∧ size = (usualWidth, usualHeight) ∨
        ∃ d, Entries.get? "resolution" video = some d ∧ IsSize c d size.1 size.2) ∧
          0 < size.1 ∧ 0 < size.2)
      (Faulty c)
      (orUsual (usualWidth, usualHeight) (resolutionOf c) (Entries.get? "resolution" video)) := by
  cases hget : Entries.get? "resolution" video with
  | none => exact ⟨.inl ⟨rfl, rfl⟩, by decide, by decide⟩
  | some d =>
    have hin : InVideo c "resolution" d := ⟨video, hvideo, hget⟩
    have hends := resolutionOf_ends (c := c) d
    show Ends _ _ (resolutionOf c d)
    cases hr : resolutionOf c d with
    | ok size =>
      rw [hr] at hends
      exact ⟨.inr ⟨d, rfl, hends⟩, hends.2⟩
    | error f =>
      rw [hr] at hends
      obtain ⟨rfl, h⟩ := hends
      exact refused_faulty (.size hin h) fun s hs => .size hin h hs

/-! ### Texts -/

theorem not_bound {paths : List (Atom Float × Datum Float)} {name : String}
    (h : binding paths name = .unbound) : Entries.get? name paths = none := by
  unfold binding at h
  split at h
  · next hx => exact hx
  · cases h
  · cases h
  · cases h

theorem bound_to_other {paths : List (Atom Float × Datum Float)} {name : String}
    (h : binding paths name = .other) :
    ∃ x, Entries.get? name paths = some x ∧ x ≠ .null ∧ ∀ t, x ≠ .text t := by
  unfold binding at h
  split at h
  · cases h
  · cases h
  · cases h
  · next x hnull htext hx => exact ⟨x, hx, hnull, htext⟩

theorem expand_ends {d : Datum Float} (hd : IsText c d) :
    Ends (Expanded c d) (Faulty c) (expand c (pathsIn c) d) := by
  have hplain := c.plain_failsBy d
  unfold expand
  cases hs : c.plain d with
  | error e =>
    rw [hs] at hplain
    cases hplain with
    | tooLong => exact .inl (.tooLong (.inr ⟨hd, hs⟩))
    | tooDeep h => exact .inr (.tooDeep (.inr hd) h)
  | ok s =>
    have hexpand := Variables.expand_spec (binding (pathsIn c)) s
    dsimp only
    cases he : Variables.expand (binding (pathsIn c)) s with
    | ok t =>
      rw [he] at hexpand
      exact ⟨s, hs, hexpand⟩
    | error f =>
      rw [he] at hexpand
      cases f with
      | unbound name => exact .inl (.unbound hd hs hexpand.1 (not_bound hexpand.2))
      | notText =>
        obtain ⟨name, hname, hother⟩ := hexpand
        obtain ⟨x, hx, hnull, htext⟩ := bound_to_other hother
        exact .inr (.notText hd hs hname hx hnull htext)

theorem readAudio_ends :
    Ends
      (fun audio => field c "audio" = .null ∧ audio = none ∨
        field c "audio" ≠ .null ∧ ∃ t, Expanded c (field c "audio") t ∧ audio = some t)
      (Faulty c) (readAudio c (pathsIn c) (field c "audio")) := by
  unfold readAudio
  split
  · next hnull => exact .inl ⟨hnull, rfl⟩
  · next hne => exact (expand_ends (.inr rfl)).map fun t ht => .inr ⟨hne, t, ht, rfl⟩

/-! ### The usual duration -/

theorem not_isNonneg {q : Quantity Float} (h : isNegative q = true) : ¬q.IsNonneg := by
  cases q with
  | whole n => exact Int.not_le.mpr (of_decide_eq_true (p := n < 0) h)
  | real x =>
    have hx : x < (Scalar.zero : Float) := by simpa [isNegative] using h
    rw [zero_eq] at hx
    exact Binary64.not_zero_le_of_lt hx

theorem fallback_ends :
    Ends
      (fun q => said usualFallback (Entries.get? "fallback_duration" (fieldsOf c)) = some q ∧
        isNegative q = false)
      (Faulty c)
      (orUsual usualFallback (fallbackOf c) (Entries.get? "fallback_duration" (fieldsOf c))) := by
  cases hget : Entries.get? "fallback_duration" (fieldsOf c) with
  | none => exact ⟨rfl, by decide +kernel⟩
  | some d =>
    have hrefused (h : ∀ q, quantity? d = some q → ¬q.IsNonneg) :
        Faulty c (refused c d .fallback) :=
      refused_faulty (.fallback hget h) fun s hs => .fallback hget h hs
    unfold orUsual fallbackOf
    dsimp only
    split
    · next q hq =>
      split
      · next hneg =>
        refine hrefused fun q' hq' => ?_
        cases hq.symm.trans hq'
        exact not_isNonneg hneg
      · next hneg => exact ⟨hq, by simpa using hneg⟩
    · next hnone => exact hrefused fun q hq => by simp [hnone] at hq

theorem of_said_whole {o : Option (Datum Float)} {n : Int}
    (h : said usualFallback o = some (.whole n)) : o = some (.atom (.number (.whole n))) := by
  cases o with
  | none => cases h
  | some d =>
    cases d with
    | pair | collection => cases h
    | atom a =>
      cases a with
      | number q =>
        cases h
        rfl
      | null | flag | nan | text | bytes | day | moment | pair => cases h

theorem toReal_ends {q : Quantity Float}
    (hsaid : said usualFallback (Entries.get? "fallback_duration" (fieldsOf c)) = some q)
    (hneg : isNegative q = false) :
    Ends (fun x => q.toReal = .ok x ∧ (0 ≤ x ∨ Exact.ofFloat x = .nan)) (Faulty c)
      (q.toReal.mapError .number) := by
  cases q with
  | real x =>
    have hx : ¬x < (Scalar.zero : Float) := by simpa [isNegative] using hneg
    rw [zero_eq] at hx
    by_cases hnan : Exact.ofFloat x = .nan
    · exact ⟨rfl, .inr hnan⟩
    · exact ⟨rfl, .inl (Binary64.zero_le_of_not_lt hnan hx)⟩
  | whole n =>
    have hn : 0 ≤ n := by simpa [isNegative] using hneg
    have hn' : (0 : Rat) ≤ n := by exact_mod_cast hn
    rw [Quantity.toReal, Quantity.ofWhole_doubles, abs_of_nonneg hn']
    split_ifs with hbound
    · refine .inr (.overflow ?_ hbound)
      exact of_said_whole hsaid
    · exact ⟨rfl, .inl (Binary64.zero_le_ofRat hn')⟩

end
end Manifest
end Choreo
