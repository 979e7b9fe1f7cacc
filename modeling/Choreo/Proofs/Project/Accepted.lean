import Choreo.Project.Load
import Choreo.Proofs.Project.Fields

/-!
Which manifests are accepted, and how the others are turned down.

For every document the manifest is refused because of a value that is wrong, or it `Follows` the
document with a positive frame rate, two positive sides and a duration that is not negative, but for
six lapses (`Project.manifest_complete`): a frame rate and a duration that are not numbers pass, and
four kinds of values are turned down by a slip. The manifest takes its fields in order, so what it
comes to is put together from what each field comes to (`Manifest.ofContents_ends`).
-/

namespace Choreo

open Yaml

namespace Manifest

/-- A manifest follows its document, and its numbers are in range or no numbers. -/
theorem ofContents_ends (root : Path) (c : Contents Float) :
    Ends
      (fun m => Follows c root m ∧ (0 < m.width ∧ 0 < m.height) ∧ (m.fps.IsAbove ∨ m.fps.IsNan) ∧
        (0 ≤ m.fallback ∨ Exact.ofFloat m.fallback = .nan))
      (Faulty c) (ofContents root c) := by
  rw [ofContents_eq]
  refine readFields_ends.bind fun fields hfields => ?_
  cases hfields
  refine videoOf_failsBy.eq.bind fun video hvideo => ?_
  refine (fps_ends hvideo.1).bind fun fps hfps => ?_
  refine (size_ends hvideo.1).bind fun size hsize => ?_
  refine pathsOf_ends.bind fun paths hpaths => ?_
  cases hpaths
  refine (expand_ends (.inl rfl)).bind fun folder hfolder => ?_
  refine readAudio_ends.bind fun audio haudio => ?_
  refine fallback_ends.bind fun q hq => ?_
  refine (toReal_ends hq.1 hq.2).bind fun x hx => ?_
  exact ⟨⟨rfl, hvideo.1, hfps.1, hsize.1, rfl, ⟨folder, hfolder, rfl⟩, haudio, q, hq.1, hx.1⟩,
    hsize.2, hfps.2, hx.2⟩

theorem Slip.not_refusal {c : Contents Float} {f : ManifestFault} (h : Slip c f) :
    ¬Refusal c f := by
  cases h <;> nofun

theorem isAbove_not_nan {q : Quantity Float} (h : q.IsAbove) : ¬q.IsNan := by
  cases q with
  | whole n => exact id
  | real x => exact fun hnan => (Binary64.unordered_nan hnan).1 h

end Manifest

namespace Project

open Manifest

/-- A folder whose manifest says something. Without a manifest it says nothing. -/
structure Reads (d : Disk) (root : Path) (c : Contents Float) : Prop where
  folder : ∃ place, d.folder? root = .ok (some place)
  contents : (∃ s, text? d (root.child fileName) = .ok (some s) ∧ Contents.ofText s = .ok c) ∨
    text? d (root.child fileName) = .ok none ∧ c = .single .null

/-- A manifest is refused because of a value that is wrong, or it says what the document says, with
a positive frame rate, two positive sides and a duration that is not negative. -/
inductive Promised (root : Path) (c : Contents Float) :
    Except ProjectFault (Manifest Float) → Prop
  | refused {f : ManifestFault} (h : Refusal c f) : Promised root c (.error (.manifest f))
  | loaded {m : Manifest Float} (h : Follows c root m) (hfps : m.fps.IsAbove)
    (hwidth : 0 < m.width) (hheight : 0 < m.height) (hfallback : 0 ≤ m.fallback) :
    Promised root c (.ok m)

/-- What else can happen: the document says of a frame rate or a duration that it is no number, and
that passes, or the fault is a slip. -/
inductive Lapse (root : Path) (c : Contents Float) : Except ProjectFault (Manifest Float) → Prop
  | fps {m : Manifest Float} (h : Follows c root m) (hnan : m.fps.IsNan) : Lapse root c (.ok m)
  | fallback {m : Manifest Float} (h : Follows c root m)
    (hnan : Exact.ofFloat m.fallback = .nan) : Lapse root c (.ok m)
  | slip {f : ManifestFault} (h : Slip c f) : Lapse root c (.error (.manifest f))

theorem manifest_of_reads {d : Disk} {root : Path} {c : Contents Float} (h : Reads d root c) :
    manifest d root = (ofContents root c).mapError .manifest := by
  obtain ⟨place, hfolder⟩ := h.folder
  unfold manifest
  rw [hfolder]
  obtain ⟨s, htext, hs⟩ | ⟨htext, rfl⟩ := h.contents
  · simp only [Except.mapError, bind, Except.bind, htext, hs]
  · simp only [Except.mapError, bind, Except.bind, htext, pure, Except.pure]

/-! ## A folder with a manifest -/

def showRoot : Path := ⟨"", ["show"]⟩

/-- A folder with the given text as its manifest. -/
def showWith (s : String) : Disk :=
  { folders := [showRoot], files := [(showRoot.inner fileName, s)] }

theorem text?_showWith (s : String) :
    text? (showWith s) (showRoot.child fileName) = .ok (some s) := by
  have hchild : showRoot.child fileName = showRoot.inner fileName := by cbv
  have hclean : (showRoot.inner fileName).toString.contains '\x00' = false := by cbv
  have hshort : ¬Disk.pathLimit < (showRoot.inner fileName).toString.utf8ByteSize := by
    decide +kernel
  have hplace : (showWith s).locate (showRoot.inner fileName) = .ok (showRoot.inner fileName) := by
    rw [Disk.locate, hclean, if_neg (by decide), if_neg hshort]
    rfl
  rw [hchild, text?, hplace]
  rfl

theorem reads_showWith {s : String} {P : Except ManifestFault (Manifest Float) → Bool}
    (h : (Contents.ofText s).toOption.any (fun c => P (ofContents showRoot c)) = true) :
    ∃ c, Reads (showWith s) showRoot c ∧ P (ofContents showRoot c) = true := by
  cases hs : (Contents.ofText s : Except Fault (Contents Float)) with
  | error e =>
    rw [hs] at h
    cases h
  | ok c =>
    rw [hs] at h
    exact ⟨c, ⟨⟨showRoot, by cbv⟩, .inl ⟨s, text?_showWith s, hs⟩⟩, h⟩

/-! ## Every manifest -/

/-- Whatever the manifest of a folder says, it is refused because of a value that is wrong, or it is
loaded with numbers in range and its texts expanded, except in the lapses. -/
theorem manifest_complete {d : Disk} {root : Path} {c : Contents Float} (h : Reads d root c) :
    Promised root c (manifest d root) ↔ ¬Lapse root c (manifest d root) := by
  have hends := ofContents_ends root c
  rw [manifest_of_reads h]
  cases hm : ofContents root c with
  | error f =>
    rw [hm] at hends
    obtain hrefusal | hslip := hends
    · refine iff_of_true (.refused hrefusal) ?_
      rintro (_ | _ | hslip)
      exact hslip.not_refusal hrefusal
    · refine iff_of_false ?_ fun hnot => hnot (.slip hslip)
      rintro (hrefusal | _)
      exact hslip.not_refusal hrefusal
  | ok m =>
    rw [hm] at hends
    obtain ⟨hfollows, ⟨hwidth, hheight⟩, hfps, hfallback⟩ := hends
    constructor
    · rintro (_ | ⟨-, hfps, -, -, hfallback⟩) (⟨-, hnan⟩ | ⟨-, hnan⟩ | _)
      · exact isAbove_not_nan hfps hnan
      · exact (Binary64.unordered_nan hnan).2 hfallback
    · intro hnot
      exact .loaded hfollows (hfps.resolve_right fun hnan => hnot (.fps hfollows hnan)) hwidth
        hheight (hfallback.resolve_right fun hnan => hnot (.fallback hfollows hnan))

/-- A frame rate above nought is accepted. -/
theorem manifest_complete_frameRate :
    ∃ c, Reads (showWith "video: \x7bfps: 24\x7d") showRoot c ∧
      Promised showRoot c (manifest (showWith "video: \x7bfps: 24\x7d") showRoot) := by
  have hchecked := reads_showWith (s := "video: \x7bfps: 24\x7d")
    (P := fun r => r.toOption.any fun m => decide (m.fps.IsAbove ∧ 0 ≤ m.fallback))
    (by decide +kernel)
  obtain ⟨c, hreads, hcheck⟩ := hchecked
  refine ⟨c, hreads, (manifest_complete hreads).mpr ?_⟩
  rw [manifest_of_reads hreads]
  cases hm : ofContents showRoot c with
  | error f =>
    rw [hm] at hcheck
    cases hcheck
  | ok m =>
    rw [hm] at hcheck
    obtain ⟨hfps, hfallback⟩ := of_decide_eq_true hcheck
    rintro (⟨-, hnan⟩ | ⟨-, hnan⟩ | _)
    · exact isAbove_not_nan hfps hnan
    · exact (Binary64.unordered_nan hnan).2 hfallback

/-- A frame rate that is not a number passes, and what is said about the picture may be turned down
without a word about it. -/
theorem manifest_incomplete :
    (∃ c, Reads (showWith "video: \x7bfps: .nan\x7d") showRoot c ∧
      ¬Promised showRoot c (manifest (showWith "video: \x7bfps: .nan\x7d") showRoot)) ∧
    ∃ c, Reads (showWith "video: 5") showRoot c ∧
      ¬Promised showRoot c (manifest (showWith "video: 5") showRoot) := by
  constructor
  · have hchecked := reads_showWith (s := "video: \x7bfps: .nan\x7d")
      (P := fun r => r.toOption.any fun m => decide ¬m.fps.IsAbove) (by decide +kernel)
    obtain ⟨c, hreads, hcheck⟩ := hchecked
    refine ⟨c, hreads, ?_⟩
    rw [manifest_of_reads hreads]
    cases hm : ofContents showRoot c with
    | error f =>
      rw [hm] at hcheck
      cases hcheck
    | ok m =>
      rw [hm] at hcheck
      rintro (_ | ⟨-, hfps⟩)
      exact of_decide_eq_true hcheck hfps
  · have hchecked := reads_showWith (s := "video: 5")
      (P := fun
        | .error f => decide (f = .notPairs)
        | .ok _ => false) (by decide +kernel)
    obtain ⟨c, hreads, hcheck⟩ := hchecked
    refine ⟨c, hreads, ?_⟩
    rw [manifest_of_reads hreads]
    cases hm : ofContents showRoot c with
    | ok m =>
      rw [hm] at hcheck
      cases hcheck
    | error f =>
      rw [hm] at hcheck
      cases of_decide_eq_true hcheck
      rintro (hrefusal | _)
      cases hrefusal

end Project
end Choreo
