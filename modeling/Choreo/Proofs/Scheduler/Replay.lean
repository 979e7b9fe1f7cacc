import Choreo.Scheduler.Show
import Choreo.Proofs.Flow.Twins
import Choreo.Proofs.Number.Rational
import Choreo.Proofs.Scheduler.History
import Choreo.Proofs.Stage.Reset

/-!
Seeking replays.

A bound flow is built on a stage that is reset first, and a rewind leaves nothing of a scheduler but
its terms. So whatever happened before, a seek starts from the scheduler and the stage that a mount
with the same offset starts from, and the two worlds differ in their past alone, which no flow looks
at. `Show.seek_replays` is the law for every history.
-/

namespace Choreo
namespace Show
variable {α : Type} [Scalar α] [Analytic α]

open World (Twins)
open Stagehand (Matched run runs)

/-- The commands of a show. -/
abbrev Order (α : Type) := Command (Source α) HostAct α

/-- A scheduler with its show. -/
abbrev Director (α : Type) := Stagehand (Source α) HostAct (Leaf α) α (Show α)

/-- A fresh scheduler with a fresh stage. -/
def opening (step longest : α) (stage : Stage α) : Director α :=
  { scheduler := .idle step longest, world := .ofStage stage .empty }

variable {s : Stage α} {past : List (Event α)} {w w' : Show α}

omit [Scalar α] [Analytic α] in
theorem build_twins (source : Source α) (h : Twins s past w w') :
    Alike (Twins s past) (build source w) (build source w') := by
  refine ⟨rfl, ?_⟩
  simp only [build]
  split
  · exact h.resetStage.withCrew _
  · exact h.withCrew _

theorem theatre_related (s : Stage α) (past : List (Event α)) :
    Theatre.Related theatre theatre (Twins s past) where
  machine := Leaf.machine_related
  build source _ _ h := build_twins source h
  act a w w' h := by
    cases a with
    | resetStage => exact ⟨rfl, h.resetStage⟩
    | fail message => exact ⟨rfl, h⟩
  announce tag p w w' h := h.report _

omit [Scalar α] [Analytic α] in
/-- Building a bound flow in a world that lived through something gives a twin of what building it
in a fresh world gives. -/
theorem build_bound_twins (hd : s.asDeclared = s) (hn : s.NamesAll) (hw : Twins s [] w w)
    (flow : Flow α) (crew : Crew α) :
    Alike (Twins s w.resetStage.log) (build ⟨flow, true⟩ (World.ofStage s crew))
      (build ⟨flow, true⟩ w) := by
  have hstage : w.resetStage.stage = s := by
    rw [World.resetStage_stage (hn.of_asDeclared_eq (hw.declared.trans hd.symm)), hw.declared]
  have haloud : w.resetStage.suppressed = false := hw.resetStage.aloud
  have hfresh : (World.ofStage s crew).resetStage = World.ofStage s crew :=
    World.resetStage_of_asDeclared hd
  simp only [build, if_true]
  rw [hfresh]
  refine ⟨rfl, ?_, hd, rfl⟩
  simp only [World.upon, World.ofStage, hstage, haloud, List.nil_append]

/-- No history changes what its stage was declared with, or leaves updates suppressed. -/
theorem runs_opening_twins (hd : s.asDeclared = s) (step longest : α) (history : List (Order α)) :
    Twins s [] (runs theatre history (opening step longest s)).2.world
      (runs theatre history (opening step longest s)).2.world := by
  have hw : Twins s [] (opening step longest s).world (opening step longest s).world :=
    ⟨by simp [World.upon], hd, rfl⟩
  exact (Stagehand.runs_related (theatre_related s []) history ⟨rfl, hw⟩).2.world

/-! ## The law of seeking -/

variable {view : List (String × String)} {environment : Option (String → String → Value α)}
  {hasSink : Bool} {stage : Stage α} {step longest : α} {history : List (Order α)} {flow : Flow α}
  {callback : Option (Callback (Source α) HostAct α)}

/-- After any history a seek ends as the mount of a fresh scheduler does, in a twin world whose past
is the history and the texts of the reset. -/
theorem seek_twins (hs : Stage.ofView view environment hasSink = .ok stage)
    (hq : ∀ c ∈ history, c.Quiet)
    (hm : (history.foldl Scheduler.Terms.after
      (opening step longest stage).scheduler.terms).mounted = some (⟨flow, true⟩, callback))
    (offset : α) :
    let h := (runs theatre history (opening step longest stage)).2
    Alike (Matched (Twins stage h.world.resetStage.log))
      (run theatre (.mount ⟨flow, true⟩ h.scheduler.playing offset callback)
        (opening step longest stage))
      (run theatre (.seek offset) h) := by
  intro h
  obtain ⟨hd, hn⟩ := Stage.ofView_spec hs
  have hterms : h.scheduler.terms = history.foldl Scheduler.Terms.after
      (opening step longest stage).scheduler.terms :=
    Stagehand.runs_terms hq fun _ _ hnone => nomatch hnone
  have hmounted : h.scheduler.mounted = some (⟨flow, true⟩, callback) :=
    (congrArg Scheduler.Terms.mounted hterms).trans hm
  obtain ⟨hstep, hlongest⟩ := Scheduler.Terms.foldl_after_bounds history
    (opening step longest stage).scheduler.terms
  rw [← hterms] at hstep hlongest
  have hw := runs_opening_twins hd step longest history
  have hrelated := theatre_related stage h.world.resetStage.log
  let mounted : Director α := { opening step longest stage with scheduler :=
    { (opening step longest stage).scheduler.unmount with
      mounted := some (⟨flow, true⟩, callback), playing := h.scheduler.playing } }
  have hsame : mounted.scheduler.terms = h.scheduler.terms := by
    simp only [Scheduler.terms, Scheduler.Terms.mk.injEq]
    exact ⟨hstep.symm, hlongest.symm, hmounted.symm, rfl⟩
  obtain ⟨r, u, u', hu, hu', hR⟩ := (Stagehand.restart_related hrelated
    (Stagehand.callBack_related hrelated Stagehand.depthLimit) offset hsame
    (build_bound_twins hd hn hw flow .empty)).exists_eq
  simp only [run, Stagehand.perform, hmounted, hu']
  rw [show Stagehand.restart theatre _ _ offset _ = _ from hu]
  exact ⟨rfl, hR⟩

/-- Whatever is done after two runs that ended in twin worlds, the answers, the scheduler and the
stage stay the same, and both logs grow by the same events. -/
theorem runs_twins {a b : Director α} (hm : Matched (Twins s past) a b) (later : List (Order α)) :
    (runs theatre later b).1 = (runs theatre later a).1 ∧
      (runs theatre later b).2.scheduler = (runs theatre later a).2.scheduler ∧
      (runs theatre later b).2.world.stage = (runs theatre later a).2.world.stage ∧
      ∃ news, (runs theatre later b).2.world.log = news ++ b.world.log ∧
        (runs theatre later a).2.world.log = news ++ a.world.log := by
  -- A third run, in the same world without any past, is a twin of both.
  let bare : Director α := { a with world := { a.world with log := [] } }
  have ha : Matched (Twins s a.world.log) bare a := ⟨rfl, rfl, hm.world.declared, hm.world.aloud⟩
  have hb : Matched (Twins s b.world.log) bare b := by
    refine ⟨hm.scheduler, ?_, hm.world.declared, hm.world.aloud⟩
    rw [hm.world.log_eq, hm.world.upon]
    rfl
  obtain ⟨hra, hsa, hwa⟩ := Stagehand.runs_related (theatre_related s a.world.log) later ha
  obtain ⟨hrb, hsb, hwb⟩ := Stagehand.runs_related (theatre_related s b.world.log) later hb
  exact ⟨hrb.symm.trans hra, hsb.symm.trans hsa, hwb.stage_eq.trans hwa.stage_eq.symm,
    _, hwb.log_eq, hwa.log_eq⟩

/-- After any history a seek leaves the scheduler and the stage as the mount of a fresh scheduler on
a fresh stage leaves them, and from then on nothing tells the two apart. -/
theorem seek_replays (hs : Stage.ofView view environment hasSink = .ok stage)
    (hq : ∀ c ∈ history, c.Quiet)
    (hm : (history.foldl Scheduler.Terms.after
      (opening step longest stage).scheduler.terms).mounted = some (⟨flow, true⟩, callback))
    (offset : α) :
    let h := (runs theatre history (opening step longest stage)).2
    let sought := run theatre (.seek offset) h
    let fresh := run theatre (.mount ⟨flow, true⟩ h.scheduler.playing offset callback)
      (opening step longest stage)
    sought.1 = fresh.1 ∧ sought.2.scheduler = fresh.2.scheduler ∧
      sought.2.world.stage = fresh.2.world.stage ∧
      ∀ later, (runs theatre later sought.2).1 = (runs theatre later fresh.2).1 ∧
        (runs theatre later sought.2).2.scheduler = (runs theatre later fresh.2).2.scheduler ∧
        (runs theatre later sought.2).2.world.stage = (runs theatre later fresh.2).2.world.stage ∧
        ∃ news, (runs theatre later sought.2).2.world.log = news ++ sought.2.world.log ∧
          (runs theatre later fresh.2).2.world.log = news ++ fresh.2.world.log := by
  intro h sought fresh
  obtain ⟨hr, hR⟩ := seek_twins hs hq hm offset
  exact ⟨hr.symm, hR.scheduler.symm, hR.world.stage_eq, runs_twins hR⟩

/-! ## A title that comes late -/

/-- A title that is typed at once, after a second. -/
def lateTitle : Source Rat :=
  { flow := .chain [.act (.wait 1), .act (.type "title" "Hi" 0)], isBound := true }

/-- A stage with an empty title and a sink. -/
def titleStage : Stage Rat :=
  { targets := [.ofClasses "title" ""], names := [("title", 0)], environment := none,
    hasSink := true }

theorem ofView_title : Stage.ofView [("title", "")] none true = .ok titleStage := rfl

theorem seek_replays_lateTitle :
    let history : List (Order Rat) := [.mount lateTitle true 2 none, .frame 5, .pause]
    let h := (runs theatre history (opening 1 1 titleStage)).2
    let sought := run theatre (.seek 0) h
    let fresh := run theatre (.mount lateTitle h.scheduler.playing 0 none) (opening 1 1 titleStage)
    (∀ c ∈ history, c.Quiet) ∧ sought.2.scheduler = fresh.2.scheduler ∧
      sought.2.world.stage = fresh.2.world.stage := by
  have hq : ∀ c ∈ ([.mount lateTitle true 2 none, .frame 5, .pause] : List (Order Rat)),
      c.Quiet := by
    simp [Command.Quiet]
  exact ⟨hq, (seek_replays ofView_title hq rfl 0).2.1, (seek_replays ofView_title hq rfl 0).2.2.1⟩

end Show
end Choreo
