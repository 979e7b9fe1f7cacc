import Choreo.Bake
import Choreo.Proofs.Scheduler.Replay

/-!
What the sink shows after a seek.

A sink that keeps the latest text of each property shows the last one it was handed, so what it
shows can be read off the log. A reset takes back on the stage what was applied, but of that it
tells the sink the classes only. So after a seek the sink shows what a fresh one would, where that
shows anything at all, and elsewhere whatever the abandoned run left: `Show.seek_shown`.
-/

namespace Choreo
variable {α C : Type}

namespace Picture

/-- The text a picture holds for a property of a target. -/
def text? (p : Picture) (target property : String) : Option String :=
  (p.lookup target).bind fun texts => texts.lookup property

theorem text?_set (p : Picture) (target property text target' property' : String) :
    (p.set target property text).text? target' property' =
      if target' = target ∧ property' = property then some text
      else p.text? target' property' := by
  unfold text? set
  rw [lookup_assign]
  by_cases ht : target' = target
  · subst ht
    rw [if_pos rfl, Option.bind_some, lookup_assign]
    by_cases hp : property' = property
    · rw [if_pos hp, if_pos ⟨rfl, hp⟩]
    · rw [if_neg hp, if_neg fun h => hp h.2]
      cases p.lookup target' <;> rfl
  · rw [if_neg ht, if_neg fun h => ht h.1]

end Picture

/-- The text an event hands the sink for a property of a target. -/
def Event.text? (target property : String) : Event α → Option String
  | .apply t p text => if target = t ∧ property = p then some text else none
  | _ => none

namespace World

/-- What a sink that keeps the latest texts shows for a property of a target. -/
def shown (w : World α C) (target property : String) : Option String :=
  (Picture.after [] w.events).text? target property

/-- The log is kept newest first, so the first event that hands over a text is the latest. -/
theorem shown_eq (w : World α C) (target property : String) :
    w.shown target property = w.log.findSome? (Event.text? target property) := by
  unfold shown events
  induction w.log with
  | nil => rfl
  | cons e log ih =>
    rw [List.reverse_cons, Picture.after, List.foldl_append, List.findSome?_cons, ← ih]
    cases e with
    | apply t p text =>
      simp only [List.foldl_cons, List.foldl_nil, Picture.text?_set, Event.text?]
      split <;> rfl
    | update | mark | tick | finished | remark => rfl

theorem shown_append {w w' : World α C} {past : List (Event α)} (h : w'.log = w.log ++ past)
    (target property : String) :
    w'.shown target property =
      (w.shown target property).or (past.findSome? (Event.text? target property)) := by
  rw [shown_eq, shown_eq, h, List.findSome?_append]

/-- A reset does not touch what the sink shows, except for classes. -/
theorem shown_resetStage (w : World α C) (target : String) {property : String}
    (hp : property ≠ "class") :
    w.resetStage.shown target property = w.shown target property := by
  obtain ⟨news, hlog, hnews⟩ := w.resetStage_log
  have hnone : news.findSome? (Event.text? target property) = none := by
    rw [List.findSome?_eq_none_iff]
    intro e he
    obtain ⟨t, text, rfl⟩ := hnews e he
    exact if_neg fun h => hp h.2
  rw [shown_eq, shown_eq, hlog, List.findSome?_append, hnone, Option.none_or]

end World

namespace Show
variable [Scalar α] [Analytic α] {view : List (String × String)}
  {environment : Option (String → String → Value α)} {hasSink : Bool} {stage : Stage α}
  {step longest : α} {history : List (Order α)} {flow : Flow α}
  {callback : Option (Callback (Source α) HostAct α)}

open Stagehand (run runs)

/-- After a seek the sink shows what the sink of a fresh mount shows, and where that shows nothing,
what it showed before. So the two show the same exactly where the fresh one shows something or
nothing was shown before. -/
theorem seek_shown (hs : Stage.ofView view environment hasSink = .ok stage)
    (hq : ∀ c ∈ history, c.Quiet)
    (hm : (history.foldl Scheduler.Terms.after
      (opening step longest stage).scheduler.terms).mounted = some (⟨flow, true⟩, callback))
    (offset : α) (target : String) {property : String} (hp : property ≠ "class") :
    let h := (runs theatre history (opening step longest stage)).2
    let sought := run theatre (.seek offset) h
    let fresh := run theatre (.mount ⟨flow, true⟩ h.scheduler.playing offset callback)
      (opening step longest stage)
    sought.2.world.shown target property =
        (fresh.2.world.shown target property).or (h.world.shown target property) ∧
      (sought.2.world.shown target property = fresh.2.world.shown target property ↔
        (fresh.2.world.shown target property).isSome ∨ h.world.shown target property = none) := by
  intro h sought fresh
  have hlog := (seek_twins hs hq hm offset).2.world.log_eq
  have hshown : sought.2.world.shown target property =
      (fresh.2.world.shown target property).or (h.world.shown target property) := by
    rw [World.shown_append hlog, ← World.shown_eq, World.shown_resetStage _ _ hp]
  refine ⟨hshown, ?_⟩
  -- Where the fresh sink shows nothing, what was shown before is all that can differ.
  rw [hshown]
  cases fresh.2.world.shown target property with
  | some text => simp
  | none => simp

theorem seek_shown_lateTitle :
    let history : List (Order Rat) := [.mount lateTitle true 2 none, .frame 5]
    let h := (runs theatre history (opening 1 1 titleStage)).2
    let sought := run theatre (.seek 3) h
    let fresh := run theatre (.mount lateTitle h.scheduler.playing 3 none) (opening 1 1 titleStage)
    (∀ c ∈ history, c.Quiet) ∧
      sought.2.world.shown "title" "textContent" = fresh.2.world.shown "title" "textContent" := by
  have hq : ∀ c ∈ ([.mount lateTitle true 2 none, .frame 5] : List (Order Rat)), c.Quiet := by
    simp [Command.Quiet]
  refine ⟨hq, (seek_shown ofView_title hq rfl 3 "title" (by decide)).2.mpr (.inl ?_)⟩
  decide +kernel

/-- A seek back to the start leaves the title on show that a fresh mount has not typed yet. -/
theorem lateTitle_shown_before_typed :
    let h := (runs theatre [.mount lateTitle true 2 none] (opening 1 1 titleStage)).2
    let sought := run theatre (.seek 0) h
    let fresh := run theatre (.mount lateTitle true 0 none) (opening 1 1 titleStage)
    sought.2.world.shown "title" "textContent" = some "Hi" ∧
      fresh.2.world.shown "title" "textContent" = none := by
  decide +kernel

end Show
end Choreo
