import Choreo.Proofs.Routine.Combined
import Choreo.Proofs.Routine.Keeper

/-!
The life of a task, call by call.

A task is what can be told of a keeper from outside: whatever routine it is made of, it reports the
same to any calls, is done at the same time and leaves the same worlds (`Keeper.Holds.log_eq`).
Where a keeper looks at its flag and leaves a started leaf alone, a task advances its routine
without a step. That comes to the same because a routine rests wherever it paused
(`Routine.Begun.rests`).
-/

namespace Choreo
variable {L S δ W ε : Type}

/-! ## Starting what is paused -/

/-- A routine that starting leaves as it is. -/
def Routine.Rests (m : Machine L δ W ε) (r : Routine L) : Prop :=
  ∀ w, r.advance m false none w = (.paused r, w)

def Task.Rests (m : Machine L δ W ε) (t : Task L) : Prop :=
  ∀ w, t.advance m none w = (.paused t, w)

section
variable {m : Machine L δ W ε}

theorem Task.Rests.paused {r : Routine L} (h : r.Rests m) : Task.Rests m (.paused r) := by
  intro w
  rw [Task.advance, h w]
  rfl

theorem Routine.Rests.chain {t : Task L} (h : t.Rests m) (ts : List (Task L)) :
    Routine.Rests m (.chain (t :: ts)) := by
  intro w
  simp only [Routine.advance, Task.advanceChain, h w]

theorem Routine.Rests.seq {r : Routine L} (h : r.Rests m) (rs : List (Routine L)) :
    Routine.Rests m (.seq (r :: rs)) := by
  intro w
  simp only [Routine.advance, Routine.advanceSeq, h w]

mutual

theorem Routine.Begun.rests (m : Machine L δ W ε) {r : Routine L} : r.Begun → r.Rests m
  | .leaf _ => fun _ => rfl
  | .all _ => fun _ => rfl
  | .chain ht ts => .chain (ht.rests m) ts
  | .delay _ _ => fun _ => rfl
  | .seq hr rs => .seq (hr.rests m) rs

theorem Task.Begun.rests (m : Machine L δ W ε) {t : Task L} : t.Begun → t.Rests m
  | .paused hr => .paused (hr.rests m)
  | .crashed => fun _ => rfl

end

theorem Routine.advance_rests (m : Machine L δ W ε) (fresh : Bool) (input : Option δ)
    (r : Routine L) (w : W) : (r.advance m fresh input w).1.Leaves (Routine.Rests m) :=
  (Routine.advance_begun m fresh input r w).imp fun _ hr => hr.rests m

end

/-! ## Tasks and their keepers -/

namespace Outcome

/-- How a call left a routine, apart from what it did not use. -/
def signal : Outcome S δ ε → Signal S ε
  | .paused s => .paused s
  | .finished _ => .finished
  | .failed e => .failed e

end Outcome

/-- The machine whose leaves are the routines of another. -/
def Machine.routines (m : Machine L δ W ε) : Machine (Routine L) δ W ε where
  start r w := ((r.advance m true none w).1.signal, (r.advance m true none w).2)
  resume r dt w := ((r.advance m false (some dt) w).1.signal, (r.advance m false (some dt) w).2)
  stepped := m.stepped

/-- Leaves that leave at once and without a trace. -/
def Machine.closable (m : Machine L (Option δ) W ε) : Closable L δ W ε :=
  { m with leave := fun _ w => (.finished, w), stayed := m.stepped, tooEarly := m.stepped }

/-- The fault that is reported, whosever it is. -/
def Blame.fault (stepped : ε) : Blame ε → ε
  | .own => stepped
  | .leaf e => e

namespace Task

/-- A call, with what it reports if it reports something. -/
def take (m : Machine L δ W ε) (r : Request δ) (t : Task L) (w : W) :
    (Except ε (Option Bool) × Task L) × W :=
  match r with
  | .start => let ((r, t'), w') := t.start m w; ((r.map some, t'), w')
  | .next dt => let ((r, t'), w') := t.next m dt w; ((r.map some, t'), w')
  | .close => ((.ok none, t.close), w)

/-- What calls one after another report, whether the task is done after each, and the worlds it
leaves. -/
def log (m : Machine L δ W ε) : List (Request δ) → Task L → W →
    List (Except ε (Option Bool) × Bool × W)
  | [], _, _ => []
  | r :: rs, t, w =>
    let ((x, t'), w') := t.take m r w
    (x, t'.isDone, w') :: log m rs t' w'

end Task

namespace Keeper

/-- What can be told from outside of a task that takes some calls. -/
def log (m : Closable L δ W ε) : List (Request (Option δ)) → Keeper L δ → W →
    List (Except ε (Option Bool) × Bool × W)
  | [], _, _ => []
  | r :: rs, k, w =>
    let ((x, k'), w') := k.take m r w
    (x.mapError (Blame.fault m.stepped), k'.done, w') :: log m rs k' w'

/-- A task and a keeper of its routine. -/
inductive Holds (m : Machine L (Option δ) W ε) : Keeper (Routine L) δ → Task L → Prop
  | fresh (r : Routine L) (cs : List (Contact δ)) :
    Holds m ⟨.unstarted r, false, false, cs⟩ (.fresh r)
  | paused {r : Routine L} (hr : r.Rests m) (cs : List (Contact δ)) :
    Holds m ⟨.paused r, true, false, cs⟩ (.paused r)
  | crashed (cs : List (Contact δ)) : Holds m ⟨.spent, true, false, cs⟩ .crashed
  | done (started : Bool) (cs : List (Contact δ)) : Holds m ⟨.spent, started, true, cs⟩ .done

/-- A call on a keeper and a call on a task that come to the same. -/
structure Agrees (m : Machine L (Option δ) W ε)
    (a : (Except (Blame ε) Bool × Keeper (Routine L) δ) × W) (b : (Except ε Bool × Task L) × W) :
    Prop where
  report : a.1.1.mapError (Blame.fault m.stepped) = b.1.1
  holds : Holds m a.1.2 b.1.2
  world : a.2 = b.2

section
variable {m : Machine L (Option δ) W ε} {k : Keeper (Routine L) δ} {t : Task L}

theorem agrees_settle {o : Outcome (Routine L) (Option δ) ε} (ho : o.Leaves (Routine.Rests m))
    (cs : List (Contact δ)) (w : W) :
    Agrees m (settle ((o.signal, ⟨.ofSignal o.signal, true, false, cs⟩), w))
      (Task.report (o.map .paused), w) := by
  cases o with
  | paused r => exact ⟨rfl, .paused ho cs, rfl⟩
  | finished unused => exact ⟨rfl, .done true cs, rfl⟩
  | failed e => exact ⟨rfl, .crashed cs, rfl⟩

theorem Holds.start (h : Holds m k t) (w : W) :
    Agrees m (k.start m.routines.closable w) (t.start m w) := by
  cases h with
  | fresh r cs => exact agrees_settle (Routine.advance_rests m true none r w) _ _
  | paused hr cs =>
    rw [Task.start_eq, Task.Rests.paused hr w]
    exact ⟨rfl, .paused hr cs, rfl⟩
  | crashed cs => exact ⟨rfl, .crashed cs, rfl⟩
  | done started cs =>
    cases started with
    | true => exact ⟨rfl, .done true cs, rfl⟩
    | false => exact ⟨rfl, .done true _, rfl⟩

theorem agrees_resume (r : Routine L) (cs : List (Contact δ)) (dt : Option δ) (w : W) :
    Agrees m (Keeper.next m.routines.closable dt ⟨.paused r, true, false, cs⟩ w)
      ((Task.paused r).next m dt w) :=
  agrees_settle (Routine.advance_rests m false (some dt) r w) _ _

theorem Holds.next (h : Holds m k t) (dt : Option δ) (w : W) :
    Agrees m (k.next m.routines.closable dt w) (t.next m dt w) := by
  cases h with
  | fresh r cs =>
    have hask : Keeper.ask m.routines.closable .prime ⟨.unstarted r, true, false, cs⟩ w =
        (((r.advance m true none w).1.signal,
          ⟨.ofSignal (r.advance m true none w).1.signal, true, false, cs ++ [⟨.prime, true⟩]⟩),
          (r.advance m true none w).2) := rfl
    rw [Task.next_eq_start m dt (t := .fresh r) nofun, Task.start_eq, next_of_not_done rfl,
      start_of_not_started rfl, hask, Task.advance]
    rcases r.advance m true none w with ⟨r' | unused | e, v⟩
    · exact agrees_resume r' _ dt v
    · exact ⟨rfl, .done true _, rfl⟩
    · exact ⟨rfl, .crashed _, rfl⟩
  | @paused r _ cs => exact agrees_resume r cs dt w
  | crashed cs => exact ⟨rfl, .done true _, rfl⟩
  | done started cs => exact ⟨rfl, .done started cs, rfl⟩

theorem Holds.take (h : Holds m k t) (r : Request (Option δ)) (w : W) :
    (k.take m.routines.closable r w).1.1.mapError (Blame.fault m.stepped) = (t.take m r w).1.1 ∧
      Holds m (k.take m.routines.closable r w).1.2 (t.take m r w).1.2 ∧
      (k.take m.routines.closable r w).2 = (t.take m r w).2 := by
  cases r with
  | start =>
    obtain ⟨hreport, hholds, hworld⟩ := h.start w
    refine ⟨?_, hholds, hworld⟩
    simp only [Keeper.take, Task.take, ← hreport]
    cases (k.start m.routines.closable w).1.1 <;> rfl
  | next dt =>
    obtain ⟨hreport, hholds, hworld⟩ := h.next dt w
    refine ⟨?_, hholds, hworld⟩
    simp only [Keeper.take, Task.take, ← hreport]
    cases (k.next m.routines.closable dt w).1.1 <;> rfl
  | close => cases h <;> exact ⟨rfl, .done _ _, rfl⟩

theorem Holds.done_eq (h : Holds m k t) : k.done = t.isDone := by
  cases h <;> rfl

theorem Holds.log_eq (h : Holds m k t) (calls : List (Request (Option δ))) (w : W) :
    k.log m.routines.closable calls w = t.log m calls w := by
  induction calls generalizing k t w with
  | nil => rfl
  | cons r calls ih =>
    obtain ⟨hreport, hholds, hworld⟩ := h.take r w
    simp only [Keeper.log, Task.log]
    rw [ih hholds, hworld, hholds.done_eq, ← hreport]
    rfl

end
end Keeper

namespace Task

/-- The life of a task. After any calls a task that keeps nothing back keeps to its life cycle,
whatever its leaf does when it runs and when it is told to leave. A task that shows its reports and
its world only is such a task, whatever routine it is made of: to any calls both report the same,
and they are done at the same time. -/
theorem life_cycle (c : Closable L δ W ε) (l : L) (m : Machine S (Option δ) W ε) (r : Routine S)
    (calls : List (Request (Option δ))) (w : W) :
    Keeper.LifeCycle c (Keeper.after c calls (.ofLeaf l) w).1
        (Keeper.after c calls (.ofLeaf l) w).2 ∧
      (Task.fresh r).log m calls w = Keeper.log m.routines.closable calls (.ofLeaf r) w :=
  ⟨(Keeper.after_sound (Keeper.sound_ofLeaf l) calls w).lifeCycle c _,
    ((Keeper.Holds.fresh r []).log_eq calls w).symm⟩

/-- A leaf that pauses as often as its state says and then fails. It stays when it is told to leave,
and the world is all the steps it ran with. -/
def stubborn : Closable Nat Nat (List (Option Nat)) String where
  start n w := (.paused n, w)
  resume n dt w :=
    match n with
    | 0 => (.failed "boom", w ++ [dt])
    | n + 1 => (.paused n, w ++ [dt])
  stepped := "next() called on a finished task"
  leave n w := (.paused n, w)
  stayed := "stayed"
  tooEarly := "too early"

/-- A leaf that was started and stays when it is told to leave is not done, and runs with its next
step. Made of the same leaf, a task that was closed before it was started has nothing to start and
refuses a step. -/
theorem life_cycle_stubborn :
    (∃ k w, Keeper.after stubborn [.start, .close] (.ofLeaf 1) [] = (k, w) ∧ k.done = false ∧
      (k.next stubborn (some 5) w).1.2.sent = [some 5] ∧
        (k.next stubborn (some 5) w).1.2.heard = [some 5]) ∧
      (Task.fresh (.leaf 1)).log stubborn.toMachine [.close, .start, .next (some 5)] [] =
        [(.ok none, true, []), (.ok (some true), true, []),
          (.error "next() called on a finished task", true, [])] := by
  obtain ⟨h, -⟩ := life_cycle stubborn 1 stubborn.toMachine (.leaf 1) [.start, .close] []
  refine ⟨⟨_, _, rfl, rfl, h.sent_once rfl ⟨1, rfl⟩ (some 5)⟩, ?_⟩
  rw [(life_cycle stubborn 1 stubborn.toMachine (.leaf 1) [.close, .start, .next (some 5)] []).2]
  rfl

end Task
end Choreo
