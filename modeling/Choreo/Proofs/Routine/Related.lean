import Choreo.Proofs.Routine.Confined

/-!
Routines on two machines.

Two machines are related when every call on a leaf answers the same on both and keeps their worlds
related. The combinations only pass on what leaves answer, so tasks then answer the same as well:
`Task.start_related` and `Task.next_related`. They are what confined machines come to when nothing
is asked of the leaves.

The relation of worlds is left open. With worlds that are equal and have a property it says that the
property is an invariant; with worlds that differ in what no leaf looks at it says that nothing else
depends on the difference.
-/

namespace Choreo
variable {L δ W W' ε β : Type}

/-- Two calls that answer the same and leave related worlds. -/
def Alike (R : W → W' → Prop) (a : β × W) (b : β × W') : Prop := a.1 = b.1 ∧ R a.2 b.2

theorem Alike.exists_eq {R : W → W' → Prop} {a : β × W} {b : β × W'} (h : Alike R a b) :
    ∃ x w w', a = (x, w) ∧ b = (x, w') ∧ R w w' :=
  ⟨a.1, a.2, b.2, rfl, by rw [h.1], h.2⟩

theorem AlikeOn.alike {Q : β → Prop} {R : W → W' → Prop} {a : β × W} {b : β × W'}
    (h : AlikeOn Q R a b) : Alike R a b :=
  ⟨h.same, h.related⟩

structure Machine.Related (m : Machine L δ W ε) (m' : Machine L δ W' ε)
    (R : W → W' → Prop) : Prop where
  start : ∀ l w w', R w w' → Alike R (m.start l w) (m'.start l w')
  resume : ∀ l dt w w', R w w' → Alike R (m.resume l dt w) (m'.resume l dt w')
  stepped : m.stepped = m'.stepped

section
variable {m : Machine L δ W ε} {m' : Machine L δ W' ε} {R : W → W' → Prop}

theorem Signal.leaves_of_forall {P : L → Prop} (hP : ∀ l, P l) (s : Signal L ε) : s.Leaves P := by
  cases s with
  | paused l => exact hP l
  | finished => trivial
  | failed e => trivial

theorem Machine.Related.confined (hm : m.Related m' R) : m.Confined m' (fun _ => True) R where
  start l w w' _ h :=
    have ⟨hsame, hR⟩ := hm.start l w w' h
    ⟨hsame, Signal.leaves_of_forall (fun _ => trivial) _, hR⟩
  resume l dt w w' _ h :=
    have ⟨hsame, hR⟩ := hm.resume l dt w w' h
    ⟨hsame, Signal.leaves_of_forall (fun _ => trivial) _, hR⟩
  stepped := hm.stepped

theorem Machine.Confined.related {P : L → Prop} (hm : m.Confined m' P R) (hP : ∀ l, P l) :
    m.Related m' R where
  start l w w' h := (hm.start l w w' (hP l) h).alike
  resume l dt w w' h := (hm.resume l dt w w' (hP l) h).alike
  stepped := hm.stepped

theorem Task.start_related (hm : m.Related m' R) (t : Task L) {w : W} {w' : W'} (h : R w w') :
    Alike R (t.start m w) (t.start m' w') :=
  (Task.start_confined hm.confined (Task.every_of_forall (fun _ _ => trivial) t) h).alike

theorem Task.next_related (hm : m.Related m' R) (dt : δ) (t : Task L) {w : W} {w' : W'}
    (h : R w w') : Alike R (t.next m dt w) (t.next m' dt w') :=
  (Task.next_confined hm.confined dt (Task.every_of_forall (fun _ _ => trivial) t) h).alike

end
end Choreo
