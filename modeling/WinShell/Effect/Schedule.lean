-- SUMMARY: A deterministic machine as one schedule of a pool: its runs are runs of a thread.
import WinShell.Effect.Pool
import WinShell.Effect.Run
import Mathlib.Logic.Relation

/-!
# Machines as schedules

A machine that answers every operation as the pool may, after some moves of the
environment, is one of the schedules of the pool. A run of it is then a sequence
of steps in which one thread runs the program and all others stay where they are.
-/

namespace Effect

namespace Pool

variable {S : Signature} {σ J β : Type} {sys : System S σ J β} {M : Machine S σ} {i t : Nat} {j : J}
  {x x' : σ} {s s' : Pool S σ J β}

/-- Every answer of the machine is one that invocation `i` may get. -/
def Schedules (sys : System S σ J β) (M : Machine S σ) (i : Nat) : Prop :=
  ∀ x o r x', M x o = (some r, x') →
    ∃ y, Relation.ReflTransGen sys.Moves x y ∧ sys.Answers i y o r x'

theorem Reachable.steps (reached : Reachable sys x s)
    (steps : Relation.ReflTransGen (Step sys) s s') : Reachable sys x s' := by
  induction steps with
  | refl => exact reached
  | tail _ step ih => exact ih.step step

/-- The environment moves while the threads stay where they are. -/
theorem steps_of_moves (s : Pool S σ J β) (moves : Relation.ReflTransGen sys.Moves s.shared x) :
    Relation.ReflTransGen (Step sys) s { s with shared := x } := by
  induction moves with
  | refl => exact .refl
  | tail _ move ih => exact ih.tail (.move _ move)

/-- The pool after the thread `t` has come to `p` and the state to `x`. -/
def arrived (s : Pool S σ J β) (t i : Nat) (j : J) (p : Prog S β) (x : σ) : Pool S σ J β :=
  { s.setThread t (some ⟨i, j, p⟩) with shared := x }

theorem arrived_arrived (p q : Prog S β) : (s.arrived t i j p x).arrived t i j q x' = s.arrived t i j q x' := by
  simp only [arrived, setThread, Function.update_idem]

theorem steps_of_run (schedules : Schedules sys M i) {p : Prog S β} {b : β}
    (hrun : p.run M x = (some b, x')) :
    Relation.ReflTransGen (Step sys) (s.arrived t i j p x) (s.arrived t i j (.ret b) x') := by
  induction p generalizing x with
  | ret a =>
    cases hrun
    exact .refl
  | exec o k ih =>
    rw [Prog.run_exec] at hrun
    rcases hM : M x o with ⟨_ | r, y⟩
    · rw [hM] at hrun
      cases hrun
    · rw [hM] at hrun
      obtain ⟨z, moves, answers⟩ := schedules x o r y hM
      have hmoves := steps_of_moves (s.arrived t i j (.exec o k) x) moves
      have hthread : (s.arrived t i j (.exec o k) z).threads t = some ⟨i, j, .exec o k⟩ :=
        threads_setThread_self s t _
      have hstep : Step sys (s.arrived t i j (.exec o k) z) (s.arrived t i j (k r) y) := by
        have h : Step sys (s.arrived t i j (.exec o k) z)
            ((s.arrived t i j (.exec o k) z).arrived t i j (k r) y) :=
          .run t i j o k r y hthread answers
        rwa [arrived_arrived] at h
      exact (hmoves.tail hstep).trans (ih r hrun)

/-- A run of the first job that is started is a run of the pool. -/
theorem reachable_of_run (schedules : Schedules sys M 0) (j : J) {b : β}
    (hrun : (sys.body j).run M x = (some b, x')) :
    Reachable sys x { (init x' : Pool S σ J β).setThread 0 (some ⟨0, j, .ret b⟩) with next := 1 } := by
  have started : Reachable sys x _ := Reachable.init.step (.start 0 j rfl)
  exact started.steps
    (@steps_of_run _ _ _ _ sys M 0 0 j x x' { init x with next := 1 } schedules _ _ hrun)

end Pool

end Effect
