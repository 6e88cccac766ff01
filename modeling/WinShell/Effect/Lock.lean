-- SUMMARY: Threads that serve each operation by a program under a spin lock, and that these operations are atomic.
import WinShell.Effect.Handler
import WinShell.Effect.Pool

/-!
# Spin locks

Threads run client programs. An operation of a client is served by a program of a
machine, which the thread runs after it has taken a lock and before it releases it.
The lock is a word: a thread reads it until it is zero, then sets its lowest bit and is
inside when the bit was clear. The steps of all threads interleave.

When the programs implement an interface, every state that is reached refines a state of
the pool in which each operation is one step (`Reachable.refined`). At most one thread is
inside, and the machine answers each of its operations.
-/

namespace Effect

/-- How a thread waits: where it starts, what a failed attempt does, and the next step of a
pause, `none` when the thread is ready to look at the lock. -/
structure Backoff (W : Type) where
  start : W
  failed : W → W
  pause : W → Option W

/-- Where a thread is: at its program, in front of the lock, between a look at the free lock
and the attempt to take it, or inside. -/
inductive Phase (S T : Signature) (W β : Type) where
  | client (p : Prog S β)
  | waiting (o : S.Op) (k : S.Ret o → Prog S β) (w : W)
  | setting (o : S.Op) (k : S.Ret o → Prog S β) (w : W)
  | inside (o : S.Op) (k : S.Ret o → Prog S β) (p : Prog T (S.Ret o))

/-- What is left of the client program. An operation is left until the lock is released. -/
def Phase.prog {S T : Signature} {W β : Type} : Phase S T W β → Prog S β
  | client p => p
  | waiting o k _ | setting o k _ | inside o k _ => .exec o k

def Phase.isInside {S T : Signature} {W β : Type} : Phase S T W β → Bool
  | client _ | waiting _ _ _ | setting _ _ _ => false
  | inside _ _ _ => true

/-- The state of waiting has the property `P`. -/
def Phase.WaitsIn {S T : Signature} {W β : Type} (P : W → Prop) : Phase S T W β → Prop
  | waiting _ _ w | setting _ _ w => P w
  | client _ | inside _ _ _ => True

structure LockThread (S T : Signature) (W J β : Type) where
  invocation : Nat
  job : J
  phase : Phase S T W β

structure LockPool (S T : Signature) (σ W J β : Type) where
  word : BitVec 32
  shared : σ
  threads : Nat → Option (LockThread S T W J β)
  next : Nat

/-- The client programs, the programs behind their operations, the machine that these run on, and
the way of waiting. -/
structure LockSystem (S T : Signature) (σ W J β : Type) where
  body : J → Prog S β
  impl : (o : S.Op) → Prog T (S.Ret o)
  machine : Machine T σ
  backoff : Backoff W

namespace LockPool

variable {S T : Signature} {σ α W J β : Type}

def init (x : σ) : LockPool S T σ W J β := ⟨0#32, x, fun _ => none, 0⟩

def setThread (f : LockPool S T σ W J β) (t : Nat) (th : Option (LockThread S T W J β)) :
    LockPool S T σ W J β :=
  { f with threads := Function.update f.threads t th }

variable (sys : LockSystem S T σ W J β)

inductive Step (f : LockPool S T σ W J β) : LockPool S T σ W J β → Prop
  | start (t : Nat) (j : J) (h : f.threads t = none) :
      Step f { f.setThread t (some ⟨f.next, j, .client (sys.body j)⟩) with next := f.next + 1 }
  | call (t i : Nat) (j : J) (o : S.Op) (k : S.Ret o → Prog S β)
      (h : f.threads t = some ⟨i, j, .client (.exec o k)⟩) :
      Step f (f.setThread t (some ⟨i, j, .waiting o k sys.backoff.start⟩))
  | pause (t i : Nat) (j : J) (o : S.Op) (k : S.Ret o → Prog S β) (w w' : W)
      (h : f.threads t = some ⟨i, j, .waiting o k w⟩) (hw : sys.backoff.pause w = some w') :
      Step f (f.setThread t (some ⟨i, j, .waiting o k w'⟩))
  | look (t i : Nat) (j : J) (o : S.Op) (k : S.Ret o → Prog S β) (w : W)
      (h : f.threads t = some ⟨i, j, .waiting o k w⟩) (hw : sys.backoff.pause w = none) :
      Step f (f.setThread t (some ⟨i, j,
        if f.word = 0#32 then .setting o k w else .waiting o k (sys.backoff.failed w)⟩))
  | set (t i : Nat) (j : J) (o : S.Op) (k : S.Ret o → Prog S β) (w : W)
      (h : f.threads t = some ⟨i, j, .setting o k w⟩) :
      Step f { f.setThread t (some ⟨i, j,
        if f.word.getLsbD 0 then .waiting o k (sys.backoff.failed w)
        else .inside o k (sys.impl o)⟩) with word := f.word ||| 1#32 }
  | run (t i : Nat) (j : J) (o : S.Op) (k : S.Ret o → Prog S β) (a : T.Op)
      (c : T.Ret a → Prog T (S.Ret o)) (r : T.Ret a) (x : σ)
      (h : f.threads t = some ⟨i, j, .inside o k (.exec a c)⟩)
      (hrun : sys.machine f.shared a = (some r, x)) :
      Step f { f.setThread t (some ⟨i, j, .inside o k (c r)⟩) with shared := x }
  | unlock (t i : Nat) (j : J) (o : S.Op) (k : S.Ret o → Prog S β) (r : S.Ret o)
      (h : f.threads t = some ⟨i, j, .inside o k (.ret r)⟩) :
      Step f { f.setThread t (some ⟨i, j, .client (k r)⟩) with word := 0#32 }
  | finish (t i : Nat) (j : J) (b : β) (h : f.threads t = some ⟨i, j, .client (.ret b)⟩) :
      Step f (f.setThread t none)

inductive Reachable (x : σ) : LockPool S T σ W J β → Prop
  | init : Reachable x (init x)
  | step {f f' : LockPool S T σ W J β} (reached : Reachable x f) (step : Step sys f f') :
      Reachable x f'

/-! ## Atomic operations -/

/-- The pool in which each operation is one step. -/
def atomic (body : J → Prog S β) (I : Interface S α) : System S α J β where
  body := body
  Answers _ x o r x' := I.Post x o r x'
  Moves _ _ := False

/-- No thread comes to an operation without its precondition. -/
def Safe (body : J → Prog S β) (I : Interface S α) (x : α) : Prop :=
  ∀ c, Pool.Reachable (atomic body I) x c →
    ∀ t i j o k, c.threads t = some ⟨i, j, .exec o k⟩ → I.Pre c.shared o

/-- A thread as the pool of atomic operations sees it. -/
def seen (th : LockThread S T W J β) : Thread S J β :=
  ⟨th.invocation, th.job, th.phase.prog⟩

/-- The pool `f` belongs to the atomic pool `c`. The thread `holder` is inside: what is left of its
program leads to an outcome that the interface allows. -/
structure Refines (I : Interface S α) (R : σ → α → Prop) (f : LockPool S T σ W J β)
    (c : Pool S α J β) (holder : Option Nat) : Prop where
  next : c.next = f.next
  threads : ∀ t, c.threads t = (f.threads t).map seen
  word : f.word = if holder = none then 0#32 else 1#32
  inside : ∀ t th, f.threads t = some th → (th.phase.isInside = true ↔ holder = some t)
  free : holder = none → R f.shared c.shared
  known : ∃ y, R y c.shared
  held : ∀ t, holder = some t → ∃ i j o k p r x x', f.threads t = some ⟨i, j, .inside o k p⟩ ∧
    p.Runs sys.machine f.shared r x ∧ I.Post c.shared o r x' ∧ R x x'

namespace Refines

variable {sys} {I : Interface S α} {R : σ → α → Prop} {f f' : LockPool S T σ W J β}
  {c : Pool S α J β} {holder : Option Nat} {t i : Nat} {j : J} {ph ph' : Phase S T W β}

/-- Replacing a thread in both pools. -/
theorem threads_update (h : Refines sys I R f c holder) (th : Option (LockThread S T W J β)) (t' : Nat) :
    Function.update c.threads t (th.map seen) t' = (Function.update f.threads t th t').map seen := by
  rcases eq_or_ne t' t with rfl | hne
  · rw [Function.update_self, Function.update_self]
  · rw [Function.update_of_ne hne, Function.update_of_ne hne, h.threads]

/-- Only the holder is inside. -/
theorem inside_update {th : LockThread S T W J β} {holder' : Option Nat}
    (h : Refines sys I R f c holder)
    (hself : th.phase.isInside = true ↔ holder' = some t)
    (hother : ∀ t', t' ≠ t → (holder = some t' ↔ holder' = some t')) (t' : Nat)
    (th' : LockThread S T W J β) (ht' : Function.update f.threads t (some th) t' = some th') :
    th'.phase.isInside = true ↔ holder' = some t' := by
  rcases eq_or_ne t' t with rfl | hne
  · rw [Function.update_self] at ht'
    obtain rfl := Option.some.inj ht'
    exact hself
  · rw [Function.update_of_ne hne] at ht'
    rw [h.inside t' th' ht', hother t' hne]

/-- A thread outside moves without a change of its program. -/
theorem shift (h : Refines sys I R f c holder) (ht : f.threads t = some ⟨i, j, ph⟩)
    (hph : ph.isInside = false) (hph' : ph'.isInside = false) (hprog : ph'.prog = ph.prog) :
    Refines sys I R (f.setThread t (some ⟨i, j, ph'⟩)) c holder := by
  have hnot : holder ≠ some t := fun he => by
    rw [(h.inside t _ ht).2 he] at hph
    cases hph
  have hseen : Function.update c.threads t ((some ⟨i, j, ph'⟩ : Option (LockThread S T W J β)).map seen) =
      c.threads := by
    rw [Function.update_eq_self_iff, h.threads t, ht, Option.map_some, Option.map_some, seen, seen]
    simp only [hprog]
  refine ⟨h.next, fun t' => ?_, h.word, ?_, h.free, h.known, fun t' ht' => ?_⟩
  · rw [← hseen]
    exact h.threads_update _ t'
  · refine h.inside_update ?_ fun t' _ => Iff.rfl
    exact iff_of_false (Bool.eq_false_iff.1 hph') hnot
  · have hne : t' ≠ t := by
      rintro rfl
      exact hnot ht'
    simp only [setThread, Function.update_of_ne hne]
    exact h.held t' ht'

/-- A thread that is inside is the holder. -/
theorem holder_of_inside {o : S.Op} {k : S.Ret o → Prog S β} {p : Prog T (S.Ret o)}
    (h : Refines sys I R f c holder) (ht : f.threads t = some ⟨i, j, .inside o k p⟩) :
    holder = some t ∧ ∃ r x x', p.Runs sys.machine f.shared r x ∧ I.Post c.shared o r x' ∧ R x x' := by
  have hholder := (h.inside t _ ht).1 rfl
  obtain ⟨i', j', o', k', p', r, x, x', ht', hrun, hpost, hR⟩ := h.held t hholder
  rw [ht] at ht'
  cases ht'
  exact ⟨hholder, r, x, x', hrun, hpost, hR⟩

/-- While nobody is inside, the lock has no holder. -/
theorem holder_eq_none (h : Refines sys I R f c holder)
    (hout : ∀ t th, f.threads t = some th → th.phase.isInside = false) : holder = none := by
  by_contra hne
  obtain ⟨t, ht⟩ := Option.ne_none_iff_exists'.1 hne
  obtain ⟨i, j, o, k, p, -, -, -, hth, -⟩ := h.held t ht
  have hin := hout t _ hth
  cases hin

/-- Taking the lock. -/
theorem acquire {o : S.Op} {k : S.Ret o → Prog S β} {w : W} (himpl : Implements sys.machine I sys.impl R)
    (h : Refines sys I R f c holder) (ht : f.threads t = some ⟨i, j, .setting o k w⟩)
    (hpre : I.Pre c.shared o) (hbit : f.word.getLsbD 0 = false) :
    Refines sys I R { f.setThread t (some ⟨i, j, .inside o k (sys.impl o)⟩) with
      word := f.word ||| 1#32 } c (some t) := by
  have hnone : holder = none := by
    by_contra hne
    rw [h.word, if_neg hne] at hbit
    cases hbit
  obtain ⟨r, x, x', hrun, hpost, hR⟩ := himpl f.shared c.shared o (h.free hnone) hpre
  refine ⟨h.next, fun t' => ?_, ?_, ?_, (fun he => nomatch he), h.known, fun t' ht' => ?_⟩
  · have hseen : Function.update c.threads t ((some ⟨i, j, .inside o k (sys.impl o)⟩ :
        Option (LockThread S T W J β)).map seen) = c.threads := by
      rw [Function.update_eq_self_iff, h.threads t, ht]
      rfl
    rw [← hseen]
    exact h.threads_update _ t'
  · rw [h.word, hnone, if_pos rfl, if_neg (by simp)]
    rfl
  · refine h.inside_update (iff_of_true rfl rfl) fun t' hne => ?_
    rw [hnone]
    exact iff_of_false (fun he => nomatch he) fun he => hne (Option.some.inj he).symm
  · obtain rfl := Option.some.inj ht'
    exact ⟨i, j, o, k, _, r, x, x', Function.update_self .., hrun, hpost, hR⟩

/-- One operation of the machine. -/
theorem run {o : S.Op} {k : S.Ret o → Prog S β} {a : T.Op} {d : T.Ret a → Prog T (S.Ret o)}
    {r : T.Ret a} {x : σ} (h : Refines sys I R f c holder)
    (ht : f.threads t = some ⟨i, j, .inside o k (.exec a d)⟩)
    (hrun : sys.machine f.shared a = (some r, x)) :
    Refines sys I R { f.setThread t (some ⟨i, j, .inside o k (d r)⟩) with shared := x } c holder := by
  obtain ⟨hholder, b, y, y', hp, hpost, hR⟩ := h.holder_of_inside ht
  rw [Prog.Runs, Prog.run_exec, hrun] at hp
  refine ⟨h.next, fun t' => ?_, h.word, ?_, fun he => ?_, h.known, fun t' ht' => ?_⟩
  · have hseen : Function.update c.threads t ((some ⟨i, j, .inside o k (d r)⟩ :
        Option (LockThread S T W J β)).map seen) = c.threads := by
      rw [Function.update_eq_self_iff, h.threads t, ht]
      rfl
    rw [← hseen]
    exact h.threads_update _ t'
  · exact h.inside_update (iff_of_true rfl hholder) fun t' _ => Iff.rfl
  · rw [hholder] at he
    cases he
  · rw [hholder] at ht'
    obtain rfl := Option.some.inj ht'
    exact ⟨i, j, o, k, _, b, y, y', Function.update_self .., hp, hpost, hR⟩

/-- Releasing the lock is the step of the atomic pool. -/
theorem unlock {o : S.Op} {k : S.Ret o → Prog S β} {r : S.Ret o} (h : Refines sys I R f c holder)
    (ht : f.threads t = some ⟨i, j, .inside o k (.ret r)⟩) :
    ∃ c', Pool.Step (atomic sys.body I) c c' ∧
      Refines sys I R { f.setThread t (some ⟨i, j, .client (k r)⟩) with word := 0#32 } c' none := by
  obtain ⟨hholder, r', x, x', hp, hpost, hR⟩ := h.holder_of_inside ht
  obtain ⟨rfl, rfl⟩ : r' = r ∧ x = f.shared := by
    have he := Prod.mk.inj (show (some r, f.shared) = (some r', x) from hp)
    exact ⟨(Option.some.inj he.1).symm, he.2.symm⟩
  have hct : c.threads t = some ⟨i, j, .exec o k⟩ := by
    rw [h.threads t, ht]
    rfl
  refine ⟨_, .run t i j o k r' x' hct hpost, h.next,
    fun t' => h.threads_update (some ⟨i, j, .client (k r')⟩) t', rfl, ?_, fun _ => hR, ⟨_, hR⟩,
    fun t' ht' => nomatch ht'⟩
  refine h.inside_update (iff_of_false Bool.false_ne_true (by simp)) fun t' hne => ?_
  rw [hholder]
  exact iff_of_false (fun he => hne (Option.some.inj he).symm) fun he => nomatch he

/-- A thread that is not inside starts or ends. -/
theorem outside {th : Option (LockThread S T W J β)} {n m : Nat} (h : Refines sys I R f c holder)
    (hnot : holder ≠ some t) (hth : ∀ th', th = some th' → th'.phase.isInside = false) (hnm : m = n) :
    Refines sys I R { f.setThread t th with next := n }
      { c.setThread t (th.map seen) with next := m } holder := by
  refine ⟨hnm, h.threads_update th, h.word, fun t' th' ht' => ?_, h.free, h.known, fun t' ht' => ?_⟩
  · simp only [setThread] at ht'
    rcases eq_or_ne t' t with rfl | hne
    · rw [Function.update_self] at ht'
      exact iff_of_false (Bool.eq_false_iff.1 (hth th' ht')) hnot
    · rw [Function.update_of_ne hne] at ht'
      exact h.inside t' th' ht'
  · have hne : t' ≠ t := by
      rintro rfl
      exact hnot ht'
    simp only [setThread, Function.update_of_ne hne]
    exact h.held t' ht'

theorem not_holder (h : Refines sys I R f c holder) (ht : f.threads t = some ⟨i, j, ph⟩)
    (hph : ph.isInside = false) : holder ≠ some t := fun he => by
  rw [(h.inside t _ ht).2 he] at hph
  cases hph

/-- A step of the pool is a step of the atomic one, or none. -/
theorem step (himpl : Implements sys.machine I sys.impl R) (h : Refines sys I R f c holder)
    (hsafe : ∀ t i j o k, c.threads t = some ⟨i, j, .exec o k⟩ → I.Pre c.shared o)
    (step : Step sys f f') :
    ∃ c' holder', (c' = c ∨ Pool.Step (atomic sys.body I) c c') ∧ Refines sys I R f' c' holder' := by
  cases step with
  | start t j ht =>
    have hct : c.threads t = none := by
      rw [h.threads t, ht]
      rfl
    have hnot : holder ≠ some t := fun he => by
      obtain ⟨i, j, o, k, p, -, -, -, ht', -⟩ := h.held t he
      rw [ht] at ht'
      cases ht'
    have hout := @outside _ _ _ _ _ _ _ sys I R f c holder t
      (some ⟨f.next, j, .client (sys.body j)⟩) (f.next + 1) (c.next + 1) h hnot
      (by rintro _ ⟨⟩; rfl) (by rw [h.next])
    refine ⟨_, holder, .inr (.start t j hct), ?_⟩
    rw [← h.next] at hout ⊢
    exact hout
  | call t i j o k ht => exact ⟨c, holder, .inl rfl, h.shift ht rfl rfl rfl⟩
  | pause t i j o k w w' ht hw => exact ⟨c, holder, .inl rfl, h.shift ht rfl rfl rfl⟩
  | look t i j o k w ht hw =>
    refine ⟨c, holder, .inl rfl, h.shift ht rfl ?_ ?_⟩ <;> split <;> rfl
  | set t i j o k w ht =>
    by_cases hbit : f.word.getLsbD 0 = true
    · -- The bit was set already, so the word stays as it is.
      have hheld : holder ≠ none := fun hnone => by
        rw [h.word, if_pos hnone] at hbit
        cases hbit
      have hword : f.word ||| 1#32 = f.word := by
        rw [h.word, if_neg hheld]
        rfl
      have hshift : Refines sys I R (f.setThread t
          (some ⟨i, j, .waiting o k (sys.backoff.failed w)⟩)) c holder := h.shift ht rfl rfl rfl
      rw [if_pos hbit, hword]
      exact ⟨c, holder, .inl rfl, hshift⟩
    · have hct : c.threads t = some ⟨i, j, .exec o k⟩ := by
        rw [h.threads t, ht]
        rfl
      rw [if_neg hbit]
      exact ⟨c, some t, .inl rfl,
        h.acquire himpl ht (hsafe t i j o k hct) (Bool.eq_false_iff.2 hbit)⟩
  | run t i j o k a d r x ht hrun => exact ⟨c, holder, .inl rfl, h.run ht hrun⟩
  | unlock t i j o k r ht =>
    obtain ⟨c', hstep, h'⟩ := h.unlock ht
    exact ⟨c', none, .inr hstep, h'⟩
  | finish t i j b ht =>
    have hct : c.threads t = some ⟨i, j, .ret b⟩ := by
      rw [h.threads t, ht]
      rfl
    exact ⟨_, holder, .inr (.finish t i j b hct), @outside _ _ _ _ _ _ _ sys I R f c holder t none
      f.next c.next h (h.not_holder ht rfl) (fun _ he => nomatch he) h.next⟩

end Refines

variable {sys}

/-- Under the lock operations are atomic: every state that is reached belongs to a state that the
atomic pool reaches. -/
theorem Reachable.refined {I : Interface S α} {R : σ → α → Prop} {x : σ} {x' : α}
    {f : LockPool S T σ W J β} (himpl : Implements sys.machine I sys.impl R)
    (hsafe : Safe sys.body I x') (hR : R x x') (reached : Reachable sys x f) :
    ∃ c holder, Pool.Reachable (atomic sys.body I) x' c ∧ Refines sys I R f c holder := by
  induction reached with
  | init =>
    exact ⟨Pool.init x', none, .init, rfl, fun _ => rfl, rfl, (fun _ _ ht => nomatch ht), fun _ => hR, ⟨x, hR⟩,
      fun _ ht => nomatch ht⟩
  | step _ step ih =>
    obtain ⟨c, holder, hc, h⟩ := ih
    obtain ⟨c', holder', hstep, h'⟩ := h.step himpl (hsafe c hc) step
    refine ⟨c', holder', ?_, h'⟩
    rcases hstep with rfl | hstep
    · exact hc
    · exact hc.step hstep

theorem of_update {f : LockPool S T σ W J β} {Q : LockThread S T W J β → Prop} {t : Nat}
    {th : Option (LockThread S T W J β)} (h : ∀ t th, f.threads t = some th → Q th)
    (hth : ∀ th', th = some th' → Q th') (t' : Nat) (th' : LockThread S T W J β)
    (ht' : Function.update f.threads t th t' = some th') : Q th' := by
  rcases eq_or_ne t' t with rfl | hne
  · rw [Function.update_self] at ht'
    exact hth th' ht'
  · rw [Function.update_of_ne hne] at ht'
    exact h t' th' ht'

/-- Whatever holds of how threads wait, from the start on, holds in every state. -/
theorem Reachable.waits {P : W → Prop} (hstart : P sys.backoff.start)
    (hfailed : ∀ w, P w → P (sys.backoff.failed w))
    (hpause : ∀ w w', P w → sys.backoff.pause w = some w' → P w') {x : σ}
    {f : LockPool S T σ W J β} (reached : Reachable sys x f) :
    ∀ t th, f.threads t = some th → th.phase.WaitsIn P := by
  induction reached with
  | init => exact fun _ _ ht => nomatch ht
  | step _ step ih =>
    cases step with
    | start t j ht => exact of_update ih (by rintro _ ⟨⟩; trivial)
    | call t i j o k ht => exact of_update ih (by rintro _ ⟨⟩; exact hstart)
    | pause t i j o k w w' ht hw => exact of_update ih (by rintro _ ⟨⟩; exact hpause w w' (ih t _ ht) hw)
    | look t i j o k w ht hw =>
      refine of_update ih ?_
      rintro _ ⟨⟩
      have hw : P w := ih t _ ht
      simp only
      split
      · exact hw
      · exact hfailed w hw
    | set t i j o k w ht =>
      refine of_update ih ?_
      rintro _ ⟨⟩
      have hw : P w := ih t _ ht
      simp only
      split
      · exact hfailed w hw
      · trivial
    | run t i j o k a c r x ht hrun => exact of_update ih (by rintro _ ⟨⟩; trivial)
    | unlock t i j o k r ht => exact of_update ih (by rintro _ ⟨⟩; trivial)
    | finish t i j b ht => exact of_update ih (fun _ he => nomatch he)

end LockPool

end Effect
