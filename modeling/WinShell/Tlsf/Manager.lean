-- SUMMARY: The memory manager: the allocator behind a spin lock, for any number of threads.
import WinShell.Effect.Progress
import WinShell.Tlsf.Clients
import Mathlib.Data.Set.Insert

/-!
# Memory manager

`tlsf_allocator` guards every call of the allocator with a spin lock. Threads that free
only what they allocated themselves are served under every interleaving of their
accesses: the allocator is entered by one thread at a time, no assertion of it fails,
and the calls are atomic.
-/

namespace WinShell.Tlsf

open Effect

/-! ## Waiting for the lock -/

def maxWait : BitVec 32 := 65536#32

/-- Where `lock_spinlock` is: in front of a look at the lock, or at the `j`-th pause. -/
inductive Waiting where
  | testing (wait : BitVec 32)
  | pausing (wait j : BitVec 32)

/-- `lock_spinlock`: after each failed attempt `wait` pauses, and then twice as many. -/
def lockSpinlock : Backoff Waiting where
  start := .testing 1#32
  failed
    | .testing wait | .pausing wait _ => .pausing wait 0#32
  pause
    | .testing _ => none
    | .pausing wait j =>
      if j < wait then
        some (.pausing wait (j + 1#32))
      else
        some (.testing (if wait * 2#32 > maxWait then maxWait else wait * 2#32))

/-- The waits are powers of two up to the limit. -/
def Waiting.Bounded : Waiting → Prop
  | testing wait => ∃ k ≤ 16, wait.toNat = 2 ^ k
  | pausing wait j => (∃ k ≤ 16, wait.toNat = 2 ^ k) ∧ j.toNat ≤ wait.toNat

/-- How many pauses are left before the next look. -/
def Waiting.left : Waiting → Nat
  | testing _ => 0
  | pausing wait j => wait.toNat - j.toNat + 1

theorem doubled_eq {wait : BitVec 32} {k : Nat} (hk : k ≤ 16) (hw : wait.toNat = 2 ^ k) :
    (if wait * 2#32 > maxWait then maxWait else wait * 2#32).toNat = 2 ^ min (k + 1) 16 := by
  have hpow : 2 ^ k ≤ 2 ^ 16 := Nat.pow_le_pow_right (by decide) hk
  have hmul : (wait * 2#32).toNat = 2 ^ (k + 1) := by
    rw [BitVec.toNat_mul, hw, Nat.pow_succ]
    exact Nat.mod_eq_of_lt (by simp only [BitVec.toNat_ofNat]; omega)
  have hmax : maxWait.toNat = 2 ^ 16 := by decide
  rcases Nat.lt_or_ge k 16 with hlt | hge
  · have hle : 2 ^ (k + 1) ≤ 2 ^ 16 := Nat.pow_le_pow_right (by decide) hlt
    rw [if_neg (by rw [gt_iff_lt, BitVec.lt_def, hmul, hmax]; omega), hmul, Nat.min_eq_left hlt]
  · obtain rfl : k = 16 := Nat.le_antisymm hk hge
    rw [if_pos (by rw [gt_iff_lt, BitVec.lt_def, hmul, hmax]; decide), hmax]
    rfl

theorem bounded_start : lockSpinlock.start.Bounded := ⟨0, by decide, rfl⟩

theorem bounded_failed (w : Waiting) (h : w.Bounded) : (lockSpinlock.failed w).Bounded := by
  cases w with
  | testing wait => exact ⟨h, Nat.zero_le _⟩
  | pausing wait j => exact ⟨h.1, Nat.zero_le _⟩

/-- Each step of a pause brings the next look nearer. -/
theorem bounded_pause (w w' : Waiting) (h : w.Bounded) (hw : lockSpinlock.pause w = some w') :
    w'.Bounded ∧ w'.left < w.left := by
  cases w with
  | testing wait => cases hw
  | pausing wait j =>
    obtain ⟨⟨k, hk, hwait⟩, hj⟩ := h
    simp only [lockSpinlock] at hw
    split at hw
    · rename_i hlt
      obtain rfl := Option.some.inj hw
      have hlt : j.toNat < wait.toNat := hlt
      have hsucc : (j + 1#32).toNat = j.toNat + 1 := by
        rw [BitVec.toNat_add]
        exact Nat.mod_eq_of_lt (by simp only [BitVec.toNat_ofNat]; omega)
      refine ⟨⟨⟨k, hk, hwait⟩, by omega⟩, ?_⟩
      simp only [Waiting.left, hsucc]
      omega
    · obtain rfl := Option.some.inj hw
      exact ⟨⟨_, Nat.min_le_right _ 16, doubled_eq hk hwait⟩, Nat.succ_pos _⟩

theorem lockSpinlock_ends : lockSpinlock.Ends Waiting.Bounded Waiting.left :=
  ⟨bounded_start, bounded_failed, bounded_pause⟩

/-! ## The manager -/

inductive ManagerCall where
  | allocate (allocationSize : BitVec 32)
  | allocateAlign (allocationSize : BitVec 32) (align : Nat)
  | deallocate (ptrToAllocation : Nat)

@[simp] def ManagerCall.Ret : ManagerCall → Type
  | allocate _ | allocateAlign _ _ => Nat
  | deallocate _ => Unit

def managerCalls : Signature := ⟨ManagerCall, ManagerCall.Ret⟩

/-- The methods of `tlsf_allocator`, inside of the lock. -/
def guarded (serviceData : Nat) : (o : ManagerCall) → Code o.Ret
  | .allocate allocationSize => tlsfMalloc serviceData allocationSize.toNat
  | .allocateAlign allocationSize align => tlsfMemalign serviceData align allocationSize.toNat
  | .deallocate ptrToAllocation => tlsfFree serviceData ptrToAllocation

/-- Alignments are those that the code admits, and what is released is live. -/
def managerInterface : Interface managerCalls Contents where
  Pre A
    | .allocate _ => True
    | .allocateAlign _ align => Alignable align
    | .deallocate ptr => ptr ≠ 0 → (A ptr).isSome
  Post A o r A' := match o, r with
    | .allocate size, r => Allocates A alignSize size.toNat r A'
    | .allocateAlign size align, r => Allocates A align size.toNat r A'
    | .deallocate ptr, _ => A' = Function.update A ptr none

theorem reasonable_of_bitVec (size : BitVec 32) : Reasonable size.toNat := by
  have := size.isLt
  show size.toNat + 7 < 2 ^ 64
  omega

theorem manager_implements (arena : Arena) :
    Implements (machine arena) managerInterface (guarded arena.control) (Keeps arena) := by
  intro s A o h hpre
  cases o with
  | allocate size => exact h.malloc (reasonable_of_bitVec size)
  | allocateAlign size align =>
    obtain ⟨j, hj, rfl⟩ := hpre
    exact h.memalign (reasonable_of_bitVec size) hj
  | deallocate ptr =>
    obtain ⟨s', run, h'⟩ := h.free hpre
    exact ⟨(), s', _, run, rfl, h'⟩

/-- The threads of a program that share the manager. -/
def managerSystem (arena : Arena) {J β : Type} (body : J → Prog managerCalls β) :
    LockSystem managerCalls accesses State Waiting J β :=
  ⟨body, guarded arena.control, machine arena, lockSpinlock⟩

/-! ## Ownership -/

/-- The blocks that a thread has allocated and not released. Others leave them alone. -/
structure Owned where
  pointers : Set Nat

namespace Owned

instance : PartialOrder Owned where
  le v w := v = w
  le_refl _ := rfl
  le_trans _ _ _ h h' := h.trans h'
  le_antisymm _ _ h _ := h

theorem isMax (v : Owned) : IsMax v := fun _ h => le_of_eq h.symm

/-- What a thread owns after an allocation that returned `r`. -/
def add (v : Owned) (r : Nat) : Owned := if r = 0 then v else ⟨insert r v.pointers⟩

def remove (v : Owned) (ptr : Nat) : Owned := ⟨v.pointers \ {ptr}⟩

end Owned

/-- A thread frees what it owns, and owns what it allocates. The alignments that it asks for are those
that the code admits. -/
def ownership : Protocol managerCalls Owned where
  Permits v
    | .allocate _ => True
    | .allocateAlign _ align => Alignable align
    | .deallocate ptr => ptr ≠ 0 → ptr ∈ v.pointers
  Yields v o r v' := match o, r with
    | .allocate _, r | .allocateAlign _ _, r => v' = v.add r
    | .deallocate ptr, _ => v' = v.remove ptr

/-- Owned blocks are live, and owned once. -/
structure Shared (A : Contents) (views : Nat → Owned) : Prop where
  live : ∀ i, ∀ p ∈ (views i).pointers, p ≠ 0 ∧ (A p).isSome
  once : ∀ i i' p, p ∈ (views i).pointers → p ∈ (views i').pointers → i = i'

section Ownership

variable {A A' : Contents} {views : Nat → Owned} {i r p : Nat}

theorem Shared.allocate {align size : Nat} (h : Shared A views) (hA : Allocates A align size r A') :
    Shared A' (Function.update views i ((views i).add r)) := by
  rcases hA with ⟨rfl, rfl⟩ | ⟨hr, hnone, -, -, -, vs, -, rfl⟩
  · rwa [Owned.add, if_pos rfl, Function.update_eq_self]
  have hfresh : ∀ i', r ∉ (views i').pointers := fun i' hmem => by
    have := (h.live i' r hmem).2
    rw [hnone] at this
    cases this
  rw [Owned.add, if_neg hr]
  refine ⟨fun i' p hp => ?_, fun i₁ i₂ p h₁ h₂ => ?_⟩
  · rw [Function.update_apply] at hp ⊢
    split at hp
    · rcases Set.mem_insert_iff.1 hp with rfl | hp
      · exact ⟨hr, by rw [if_pos rfl]; rfl⟩
      · have := h.live i p hp
        split
        · exact ⟨this.1, rfl⟩
        · exact this
    · have := h.live i' p hp
      split
      · exact ⟨this.1, rfl⟩
      · exact this
  · simp only [Function.update_apply] at h₁ h₂
    split at h₁ <;> split at h₂
    · rename_i he₁ he₂
      rw [he₁, he₂]
    · rename_i he₁ he₂
      rcases Set.mem_insert_iff.1 h₁ with rfl | h₁
      · exact absurd h₂ (hfresh i₂)
      · exact he₁.trans (h.once i i₂ p h₁ h₂)
    · rename_i he₁ he₂
      rcases Set.mem_insert_iff.1 h₂ with rfl | h₂
      · exact absurd h₁ (hfresh i₁)
      · exact (h.once i₁ i p h₁ h₂).trans he₂.symm
    · exact h.once i₁ i₂ p h₁ h₂

theorem Shared.deallocate (h : Shared A views) (hp : p ≠ 0 → p ∈ (views i).pointers) :
    Shared (Function.update A p none) (Function.update views i ((views i).remove p)) := by
  have hother : ∀ i' q, q ∈ (Function.update views i ((views i).remove p) i').pointers →
      q ∈ (views i').pointers ∧ q ≠ p := by
    intro i' q hq
    rw [Function.update_apply] at hq
    split at hq
    · rename_i he
      rw [he]
      exact hq
    · rename_i hne
      refine ⟨hq, ?_⟩
      rintro rfl
      exact hne (h.once i' i q hq (hp (h.live i' q hq).1))
  refine ⟨fun i' q hq => ?_, fun i₁ i₂ q h₁ h₂ => h.once i₁ i₂ q (hother i₁ q h₁).1 (hother i₂ q h₂).1⟩
  obtain ⟨hmem, hne⟩ := hother i' q hq
  rw [Function.update_of_ne hne]
  exact h.live i' q hmem

theorem Shared.pre {o : ManagerCall} (h : Shared A views) (ho : ownership.Permits (views i) o) :
    managerInterface.Pre A o := by
  cases o with
  | allocate size => trivial
  | allocateAlign size align => exact ho
  | deallocate ptr => exact fun hptr => (h.live i ptr (ho hptr)).2

theorem shared_represents {J β : Type} (body : J → Prog managerCalls β) :
    Pool.Represents (LockPool.atomic body managerInterface) ownership Shared where
  run := by
    intro A views i o r A' h ho hA
    cases o with
    | allocate size => exact ⟨_, rfl, h.allocate hA⟩
    | allocateAlign size align => exact ⟨_, rfl, h.allocate hA⟩
    | deallocate ptr =>
      obtain rfl : A' = Function.update A ptr none := hA
      exact ⟨_, rfl, h.deallocate ho⟩
  move := fun _ _ _ _ hmove => hmove.elim

/-- Threads that follow the ownership discipline come to no call without its precondition. -/
theorem safe_of_ownership {J β : Type} {body : J → Prog managerCalls β}
    (hbody : ∀ j, (body j).Follows ownership (fun _ _ => True) ⟨∅⟩) :
    LockPool.Safe body managerInterface fun _ => none := by
  intro c reached t i j o k ht
  obtain ⟨views, h⟩ := reached.viewed (Q := fun _ _ _ => True) (shared_represents body) (Owned.isMax ⟨∅⟩)
    ⟨fun _ p hp => absurd hp (Set.notMem_empty p), fun _ _ p hp => absurd hp (Set.notMem_empty p)⟩
    hbody
  have hfollows : (Prog.exec o k).Follows ownership (fun _ _ => True) (views i) := h.follows t _ ht
  exact h.rep.pre hfollows.permits

end Ownership

/-! ## Service to threads -/

section Threads

variable {arena : Arena} {J β : Type} {body : J → Prog managerCalls β}

/-- Any number of threads, each of which frees only what it allocated, share the manager under
every interleaving: one thread at a time is inside, the allocator stops at no assertion and leaves
the arena at no access, and the state belongs to one that atomic calls reach, with its live blocks
in order. Whenever nobody is inside, the pool holds exactly these blocks. -/
theorem threads_served (hmin : blockSizeMin ≤ arena.poolBytes) (hmax : arena.poolBytes < blockSizeMax)
    (s : State) (hbody : ∀ j, (body j).Follows ownership (fun _ _ => True) ⟨∅⟩) :
    ∃ s₁, Runs arena (tlsfCreateWithPool arena.control arena.bytes) s arena.control s₁ ∧
      ∀ f, LockPool.Reachable (managerSystem arena body) s₁ f →
        (∀ t t' th th', f.threads t = some th → f.threads t' = some th' → th.phase.isInside = true →
          th'.phase.isInside = true → t = t') ∧
        (∀ t i j o k a d, f.threads t = some ⟨i, j, .inside o k (.exec a d)⟩ →
          ∃ r x, machine arena f.shared a = (some r, x)) ∧
        ∃ c, Pool.Reachable (LockPool.atomic body managerInterface) (fun _ => none) c ∧
          (∀ t, c.threads t = (f.threads t).map LockPool.seen) ∧ c.shared.Placed arena ∧
          ((∀ t th, f.threads t = some th → th.phase.isInside = false) → Keeps arena f.shared c.shared) := by
  obtain ⟨s₁, r₁, h₁⟩ := Holds.create hmin hmax s
  refine ⟨s₁, r₁, fun f reached => ?_⟩
  obtain ⟨c, holder, hc, h⟩ := reached.refined (manager_implements arena) (safe_of_ownership hbody)
    ⟨_, h₁, rfl⟩
  refine ⟨fun t t' th th' ht ht' hin hin' => ?_, fun t i j o k a d ht => ?_, c, hc, h.threads, ?_,
    fun hout => h.free (h.holder_eq_none hout)⟩
  · have he := ((h.inside t th ht).1 hin).symm.trans ((h.inside t' th' ht').1 hin')
    exact Option.some.inj he
  · obtain ⟨-, b, x, -, hrun, -⟩ := h.holder_of_inside ht
    rw [Prog.Runs, Prog.run_exec] at hrun
    rcases hM : machine arena f.shared a with ⟨_ | r, y⟩
    · have hM' : (managerSystem arena body).machine f.shared a = (none, y) := hM
      rw [hM'] at hrun
      cases hrun
    · exact ⟨r, y, rfl⟩
  · obtain ⟨y, hy⟩ := h.known
    exact hy.placed

/-- A thread that allocates a block and releases it. -/
def allocateOnce (size : BitVec 32) : Prog managerCalls Nat := do
  let ptr : Nat ← Prog.perform (S := managerCalls) (.allocate size)
  Prog.perform (S := managerCalls) (.deallocate ptr)
  return ptr

theorem allocateOnce_follows (size : BitVec 32) :
    (allocateOnce size).Follows ownership (fun _ _ => True) ⟨∅⟩ := by
  refine Prog.Follows.exec (Owned.isMax _) trivial fun (ptr : Nat) w hw => ?_
  obtain rfl : w = Owned.add ⟨∅⟩ ptr := hw
  have howned (hptr : ptr ≠ 0) : ptr ∈ (Owned.add ⟨∅⟩ ptr).pointers := by
    rw [Owned.add, if_neg hptr]
    exact Set.mem_insert ..
  exact Prog.Follows.exec (Owned.isMax _) howned fun _ _ _ => .ret (Owned.isMax _) trivial

theorem threads_served_allocateOnce :
    ∃ s₁, Runs pageArena (tlsfCreateWithPool pageArena.control pageArena.bytes) zeroed
        pageArena.control s₁ ∧
      ∀ f, LockPool.Reachable (managerSystem pageArena allocateOnce) s₁ f →
        (∀ t t' th th', f.threads t = some th → f.threads t' = some th' → th.phase.isInside = true →
          th'.phase.isInside = true → t = t') ∧
        (∀ t i j o k a d, f.threads t = some ⟨i, j, .inside o k (.exec a d)⟩ →
          ∃ r x, machine pageArena f.shared a = (some r, x)) ∧
        ∃ c, Pool.Reachable (LockPool.atomic allocateOnce managerInterface) (fun _ => none) c ∧
          (∀ t, c.threads t = (f.threads t).map LockPool.seen) ∧ c.shared.Placed pageArena ∧
          ((∀ t th, f.threads t = some th → th.phase.isInside = false) →
            Keeps pageArena f.shared c.shared) :=
  threads_served (by decide) (by decide) zeroed allocateOnce_follows

/-- Threads that share the manager come to no deadlock: from every state that they reach there is a way
on, on which no thread starts, to one in which all have ended. The lock is free there, and the pool
holds exactly the blocks that atomic calls have left allocated. -/
theorem threads_finish (hmin : blockSizeMin ≤ arena.poolBytes) (hmax : arena.poolBytes < blockSizeMax)
    (s : State) (hbody : ∀ j, (body j).Follows ownership (fun _ _ => True) ⟨∅⟩) :
    ∃ s₁, Runs arena (tlsfCreateWithPool arena.control arena.bytes) s arena.control s₁ ∧
      ∀ f, LockPool.Reachable (managerSystem arena body) s₁ f →
        ∃ f' c, Relation.ReflTransGen (LockPool.Step (managerSystem arena body)) f f' ∧
          f'.next = f.next ∧ (∀ t, f'.threads t = none) ∧ f'.word = 0#32 ∧
          Pool.Reachable (LockPool.atomic body managerInterface) (fun _ => none) c ∧
          Keeps arena f'.shared c.shared := by
  obtain ⟨s₁, r₁, h₁⟩ := Holds.create hmin hmax s
  refine ⟨s₁, r₁, fun f reached => ?_⟩
  have himpl := manager_implements arena
  have hsafe := safe_of_ownership hbody
  obtain ⟨f', hsteps, hnext, hnone⟩ := reached.finishes himpl hsafe ⟨_, h₁, rfl⟩ lockSpinlock_ends
  obtain ⟨c, holder, hc, h⟩ := (reached.steps hsteps).refined himpl hsafe ⟨_, h₁, rfl⟩
  have hholder : holder = none := h.holder_eq_none fun t th hth => by
    rw [hnone t] at hth
    cases hth
  exact ⟨f', c, hsteps, hnext, hnone, by rw [h.word, if_pos hholder], hc, h.free hholder⟩

/-- One thread is inside, and another has met the taken lock and waits twice as long. -/
theorem contended_reachable (s : State) :
    ∃ f, LockPool.Reachable (managerSystem pageArena allocateOnce) s f ∧
      (∃ th, f.threads 0 = some th ∧ th.phase.isInside = true) ∧
      ∃ o k, f.threads 1 = some ⟨1, 16#32, .waiting o k (.testing 2#32)⟩ := by
  have held : 1#32 ≠ 0#32 := by decide
  have created : LockPool.Reachable (managerSystem pageArena allocateOnce) s (.init s) := .init
  have started := (created.step (.start 0 48#32 rfl)).step (.start 1 16#32 rfl)
  have looked := (started.step (.call 0 0 48#32 _ _ rfl)).step
    (.look_free (t := 0) (w := .testing 1#32) rfl rfl rfl)
  have taken := looked.step (.set_free (t := 0) rfl rfl)
  have failed := (taken.step (.call 1 1 16#32 _ _ rfl)).step
    (.look_taken (t := 1) (w := .testing 1#32) rfl rfl held)
  have paused := failed.step (.pause 1 1 16#32 _ _ (.pausing 1#32 0#32) (.pausing 1#32 1#32) rfl rfl)
  have doubled := paused.step (.pause 1 1 16#32 _ _ (.pausing 1#32 1#32) (.testing 2#32) rfl rfl)
  exact ⟨_, doubled, ⟨_, rfl, rfl⟩, _, _, rfl⟩

theorem threads_finish_contended :
    ∃ s₁, Runs pageArena (tlsfCreateWithPool pageArena.control pageArena.bytes) zeroed
        pageArena.control s₁ ∧
      ∃ f, LockPool.Reachable (managerSystem pageArena allocateOnce) s₁ f ∧
        (∃ th, f.threads 0 = some th ∧ th.phase.isInside = true) ∧
        (∃ o k, f.threads 1 = some ⟨1, 16#32, .waiting o k (.testing 2#32)⟩) ∧
        ∃ f' c, Relation.ReflTransGen (LockPool.Step (managerSystem pageArena allocateOnce)) f f' ∧
          f'.next = f.next ∧ (∀ t, f'.threads t = none) ∧ f'.word = 0#32 ∧
          Pool.Reachable (LockPool.atomic allocateOnce managerInterface) (fun _ => none) c ∧
          Keeps pageArena f'.shared c.shared := by
  obtain ⟨s₁, r₁, hfinish⟩ := @threads_finish pageArena _ _ allocateOnce (by decide) (by decide) zeroed
    allocateOnce_follows
  obtain ⟨f, reached, hinside, hwaits⟩ := contended_reachable s₁
  exact ⟨s₁, r₁, f, reached, hinside, hwaits, hfinish f reached⟩

end Threads

end WinShell.Tlsf
