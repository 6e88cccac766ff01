-- SUMMARY: The invariant of concurrent runs: the views of all invocations represent the kernel.
import WinShell.Concurrent.Views

/-!
# Views represent the kernel

What an invocation knows holds of the kernel (`Holds`), every request that the
provider owns is known to the invocation that made it, and no two invocations know
the same IRP or MDL. Each primitive that the protocol permits keeps this, for the
invocation that performs it and for all others, and so does a completion.
-/

namespace WinShell

open Effect Trace

namespace Concurrent

variable {c : Contract} {k k' : Kernel} {views : Nat → View} {i j : Nat} {v v' : View}

/-- Everything that a request refers to is known to the invocation that made it. -/
structure Refers (v : View) (req : Request) : Prop where
  irp : v.irp = some req.irp
  mdl : ∀ m, req.call.mdl = some m → v.mdl = some m
  frame : ∃ f, v.frame = some f ∧ v.event = true ∧ req.completion = some (completionFor f) ∧
    ∀ ref ∈ req.call.refs, ref.frame = f

/-- What invocation `i` knows holds of the kernel. -/
structure Holds (c : Contract) (k : Kernel) (i : Nat) (v : View) : Prop where
  frame : ∀ f, v.frame = some f → ∃ fr, k.frames.get f = some fr ∧ fr.issuer = i ∧
    (v.event = true → fr.event = some ⟨.notificationEvent, v.stage.isDone⟩)
  irp : ∀ p, v.irp = some p → ∃ cell, k.irps.get p = some cell ∧
    (v.armed = true → ∃ f, v.frame = some f ∧ v.event = true ∧
      cell.completion = some (completionFor f)) ∧
    ∀ req status information, v.stage = .done req status information →
      cell.ioStatus = ⟨status, information⟩
  mdl : ∀ m, v.mdl = some m → (k.mdls.get m).isSome
  owned : ∀ req, v.stage = .owned req → req ∈ k.requests ∧ req.issuer = i ∧ Refers v req
  final : ∀ req status information, v.stage = .done req status information → c.Final status
  issues : issues i k.trace = v.stage.issues
  completions : completions i k.trace = v.stage.completions

/-- The views of all invocations represent the kernel. -/
structure Rep (c : Contract) (k : Kernel) (views : Nat → View) : Prop where
  holds : ∀ i, Holds c k i (views i)
  requests : ∀ req ∈ k.requests, (views req.issuer).stage = .owned req
  nodup : k.requests.Nodup
  irps : ∀ i j p, (views i).irp = some p → (views j).irp = some p → i = j
  mdls : ∀ i j m, (views i).mdl = some m → (views j).mdl = some m → i = j
  /-- Every live IRP is known to some invocation. -/
  live : ∀ p, (k.irps.get p).isSome → ∃ i, (views i).irp = some p

theorem Rep.start : Rep c {} fun _ => View.blank where
  holds i := by
    constructor <;> simp [View.blank]
  requests := by simp
  nodup := List.nodup_nil
  irps := by simp [View.blank]
  mdls := by simp [View.blank]
  live := by simp

/-! ## The steps of the others -/

/-- A step that leaves alone what an invocation knows keeps it true. -/
theorem Holds.other (h : Holds c k j v)
    (hframes : ∀ f fr, k.frames.get f = some fr → fr.issuer = j → k'.frames.get f = some fr)
    (hirps : ∀ p, v.irp = some p → k'.irps.get p = k.irps.get p)
    (hmdls : ∀ m, v.mdl = some m → (k.mdls.get m).isSome → (k'.mdls.get m).isSome)
    (hreqs : ∀ req ∈ k.requests, req.issuer = j → req ∈ k'.requests)
    (hissues : Trace.issues j k'.trace = Trace.issues j k.trace)
    (hcompletions : Trace.completions j k'.trace = Trace.completions j k.trace) :
    Holds c k' j v where
  frame := by
    intro f hf
    obtain ⟨fr, hget, hissuer, hevent⟩ := h.frame f hf
    exact ⟨fr, hframes f fr hget hissuer, hissuer, hevent⟩
  irp := by
    intro p hp
    rw [hirps p hp]
    exact h.irp p hp
  mdl := fun m hm => hmdls m hm (h.mdl m hm)
  owned := by
    intro req hreq
    obtain ⟨hmem, hissuer, hrefers⟩ := h.owned req hreq
    exact ⟨hreqs req hmem hissuer, hissuer, hrefers⟩
  final := h.final
  issues := hissues.trans h.issues
  completions := hcompletions.trans h.completions

/-- No two invocations know the same object after one of them learned of a new
one. -/
theorem known_once {f : View → Option Nat}
    (h : ∀ i j p, f (views i) = some p → f (views j) = some p → i = j)
    (hnew : ∀ j p, j ≠ i → f (views j) = some p → f v ≠ some p) (a b p : Nat)
    (ha : f (Function.update views i v a) = some p)
    (hb : f (Function.update views i v b) = some p) : a = b := by
  rcases eq_or_ne a i with rfl | hna
  · rcases eq_or_ne b a with rfl | hnb
    · rfl
    · rw [Function.update_self] at ha
      rw [Function.update_of_ne hnb] at hb
      exact absurd ha (hnew b p hnb hb)
  · rw [Function.update_of_ne hna] at ha
    rcases eq_or_ne b i with rfl | hnb
    · rw [Function.update_self] at hb
      exact absurd hb (hnew a p hna ha)
    · rw [Function.update_of_ne hnb] at hb
      exact h a b p ha hb

/-- A step of invocation `i`, while the provider does not own its request, that
leaves alone what the others know. -/
theorem Rep.own (h : Rep c k views) (hsettled : (views i).stage.settled = true)
    (hstage : v'.stage = (views i).stage) (hown : Holds c k' i v')
    (hreqs : k'.requests = k.requests)
    (hframes : ∀ f fr, k.frames.get f = some fr → fr.issuer ≠ i → k'.frames.get f = some fr)
    (hirps : ∀ p, (k.irps.get p).isSome → (views i).irp ≠ some p →
      k'.irps.get p = k.irps.get p)
    (hmdls : ∀ m, (k.mdls.get m).isSome → (views i).mdl ≠ some m → (k'.mdls.get m).isSome)
    (hissues : ∀ j, Trace.issues j k'.trace = Trace.issues j k.trace)
    (hcompletions : ∀ j, Trace.completions j k'.trace = Trace.completions j k.trace)
    (hirp : ∀ p, v'.irp = some p → (views i).irp = some p ∨ k.irps.get p = none)
    (hmdl : ∀ m, v'.mdl = some m → (views i).mdl = some m ∨ k.mdls.get m = none)
    (hlive : ∀ p, (k'.irps.get p).isSome →
      v'.irp = some p ∨ (k.irps.get p).isSome ∧ (views i).irp ≠ some p) :
    Rep c k' (Function.update views i v') := by
  have hirp_ne : ∀ j p, j ≠ i → (views j).irp = some p → (views i).irp ≠ some p :=
    fun j p hne hj hi => hne (h.irps j i p hj hi)
  have hmdl_ne : ∀ j m, j ≠ i → (views j).mdl = some m → (views i).mdl ≠ some m :=
    fun j m hne hj hi => hne (h.mdls j i m hj hi)
  have hlive_irp : ∀ j p, (views j).irp = some p → (k.irps.get p).isSome := by
    intro j p hj
    obtain ⟨cell, hcell, -⟩ := (h.holds j).irp p hj
    rw [hcell]
    rfl
  have hown_irp : ∀ j p, j ≠ i → (views j).irp = some p → v'.irp ≠ some p := by
    intro j p hne hj hv
    obtain hi | hnone := hirp p hv
    · exact hirp_ne j p hne hj hi
    · have hsome := hlive_irp j p hj
      rw [hnone] at hsome
      cases hsome
  have hown_mdl : ∀ j m, j ≠ i → (views j).mdl = some m → v'.mdl ≠ some m := by
    intro j m hne hj hv
    obtain hi | hnone := hmdl m hv
    · exact hmdl_ne j m hne hj hi
    · have hsome := (h.holds j).mdl m hj
      rw [hnone] at hsome
      cases hsome
  constructor
  · intro j
    rcases eq_or_ne j i with rfl | hne
    · rwa [Function.update_self]
    · rw [Function.update_of_ne hne]
      refine (h.holds j).other ?_ ?_ ?_ ?_ (hissues j) (hcompletions j)
      · exact fun f fr hget hissuer => hframes f fr hget (hissuer ▸ hne)
      · exact fun p hp => hirps p (hlive_irp j p hp) (hirp_ne j p hne hp)
      · exact fun m hm hsome => hmdls m hsome (hmdl_ne j m hne hm)
      · exact fun req hreq _ => hreqs ▸ hreq
  · intro req hreq
    have howned := h.requests req (hreqs ▸ hreq)
    rcases eq_or_ne req.issuer i with heq | hne
    · rw [heq] at howned
      rw [howned] at hsettled
      cases hsettled
    · rwa [Function.update_of_ne hne]
  · exact hreqs ▸ h.nodup
  · exact known_once h.irps hown_irp
  · exact known_once h.mdls hown_mdl
  · intro p hp
    obtain hv | ⟨hsome, hne⟩ := hlive p hp
    · exact ⟨i, by rwa [Function.update_self]⟩
    · obtain ⟨j, hj⟩ := h.live p hsome
      have hji : j ≠ i := by
        rintro rfl
        exact hne hj
      exact ⟨j, by rwa [Function.update_of_ne hji]⟩

end Concurrent

end WinShell
