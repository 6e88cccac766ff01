-- SUMMARY: Requests under concurrency: nothing a request refers to goes away, and each operation reports its own outcome.
import WinShell.Concurrent.Bodies

/-!
# Ownership of outstanding requests

Every reachable state of the threads has views that represent its kernel. What
the provider holds is therefore known to an invocation that is still at work, and
the protocol has kept it from giving anything back.
-/

namespace WinShell

open Effect Trace

namespace Concurrent

variable {c : Contract} {k : Kernel} {views : Nat → View} {s : State} {i : Nat} {req : Request}

/-! ## What the provider holds -/

theorem Refers.refs {v : View} (h : Refers v req) :
    ∀ ref ∈ req.refs, v.frame = some ref.frame := by
  obtain ⟨f, hf, -, hcompletion, hrefs⟩ := h.frame
  intro ref href
  rw [Request.refs, hcompletion] at href
  rcases List.mem_append.mp href with hmem | hmem
  · simp only [Option.map_some, Option.toList_some, List.mem_singleton] at hmem
    rw [hmem, hf]
    rfl
  · rw [hrefs ref hmem, hf]

theorem Rep.refers (h : Rep c k views) (hreq : req ∈ k.requests) : Refers (views req.issuer) req :=
  ((h.holds req.issuer).owned req (h.requests req hreq)).2.2

/-- The invocation whose request is outstanding is not settled. -/
theorem Rep.not_settled (h : Rep c k views) (hreq : req ∈ k.requests) (hi : i = req.issuer) :
    (views i).stage.settled = false := by
  rw [hi, h.requests req hreq]
  rfl

theorem Rep.issuer_of_irp (h : Rep c k views) (hreq : req ∈ k.requests)
    (hirp : (views i).irp = some req.irp) : i = req.issuer :=
  h.irps i req.issuer req.irp hirp (h.refers hreq).irp

theorem Rep.issuer_of_mdl {m : Nat} (h : Rep c k views) (hreq : req ∈ k.requests)
    (hm : req.call.mdl = some m) (hmdl : (views i).mdl = some m) : i = req.issuer :=
  h.mdls i req.issuer m hmdl ((h.refers hreq).mdl m hm)

theorem Rep.issuer_of_frame {ref : StackRef} (h : Rep c k views) (hreq : req ∈ k.requests)
    (href : ref ∈ req.refs) (hframe : (views i).frame = some ref.frame) : i = req.issuer := by
  obtain ⟨fr, hget, hissuer, -⟩ := (h.holds i).frame ref.frame hframe
  obtain ⟨fr', hget', hissuer', -⟩ :=
    (h.holds req.issuer).frame ref.frame ((h.refers hreq).refs ref href)
  obtain rfl : fr = fr' := Option.some.inj (hget.symm.trans hget')
  exact hissuer.symm.trans hissuer'

/-- The primitive frees, reads or reuses something that the request refers to. -/
def Disturbs (req : Request) : Op → Prop
  | .ioFreeIrp irp | .ioSetCompletionRoutine irp _ | .submit _ irp | .ioStatusStatus irp
  | .ioStatusInformation irp => irp = some req.irp
  | .ioFreeMdl mdl | .mmBuildMdlForNonPagedPool mdl => ∃ m, mdl = some m ∧ req.call.mdl = some m
  | .keInitializeEvent ref _ _ | .readResult ref => ref ∈ req.refs
  | .popFrame frame => ∃ ref ∈ req.refs, ref.frame = frame
  | _ => False

/-- The protocol permits no invocation to disturb an outstanding request. -/
theorem Rep.not_disturbs {o : Op} (h : Rep c k views) (permits : Permits c (views i) o)
    (hreq : req ∈ k.requests) : ¬Disturbs req o := by
  have absurd_settled : i = req.issuer → (views i).stage.settled = true → False := by
    intro hi hsettled
    rw [h.not_settled hreq hi] at hsettled
    cases hsettled
  have settled_of_fresh : (views i).stage = .fresh → (views i).stage.settled = true := by
    intro hstage
    rw [hstage]
    rfl
  have settled_of_done : (views i).stage.isDone = true → (views i).stage.settled = true := by
    cases (views i).stage <;> simp
  intro hdisturbs
  cases o with
  | ioFreeIrp irp =>
    obtain ⟨hirp, -, hsettled⟩ := permits
    exact absurd_settled (h.issuer_of_irp hreq (hirp.trans hdisturbs)) hsettled
  | ioSetCompletionRoutine irp completion =>
    obtain ⟨-, rfl⟩ | ⟨hirp, -, hstage, -⟩ := permits
    · cases hdisturbs
    · exact absurd_settled (h.issuer_of_irp hreq (hirp.trans hdisturbs)) (settled_of_fresh hstage)
  | submit call irp =>
    obtain ⟨hirp, -, -, hstage, -⟩ := permits
    exact absurd_settled (h.issuer_of_irp hreq (hirp.trans hdisturbs)) (settled_of_fresh hstage)
  | ioStatusStatus irp | ioStatusInformation irp =>
    obtain ⟨hirp, -, hdone⟩ := permits
    exact absurd_settled (h.issuer_of_irp hreq (hirp.trans hdisturbs)) (settled_of_done hdone)
  | ioFreeMdl mdl =>
    obtain ⟨hmdl, -, hsettled⟩ := permits
    obtain ⟨m, rfl, hm⟩ := hdisturbs
    exact absurd_settled (h.issuer_of_mdl hreq hm hmdl) hsettled
  | mmBuildMdlForNonPagedPool mdl =>
    obtain ⟨m, rfl, hm⟩ := hdisturbs
    obtain ⟨-, hnone⟩ | ⟨hmdl, -, hsettled⟩ := permits
    · cases hnone
    · exact absurd_settled (h.issuer_of_mdl hreq hm hmdl) hsettled
  | keInitializeEvent ref type state =>
    obtain ⟨hframe, -, -, hstage⟩ := permits
    exact absurd_settled (h.issuer_of_frame hreq hdisturbs hframe) (settled_of_fresh hstage)
  | readResult ref =>
    obtain ⟨hframe, hsettled⟩ := permits
    exact absurd_settled (h.issuer_of_frame hreq hdisturbs hframe) hsettled
  | popFrame frame =>
    obtain ⟨hframe, -, hsettled⟩ := permits
    obtain ⟨ref, href, rfl⟩ := hdisturbs
    exact absurd_settled (h.issuer_of_frame hreq href hframe) hsettled
  | pushFrame | ioAllocateIrp | ioAllocateMdl _ _ | callReturn _ | keWaitForSingleObject _
  | wskRegister _ | wskCaptureProviderNpi _ | wskReleaseProviderNpi _ | wskDeregister _
  | wskFreeAddressInfo _ _ => exact hdisturbs

/-! ## Reachable states -/

/-- Every reachable state has its views. -/
theorem Reachable.viewed (reached : Reachable c s) :
    ∃ views, Pool.Viewed (protocol c) (fun op outcome => Ends (Tells c op outcome)) (Rep c)
      View.blank s views :=
  Pool.Reachable.viewed (represents c) (View.isMax rfl) Rep.start (follows_execute c) reached

/-- Everything that an outstanding request refers to is there, and stays there. -/
structure OwnershipSafe (s : State) : Prop where
  /-- Its IRP has not been freed. -/
  irp : ∀ req ∈ s.shared.requests, (s.shared.irps.get req.irp).isSome
  /-- Its MDL has not been freed. -/
  mdl : ∀ req ∈ s.shared.requests, ∀ m, req.call.mdl = some m → (s.shared.mdls.get m).isSome
  /-- The locals it refers to are in a live frame of the invocation that made it. -/
  frame : ∀ req ∈ s.shared.requests, ∀ ref ∈ req.refs,
    ∃ fr, s.shared.frames.get ref.frame = some fr ∧ fr.issuer = req.issuer
  /-- That invocation is running, and has not come to its end. -/
  running : ∀ req ∈ s.shared.requests, ∃ t th, s.threads t = some th ∧
    th.invocation = req.issuer ∧ ∀ outcome, th.prog ≠ .ret outcome
  /-- No thread is about to free, read or reuse anything it refers to. -/
  undisturbed : ∀ t i op o f, s.threads t = some ⟨i, op, .exec o f⟩ →
    ∀ req ∈ s.shared.requests, ¬Disturbs req o

/-- Ownership of requests is respected in every reachable state, for any number of
threads and whatever the provider does within its contract. When allocations
succeed, no primitive is ever given a null or dangling pointer either. -/
theorem requests_owned (c : Contract) :
    ∀ s, Reachable c s → OwnershipSafe s ∧
      (¬c.Fails → ∀ t i op o f, s.threads t = some ⟨i, op, .exec o f⟩ →
        ∀ r, (s.shared.apply i o r).isSome) := by
  intro s reached
  obtain ⟨views, h⟩ := reached.viewed
  have permits : ∀ t i op o f, s.threads t = some ⟨i, op, .exec o f⟩ → Permits c (views i) o :=
    fun t i op o f ht => (h.follows t _ ht).permits
  refine ⟨⟨?_, ?_, ?_, ?_, ?_⟩, ?_⟩
  · intro req hreq
    obtain ⟨cell, hget, -⟩ := (h.rep.holds req.issuer).irp req.irp (h.rep.refers hreq).irp
    rw [hget]
    rfl
  · intro req hreq m hm
    exact (h.rep.holds req.issuer).mdl m ((h.rep.refers hreq).mdl m hm)
  · intro req hreq ref href
    obtain ⟨fr, hget, hissuer, -⟩ :=
      (h.rep.holds req.issuer).frame ref.frame ((h.rep.refers hreq).refs ref href)
    exact ⟨fr, hget, hissuer⟩
  · intro req hreq
    have howned := h.rep.requests req hreq
    -- An invocation that came to its end has seen its request completed.
    have not_ends : ∀ op outcome, ¬Ends (Tells c op outcome) (views req.issuer) := by
      rintro op outcome ⟨mdl, req', final, information, heq, -⟩
      rw [heq] at howned
      cases howned
    have hlt : req.issuer < s.next := by
      by_contra hge
      rw [h.blank req.issuer (Nat.le_of_not_lt hge)] at howned
      cases howned
    obtain ⟨t, th, hth, hinv⟩ | ⟨op, outcome, hended⟩ := h.ended req.issuer hlt
    · refine ⟨t, th, hth, hinv, ?_⟩
      intro outcome hret
      have hfollows := h.follows t th hth
      rw [hret, hinv] at hfollows
      exact not_ends th.job outcome hfollows.value
    · exact absurd hended.value (not_ends op outcome)
  · intro t i op o f ht req hreq
    exact h.rep.not_disturbs (permits t i op o f ht) hreq
  · intro hfails t i op o f ht r
    exact h.rep.applies hfails (permits t i op o f ht) r

/-- When all operations have returned, every IRP has been freed. -/
theorem irps_freed (reached : Reachable c s) (hidle : ∀ t, s.threads t = none) (p : Nat) :
    s.shared.irps.get p = none := by
  obtain ⟨views, h⟩ := reached.viewed
  cases hget : s.shared.irps.get p with
  | none => rfl
  | some cell =>
    obtain ⟨i, hi⟩ := h.rep.live p (by rw [hget]; rfl)
    have hlt : i < s.next := by
      by_contra hge
      rw [h.blank i (Nat.le_of_not_lt hge)] at hi
      cases hi
    obtain ⟨t, th, hth, -⟩ | ⟨op, outcome, hended⟩ := h.ended i hlt
    · rw [hidle t] at hth
      cases hth
    · obtain ⟨mdl, req, final, information, heq, -⟩ := hended.value
      rw [heq] at hi
      cases hi

/-- A thread performs a primitive. -/
theorem Reachable.run {t : Nat} {op : Operation} {o : Op} {f : o.Ret → Win Outcome} {r : o.Ret}
    {k' : Kernel} (reached : Reachable c s) (ht : s.threads t = some ⟨i, op, .exec o f⟩)
    (allowed : Allowed c s.shared o r) (happly : s.shared.apply i o r = some k') :
    Reachable c { s.setThread t (some ⟨i, op, f r⟩) with shared := k' } := by
  have answers : (system c).Answers i s.shared o r k' := ⟨allowed, happly⟩
  exact reached.step
    (@Pool.Step.run winKernel Kernel Operation Outcome (system c) s t i op o f r k' ht answers)

/-- A provider that promises more reaches no more. -/
theorem Reachable.mono {c' : Contract} (reached : Reachable c s)
    (hfinal : ∀ status, c.Final status → c'.Final status)
    (hinline : ∀ returned final, c.Inline returned final → c'.Inline returned final)
    (hfails : c.Fails → c'.Fails) : Reachable c' s := by
  have hallowed {k : Kernel} {o : Op} {r : o.Ret} (h : Allowed c k o r) : Allowed c' k o r := by
    cases o with
    | ioAllocateIrp | ioAllocateMdl _ _ => exact h.imp_right fun hnull => ⟨hfails hnull.1, hnull.2⟩
    | callReturn irp =>
      refine h.imp_right fun ⟨hdone, p, cell, hirp, hget, hreturned⟩ => ?_
      exact ⟨hdone, p, cell, hirp, hget, hinline _ _ hreturned⟩
    | _ => exact h
  induction reached with
  | init => exact .init
  | step _ step ih =>
    refine ih.step ?_
    cases step with
    | start t j ht => exact .start t j ht
    | run t i j o k r x ht answers => exact .run t i j o k r x ht ⟨hallowed answers.1, answers.2⟩
    | finish t i j b ht => exact .finish t i j b ht
    | move x moves =>
      obtain ⟨req, hreq, fin, hfin, hx⟩ := moves
      exact .move x ⟨req, hreq, fin, hfinal _ hfin, hx⟩

/-- Final statuses other than `STATUS_PENDING`, returned inline as they are, and no failed allocation. -/
def strict : Contract where
  Final final := final ≠ statusPending
  Inline returned final := returned = final
  Fails := False

/-- The creation of a listening socket. -/
def creation (npi : WskProviderNpi) : Operation := .createListeningSocket npi 0#64

/-- Two threads whose requests overlap. The provider completes the later one first, and then one
thread goes on to its end. -/
theorem overlapping_creations :
    (∃ s : State, Reachable strict s ∧ s.shared.requests.map (fun req => (req.issuer, req.call)) =
        [(1, .wskSocket ⟨1⟩ afInet sockStream ipprotoTcp wskFlagListenSocket),
          (0, .wskSocket ⟨0⟩ afInet sockStream ipprotoTcp wskFlagListenSocket)]) ∧
      ∃ (s : State) (req : Request), Reachable strict s ∧
        s.threads 0 = some ⟨0, creation ⟨0⟩, .ret (.created statusSuccess 7#64)⟩ ∧
        issues 1 s.shared.trace = [req] ∧
        completions 1 s.shared.trace = [(req, statusSuccess, 9#64)] := by
  have started : Reachable strict _ := Pool.Reachable.init.step (.start 0 (creation ⟨0⟩) rfl)
  have started := started.step (.start 1 (creation ⟨1⟩) rfl)
  have entered := @Reachable.run _ _ _ 0 _ .pushFrame _ 0 _ started rfl rfl rfl
  have entered := @Reachable.run _ _ _ 1 _ .pushFrame _ 1 _ entered rfl rfl rfl
  have allocated := @Reachable.run _ _ _ 1 _ .ioAllocateIrp _ (some 0) _ entered rfl (.inl rfl) rfl
  have allocated := @Reachable.run _ _ _ 0 _ .ioAllocateIrp _ (some 1) _ allocated rfl (.inl rfl) rfl
  have initialised := @Reachable.run _ _ _ 0 _ (.keInitializeEvent _ _ _) _ () _ allocated rfl
    trivial rfl
  have initialised := @Reachable.run _ _ _ 1 _ (.keInitializeEvent _ _ _) _ () _ initialised rfl
    trivial rfl
  have prepared := @Reachable.run _ _ _ 0 _ (.ioSetCompletionRoutine _ _) _ () _ initialised rfl
    trivial rfl
  have prepared := @Reachable.run _ _ _ 1 _ (.ioSetCompletionRoutine _ _) _ () _ prepared rfl
    trivial rfl
  have submitted := @Reachable.run _ _ _ 0 _ (.submit _ _) _ () _ prepared rfl trivial rfl
  have submitted := @Reachable.run _ _ _ 1 _ (.submit _ _) _ () _ submitted rfl trivial rfl
  refine ⟨⟨_, submitted, rfl⟩, ?_⟩
  have hfinal : statusSuccess ≠ statusPending := by decide
  have completed := submitted.step (.move _ ⟨_, .head _, ⟨statusSuccess, 9#64, []⟩, hfinal, rfl⟩)
  have completed := completed.step (.move _ ⟨_, .head _, ⟨statusSuccess, 7#64, []⟩, hfinal, rfl⟩)
  have called := @Reachable.run _ _ _ 0 _ (.callReturn _) _ statusPending _ completed rfl (.inl rfl) rfl
  have waited := @Reachable.run _ _ _ 0 _ (.keWaitForSingleObject _) _ () _ called rfl
    ⟨_, _, rfl, rfl, rfl⟩ rfl
  have read := @Reachable.run _ _ _ 0 _ (.ioStatusStatus _) _ statusSuccess _ waited rfl
    ⟨_, _, rfl, rfl, rfl⟩ rfl
  have read := @Reachable.run _ _ _ 0 _ (.ioStatusInformation _) _ 7#64 _ read rfl
    ⟨_, _, rfl, rfl, rfl⟩ rfl
  have freed := @Reachable.run _ _ _ 0 _ (.ioFreeIrp _) _ () _ read rfl trivial rfl
  have returned := @Reachable.run _ _ _ 0 _ (.popFrame _) _ () _ freed rfl trivial rfl
  exact ⟨_, _, returned, rfl, rfl, rfl⟩

theorem requests_owned_submitted :
    ∃ s : State, s.shared.requests.map (fun req => (req.issuer, req.call)) =
        [(1, .wskSocket ⟨1⟩ afInet sockStream ipprotoTcp wskFlagListenSocket),
          (0, .wskSocket ⟨0⟩ afInet sockStream ipprotoTcp wskFlagListenSocket)] ∧
      OwnershipSafe s ∧
      (¬anyStatus.Fails → ∀ t i op o f, s.threads t = some ⟨i, op, .exec o f⟩ →
        ∀ r, (s.shared.apply i o r).isSome) := by
  obtain ⟨⟨s, reached, hrequests⟩, -⟩ := overlapping_creations
  have reached : Reachable anyStatus s := reached.mono (fun _ _ => trivial) (fun _ _ _ => trivial) id
  exact ⟨s, hrequests, requests_owned anyStatus s reached⟩

/-! ## Outcomes -/

/-- When an operation returns its status, it has made one request, that request is
complete, and the status is the final one; a handle it stored with success is the
information of that request. -/
theorem own_outcome_reported :
    ∀ s, Reachable finalStatus s → ∀ t i op outcome,
      s.threads t = some ⟨i, op, .ret outcome⟩ → op.returnsStatus = true →
      ∃ req status information, outcome.ntStatus = some status ∧ status ≠ statusPending ∧
        issues i s.shared.trace = [req] ∧
        completions i s.shared.trace = [(req, status, information)] ∧
        ∀ sock, outcome = .created status sock → ntSuccess status = true → sock = information := by
  intro s reached t i op outcome ht hop
  obtain ⟨views, h⟩ := reached.viewed
  obtain ⟨mdl, req, final, information, hview, hsome, hstatus, hsock⟩ := (h.follows t _ ht).value
  have hview : views i = returned mdl req final information := hview
  obtain ⟨status, hs⟩ := Option.isSome_iff_exists.mp (hsome.trans hop)
  have heq : status = final := by
    obtain heq | ⟨-, heq⟩ := hstatus status hs
    · exact heq
    · exact heq
  subst heq
  have hholds := h.rep.holds i
  rw [hview] at hholds
  exact ⟨req, status, information, hs, hholds.final req status information rfl, hholds.issues,
    hholds.completions, hsock status⟩

theorem own_outcome_reported_creation :
    ∃ (s : State) (req other : Request) (status : NtStatus) (information : ULongPtr),
      s.threads 0 = some ⟨0, creation ⟨0⟩, .ret (.created statusSuccess 7#64)⟩ ∧
      issues 1 s.shared.trace = [other] ∧
      completions 1 s.shared.trace = [(other, statusSuccess, 9#64)] ∧
      (Outcome.created statusSuccess 7#64).ntStatus = some status ∧ status ≠ statusPending ∧
      issues 0 s.shared.trace = [req] ∧
      completions 0 s.shared.trace = [(req, status, information)] ∧
      ∀ sock, Outcome.created statusSuccess 7#64 = .created status sock →
        ntSuccess status = true → sock = information := by
  obtain ⟨-, s, other, reached, hthread, hissues, hcompletions⟩ := overlapping_creations
  have reached : Reachable finalStatus s := reached.mono (fun _ h => h) (fun _ _ h => h) False.elim
  obtain ⟨req, status, information, h⟩ :=
    own_outcome_reported s reached 0 0 (creation ⟨0⟩) (.created statusSuccess 7#64) hthread rfl
  exact ⟨s, req, other, status, information, hthread, hissues, hcompletions, h⟩

end Concurrent

end WinShell
