-- SUMMARY: Every primitive that the protocol permits, and every completion, keeps views and kernel together.
import WinShell.Concurrent.Invariant

/-!
# Steps

One lemma for each primitive. Most of them touch one heap, in the part that the
invocation owns; `own_frames`, `own_irps` and `own_mdls` reduce them to what they
do there.
-/

namespace WinShell

open Effect Trace

namespace Concurrent

variable {c : Contract} {k k' : Kernel} {views : Nat → View} {i : Nat} {v : View}

/-! ## Steps in one heap -/

/-- A step of invocation `i` in its frame. -/
theorem Rep.own_frames {frames : Heap Frame} {s : List Event} {frame : Option Nat} {event armed : Bool}
    (h : Rep c k views) (hsettled : (views i).stage.settled = true)
    (hown : ∀ f, frame = some f → ∃ fr, frames.get f = some fr ∧ fr.issuer = i ∧
      (event = true → fr.event = some ⟨.notificationEvent, (views i).stage.isDone⟩))
    (hothers : ∀ f fr, k.frames.get f = some fr → fr.issuer ≠ i → frames.get f = some fr)
    (harmed : ∀ p, (views i).irp = some p → armed = true →
      (views i).armed = true ∧ frame = (views i).frame ∧ event = (views i).event)
    (hissues : ∀ j, issues j s = []) (hcompletions : ∀ j, completions j s = []) :
    Rep c { k with frames, trace := k.trace ++ s }
      (Function.update views i { views i with frame, event, armed }) := by
  have hi := h.holds i
  have hissues' : ∀ j, issues j (k.trace ++ s) = issues j k.trace := by
    intro j
    rw [issues_append, hissues, List.append_nil]
  have hcompletions' : ∀ j, completions j (k.trace ++ s) = completions j k.trace := by
    intro j
    rw [completions_append, hcompletions, List.append_nil]
  refine h.own hsettled rfl ?_ rfl hothers (fun _ _ _ => rfl) (fun _ hm _ => hm) hissues'
    hcompletions' (fun _ => .inl) (fun _ => .inl) ?_
  · constructor
    · exact hown
    · intro p hp
      obtain ⟨cell, hget, hcompletion, hdone⟩ := hi.irp p hp
      refine ⟨cell, hget, ?_, hdone⟩
      intro ha
      obtain ⟨ha', rfl, rfl⟩ := harmed p hp ha
      exact hcompletion ha'
    · exact hi.mdl
    · intro req hreq
      rw [hreq] at hsettled
      cases hsettled
    · exact hi.final
    · exact (hissues' i).trans hi.issues
    · exact (hcompletions' i).trans hi.completions
  · intro p hp
    rcases eq_or_ne (views i).irp (some p) with heq | hne
    · exact .inl heq
    · exact .inr ⟨hp, hne⟩

/-- A step of invocation `i` in its IRP. -/
theorem Rep.own_irps {irps : Heap Irp} {allocs : Nat} {irp : Option Nat} {armed : Bool}
    (h : Rep c k views) (hsettled : (views i).stage.settled = true)
    (hown : ∀ p, irp = some p → ∃ cell, irps.get p = some cell ∧
      (armed = true → ∃ f, (views i).frame = some f ∧ (views i).event = true ∧
        cell.completion = some (completionFor f)) ∧
      ∀ req status information, (views i).stage = .done req status information →
        cell.ioStatus = ⟨status, information⟩)
    (hothers : ∀ p, (k.irps.get p).isSome → (views i).irp ≠ some p → irps.get p = k.irps.get p)
    (hnew : ∀ p, irp = some p → (views i).irp = some p ∨ k.irps.get p = none)
    (hlive : ∀ p, (irps.get p).isSome →
      irp = some p ∨ (k.irps.get p).isSome ∧ (views i).irp ≠ some p) :
    Rep c { k with irps, allocs } (Function.update views i { views i with irp, armed }) := by
  have hi := h.holds i
  refine h.own hsettled rfl ?_ rfl (fun _ _ hget _ => hget) hothers (fun _ hm _ => hm)
    (fun _ => rfl) (fun _ => rfl) hnew (fun _ => .inl) hlive
  constructor
  · exact hi.frame
  · exact hown
  · exact hi.mdl
  · intro req hreq
    rw [hreq] at hsettled
    cases hsettled
  · exact hi.final
  · exact hi.issues
  · exact hi.completions

/-- A step of invocation `i` in its MDL. -/
theorem Rep.own_mdls {mdls : Heap Mdl} {allocs : Nat} {mdl : Option Nat}
    (h : Rep c k views) (hsettled : (views i).stage.settled = true)
    (hown : ∀ m, mdl = some m → (mdls.get m).isSome)
    (hothers : ∀ m, (k.mdls.get m).isSome → (views i).mdl ≠ some m → (mdls.get m).isSome)
    (hnew : ∀ m, mdl = some m → (views i).mdl = some m ∨ k.mdls.get m = none) :
    Rep c { k with mdls, allocs } (Function.update views i { views i with mdl }) := by
  have hi := h.holds i
  refine h.own hsettled rfl ?_ rfl (fun _ _ hget _ => hget) (fun _ _ _ => rfl) hothers
    (fun _ => rfl) (fun _ => rfl) (fun _ => .inl) hnew ?_
  · constructor
    · exact hi.frame
    · exact hi.irp
    · exact hown
    · intro req hreq
      rw [hreq] at hsettled
      cases hsettled
    · exact hi.final
    · exact hi.issues
    · exact hi.completions
  · intro p hp
    rcases eq_or_ne (views i).irp (some p) with heq | hne
    · exact .inl heq
    · exact .inr ⟨hp, hne⟩

/-! ## Frames -/

theorem Rep.pushFrame (h : Rep c k views) (hframe : (views i).frame = none)
    (hsettled : (views i).stage.settled = true) :
    Rep c { k with
        frames := k.frames.push { issuer := i }, trace := k.trace ++ [.enter k.frames.next] }
      (Function.update views i { views i with frame := some k.frames.next, event := false }) := by
  refine h.own_frames hsettled ?_ ?_ ?_ (fun _ => rfl) (fun _ => rfl)
  · rintro f ⟨⟩
    exact ⟨_, Heap.get_push_next, rfl, fun he => nomatch he⟩
  · exact fun f fr hget _ => Heap.get_push_of_get hget
  · intro p hp harmed
    obtain ⟨cell, -, hcompletion, -⟩ := (h.holds i).irp p hp
    obtain ⟨f, hf, -⟩ := hcompletion harmed
    rw [hframe] at hf
    cases hf

theorem Rep.popFrame {f : Nat} (h : Rep c k views) (hframe : (views i).frame = some f)
    (hirp : (views i).irp = none) (hsettled : (views i).stage.settled = true) :
    Rep c { k with frames := k.frames.free f, trace := k.trace ++ [.leave f] }
      (Function.update views i { views i with frame := none, event := false, armed := false }) := by
  obtain ⟨fr, hget, hissuer, -⟩ := (h.holds i).frame f hframe
  refine h.own_frames hsettled (fun _ hf => nomatch hf) ?_ ?_ (fun _ => rfl) (fun _ => rfl)
  · intro g fr' hget' hissuer'
    have hne : g ≠ f := by
      rintro rfl
      rw [hget] at hget'
      cases hget'
      exact hissuer' hissuer
    rw [Heap.get_free_of_ne hne, hget']
  · intro p hp
    rw [hirp] at hp
    cases hp

/-- A write to the own frame that leaves the event in order. -/
theorem Rep.setFrame {f : Nat} {fr : Frame} {event : Bool} (h : Rep c k views)
    (hframe : (views i).frame = some f) (hsettled : (views i).stage.settled = true)
    (hget : k.frames.get f = some fr) (ev : KEvent)
    (hevent : event = true → ev = ⟨.notificationEvent, (views i).stage.isDone⟩)
    (harmed : (views i).event = true → event = true) :
    Rep c { k with frames := k.frames.set f { fr with event := some ev } }
      (Function.update views i { views i with event }) := by
  obtain ⟨fr', hget', hissuer, -⟩ := (h.holds i).frame f hframe
  obtain rfl : fr = fr' := Option.some.inj (hget.symm.trans hget')
  have hrep : Rep c
      { k with frames := k.frames.set f { fr with event := some ev }, trace := k.trace ++ [] }
      (Function.update views i
        { views i with frame := some f, event, armed := (views i).armed }) := by
    refine h.own_frames hsettled ?_ ?_ ?_ (fun _ => rfl) (fun _ => rfl)
    · rintro g ⟨⟩
      exact ⟨_, Heap.get_set_self (by rw [hget]; rfl), hissuer, fun he => by rw [hevent he]⟩
    · intro g other hother hne
      have hgf : g ≠ f := by
        rintro rfl
        rw [hget] at hother
        cases hother
        exact hne hissuer
      rw [Heap.get_set_of_ne hgf, hother]
    · intro p hp ha
      refine ⟨ha, hframe.symm, ?_⟩
      obtain ⟨cell, -, hcompletion, -⟩ := (h.holds i).irp p hp
      obtain ⟨_, -, he, -⟩ := hcompletion ha
      rw [he, harmed he]
  rw [List.append_nil, ← hframe] at hrep
  exact hrep

/-! ## IRPs -/

theorem Rep.ioAllocateIrp (h : Rep c k views) (hirp : (views i).irp = none)
    (hstage : (views i).stage = .fresh) :
    Rep c { k with irps := k.irps.push {}, allocs := k.allocs + 1 }
      (Function.update views i { views i with irp := some k.irps.next, armed := false }) := by
  refine h.own_irps (by rw [hstage]; rfl) ?_ ?_ ?_ ?_
  · rintro p ⟨⟩
    refine ⟨_, Heap.get_push_next, (fun ha => nomatch ha), ?_⟩
    intro req status information hdone
    rw [hstage] at hdone
    cases hdone
  · intro p hp _
    obtain ⟨cell, hcell⟩ := Option.isSome_iff_exists.mp hp
    rw [Heap.get_push_of_ne (Heap.ne_next hcell)]
  · rintro p ⟨⟩
    exact .inr Heap.get_next
  · intro p hp
    obtain rfl | hp := Heap.isSome_get_push.mp hp
    · exact .inl rfl
    · exact .inr ⟨hp, fun hv => nomatch hirp.symm.trans hv⟩

theorem Rep.ioFreeIrp {p : Nat} (h : Rep c k views) (hirp : (views i).irp = some p)
    (hsettled : (views i).stage.settled = true) :
    Rep c { k with irps := k.irps.free p }
      (Function.update views i { views i with irp := none, armed := false }) := by
  refine h.own_irps hsettled (fun _ hq => nomatch hq) ?_ (fun _ hq => nomatch hq) ?_
  · intro q hq hne
    have hqp : q ≠ p := by
      rintro rfl
      exact hne hirp
    rw [Heap.get_free_of_ne hqp]
  · intro q hq
    obtain ⟨hqp, hq⟩ := Heap.isSome_get_free.mp hq
    refine .inr ⟨hq, fun hv => hqp ?_⟩
    exact Option.some.inj (hv.symm.trans hirp)

theorem Rep.ioSetCompletionRoutine {p f : Nat} {cell : Irp} (h : Rep c k views)
    (hirp : (views i).irp = some p) (hstage : (views i).stage = .fresh)
    (hframe : (views i).frame = some f) (hevent : (views i).event = true) :
    Rep c { k with irps := k.irps.set p { cell with completion := some (completionFor f) } }
      (Function.update views i { views i with armed := true }) := by
  have hlive : (k.irps.get p).isSome := by
    obtain ⟨cell', hget, -⟩ := (h.holds i).irp p hirp
    rw [hget]
    rfl
  have hrep : Rep c { k with irps := k.irps.set p { cell with completion := some (completionFor f) } }
      (Function.update views i { views i with irp := some p, armed := true }) := by
    refine h.own_irps (by rw [hstage]; rfl) ?_ ?_ ?_ ?_
    · rintro q ⟨⟩
      refine ⟨_, Heap.get_set_self hlive, fun _ => ⟨f, hframe, hevent, rfl⟩, ?_⟩
      intro req status information hdone
      rw [hstage] at hdone
      cases hdone
    · intro q hq hne
      have hqp : q ≠ p := by
        rintro rfl
        exact hne hirp
      rw [Heap.get_set_of_ne hqp]
    · rintro q ⟨⟩
      exact .inl hirp
    · intro q hq
      rw [Heap.isSome_get_set] at hq
      rcases eq_or_ne q p with rfl | hne
      · exact .inl rfl
      · refine .inr ⟨hq, fun hv => hne ?_⟩
        exact Option.some.inj (hv.symm.trans hirp)
  rwa [← hirp] at hrep

/-! ## MDLs -/

theorem Rep.ioAllocateMdl {cell : Mdl} (h : Rep c k views)
    (hsettled : (views i).stage.settled = true) :
    Rep c { k with mdls := k.mdls.push cell, allocs := k.allocs + 1 }
      (Function.update views i { views i with mdl := some k.mdls.next }) := by
  refine h.own_mdls hsettled ?_ ?_ ?_
  · rintro m ⟨⟩
    exact Heap.isSome_get_push.mpr (.inl rfl)
  · exact fun m hm _ => Heap.isSome_get_push.mpr (.inr hm)
  · rintro m ⟨⟩
    exact .inr Heap.get_next

theorem Rep.mmBuildMdlForNonPagedPool {m : Nat} {cell : Mdl} (h : Rep c k views)
    (hsettled : (views i).stage.settled = true) :
    Rep c { k with mdls := k.mdls.set m cell } views := by
  have hrep : Rep c { k with mdls := k.mdls.set m cell, allocs := k.allocs }
      (Function.update views i { views i with mdl := (views i).mdl }) := by
    refine h.own_mdls hsettled ?_ ?_ (fun _ => .inl)
    · intro q hq
      rw [Heap.isSome_get_set]
      exact (h.holds i).mdl q hq
    · intro q hq _
      rwa [Heap.isSome_get_set]
  rwa [Function.update_eq_self] at hrep

theorem Rep.ioFreeMdl {m : Nat} (h : Rep c k views) (hmdl : (views i).mdl = some m)
    (hsettled : (views i).stage.settled = true) :
    Rep c { k with mdls := k.mdls.free m }
      (Function.update views i { views i with mdl := none }) := by
  refine h.own_mdls hsettled (fun _ hq => nomatch hq) ?_ (fun _ hq => nomatch hq)
  intro q hq hne
  refine Heap.isSome_get_free.mpr ⟨?_, hq⟩
  rintro rfl
  exact hne hmdl

/-! ## Requests -/

/-- An event that is neither a request nor a completion. -/
theorem Rep.log {e : Event} (h : Rep c k views) (hissues : ∀ j, issues j [e] = [])
    (hcompletions : ∀ j, completions j [e] = []) : Rep c (k.log e) views where
  holds j := by
    refine (h.holds j).other (fun _ _ hget _ => hget) (fun _ _ => rfl) (fun _ _ hm => hm)
      (fun _ hreq _ => hreq) ?_ ?_
    · rw [Kernel.log, issues_append, hissues, List.append_nil]
    · rw [Kernel.log, completions_append, hcompletions, List.append_nil]
  requests := h.requests
  nodup := h.nodup
  irps := h.irps
  mdls := h.mdls
  live := h.live

/-- An invocation hands its request over. -/
theorem Rep.submit {p f : Nat} {cell : Irp} {call : WskCall} (h : Rep c k views)
    (hirp : (views i).irp = some p) (harmed : (views i).armed = true)
    (hstage : (views i).stage = .fresh) (hframe : (views i).frame = some f)
    (hrefs : ∀ ref ∈ call.refs, ref.frame = f)
    (hmdl : ∀ m, call.mdl = some m → (views i).mdl = some m) (hget : k.irps.get p = some cell) :
    Rep c { k with
        requests := ⟨k.calls, i, p, call, cell.completion⟩ :: k.requests
        calls := k.calls + 1
        trace := k.trace ++ [.issue ⟨k.calls, i, p, call, cell.completion⟩] }
      (Function.update views i
        { views i with stage := .owned ⟨k.calls, i, p, call, cell.completion⟩ }) := by
  have hi := h.holds i
  obtain ⟨cell', hget', hcompletion, -⟩ := hi.irp p hirp
  obtain rfl : cell = cell' := Option.some.inj (hget.symm.trans hget')
  obtain ⟨g, hg, hevent, hcomp⟩ := hcompletion harmed
  obtain rfl : f = g := Option.some.inj (hframe.symm.trans hg)
  generalize hreq : (⟨k.calls, i, p, call, cell.completion⟩ : Request) = req
  have hissuer : req.issuer = i := by rw [← hreq]
  have hrefers : Refers { views i with stage := .owned req } req := by
    subst hreq
    exact ⟨hirp, hmdl, f, hframe, hevent, hcomp, hrefs⟩
  -- The invocation made no request before.
  have hnew : ∀ old ∈ k.requests, old.issuer ≠ i := by
    rintro old hold rfl
    rw [h.requests old hold] at hstage
    cases hstage
  constructor
  · intro j
    rcases eq_or_ne j i with rfl | hne
    · rw [Function.update_self]
      constructor
      · intro f' hf'
        have hf := hi.frame f' hf'
        rw [hstage] at hf
        exact hf
      · intro p' hp'
        obtain ⟨cell', hget', hcompletion', -⟩ := hi.irp p' hp'
        exact ⟨cell', hget', hcompletion', fun _ _ _ hdone => nomatch hdone⟩
      · exact hi.mdl
      · rintro req' ⟨⟩
        exact ⟨List.mem_cons_self, hissuer, hrefers⟩
      · exact fun _ _ _ hdone => nomatch hdone
      · rw [issues_append, hi.issues, hstage]
        simp [hissuer]
      · rw [completions_append, hi.completions, hstage]
        simp
    · rw [Function.update_of_ne hne]
      refine (h.holds j).other (fun _ _ hget _ => hget) (fun _ _ => rfl) (fun _ _ hm => hm)
        (fun _ hreq _ => List.mem_cons_of_mem _ hreq) ?_ ?_
      · rw [issues_append]
        simp [hissuer, hne.symm]
      · rw [completions_append]
        simp
  · intro old hold
    rcases List.mem_cons.mp hold with rfl | hold
    · rw [hissuer, Function.update_self]
    · rw [Function.update_of_ne (hnew old hold)]
      exact h.requests old hold
  · refine List.nodup_cons.mpr ⟨fun hmem => hnew req hmem hissuer, h.nodup⟩
  · refine known_once h.irps ?_
    exact fun j q hne hj hi' => hne (h.irps j i q hj hi')
  · refine known_once h.mdls ?_
    exact fun j q hne hj hi' => hne (h.mdls j i q hj hi')
  · intro q hq
    obtain ⟨j, hj⟩ := h.live q hq
    rcases eq_or_ne j i with rfl | hne
    · exact ⟨j, by rwa [Function.update_self]⟩
    · exact ⟨j, by rwa [Function.update_of_ne hne]⟩

end Concurrent

end WinShell
