-- SUMMARY: The dispatch table of a registration lives exactly as long as the frame of InitWsk.
import WinShell.Lifecycle.Release

/-!
# Dispatch tables

`InitWsk` registers with a dispatch table that is one of its locals. Its frame is
gone when it returns, while a registration whose interface was captured lasts
until the destructor of its object. So the table of a live registration dangles
from the first capture that succeeds.
-/

namespace WinShell

open Effect Sockets Trace

namespace Sequential

variable {env : Surroundings} {k k' k₁ : Kernel} {objects objects' : Objects} {p : Program}
  {t s : List Event} {cls : SocketClass}

/-- The provider may look at the dispatch table of every registration on the
books: the frame that holds it has been entered and not left. -/
def DispatchLive (t : List Event) : Prop :=
  ∀ reg dispatch status, .register reg dispatch status ∈ t → ntSuccess status = true →
    reg ∉ deregistered t → dispatch.frame ∈ Trace.entered t ∧ dispatch.frame ∉ left t

/-! ## Captures that succeed -/

theorem not_dispatchLive_of_initialised (aged : Aged objects k) (init : Initialised k k₁) :
    ¬DispatchLive k₁.trace := by
  obtain ⟨registered, captured, hregistered, hcaptured, leads⟩ := init
  intro h
  have hlive : k.frames.next ∈ Trace.entered k₁.trace ∧ k.frames.next ∉ left k₁.trace := by
    apply h (nextRegistration k) ⟨k.frames.next, .wskClientDispatch⟩ registered
    · simp [leads.trace, registering]
    · exact hregistered
    · simp [leads.trace, registering, aged.new_deregistered]
  exact hlive.2 (by simp [leads.trace, registering])

/-- A command captures an interface only by getting through `InitWsk`. -/
theorem Steps.captures {c : Command} {o : Option Objects} (hs : Steps objects k c o k') :
    captured k'.trace = captured k.trace ∨
      ∃ k₁, Initialised k k₁ ∧ k₁.trace <+: k'.trace := by
  cases hs with
  | skips _ | copyConstructs _ _ | copyAssigns _ _ _ => exact .inl rfl
  | constructs _ h =>
    cases h with
    | registerFails _ leads => exact .inl (by simp [leads.trace, registering])
    | captureFails _ failed leads => exact .inl (by simp [leads.trace, registering, failed])
    | createStops init stops => exact .inr ⟨_, init, _, stops.symm⟩
    | createFails init create _ => exact .inr ⟨_, init, create.isPrefix⟩
    | bindStops init create _ stops =>
      exact .inr ⟨_, init, create.isPrefix.trans ⟨_, stops.symm⟩⟩
    | bindFails init create _ bind _ | returns init create _ bind _ =>
      exact .inr ⟨_, init, create.isPrefix.trans bind.isPrefix⟩
  | invokes _ _ h =>
    left
    have hbefore : ∀ {this method k₁}, Prelude this method k k₁ →
        captured k₁.trace = captured k.trace := by
      intro this method k₁ before
      cases before with
      | none _ _ => rfl
      | resolves fin read _ leads => cases read <;> simp [leads.trace, resolving]
    cases h with
    | resolveStops stops => simp [stops]
    | stops before stops => simp [stops, hbefore before]
    | returns before _ asked => simp [asked.trace, exchange, hbefore before]
  | destroys _ h =>
    left
    cases h with
    | stops stops => simp [stops]
    | returns fin leads => simp [leads.trace, exchange]

/-! ## Captures that fail -/

/-- The state of a run in which no capture has succeeded: no object came into
being, and every registration is off the books again. -/
structure Uncaptured (objects : Objects) (k : Kernel) : Prop where
  aged : Aged objects k
  none : ∀ id, objects.lookup id = none
  live : Throughout DispatchLive k.trace
  deregistered : ∀ reg dispatch status, .register reg dispatch status ∈ k.trace →
    ntSuccess status = true → reg ∈ deregistered k.trace

theorem Uncaptured.start : Uncaptured ∅ {} where
  aged := Aged.start
  none := by simp
  live := throughout_iff_always.mpr ⟨by simp [DispatchLive], Always.nil⟩
  deregistered := by simp

/-- Only the registrations that the new events bring need a live table. -/
theorem Uncaptured.dispatchLive (h : Uncaptured objects k)
    (hs : ∀ reg dispatch status, .register reg dispatch status ∈ s → ntSuccess status = true →
      reg ∉ Trace.deregistered s → dispatch.frame ∈ Trace.entered s ∧
        dispatch.frame ∉ left k.trace ∧ dispatch.frame ∉ left s) :
    DispatchLive (k.trace ++ s) := by
  intro reg dispatch status hmem hstatus hnot
  simp only [Trace.deregistered, collect_append, List.mem_append, not_or] at hnot
  obtain hold | hnew := List.mem_append.mp hmem
  · exact absurd (h.deregistered reg dispatch status hold hstatus) hnot.1
  · obtain ⟨hentered, hleft, hleft'⟩ := hs reg dispatch status hnew hstatus hnot.2
    simp [hentered, hleft, hleft']

/-- A frame that is entered next was not left. -/
theorem Aged.new_left (h : Aged objects k) : k.frames.next ∉ left k.trace := by
  intro hmem
  obtain ⟨e, he, hleft⟩ := mem_collect.mp hmem
  have hwithin := h.trace e he
  cases e with
  | leave frame =>
    simp only [Event.left, Option.some.injEq] at hleft
    subst hleft
    exact Nat.lt_irrefl _ hwithin
  | _ => simp at hleft

theorem Uncaptured.registerFails {status : NtStatus} (h : Uncaptured objects k)
    (failed : ntSuccess status = false)
    (leads : Leads k 1 1 (registering k status ++ [.leave k.frames.next]) k') :
    Throughout DispatchLive k'.trace ∧
      ∀ reg dispatch status, .register reg dispatch status ∈ k'.trace →
        ntSuccess status = true → reg ∈ Trace.deregistered k'.trace := by
  constructor
  · rw [leads.trace]
    apply h.live.append
    simp only [registering, List.cons_append, List.nil_append, from_cons, List.append_assoc]
    refine ⟨?_, ?_, ?_, from_nil⟩
    · exact h.dispatchLive (by simp)
    · exact h.dispatchLive (by simp +contextual [failed])
    · exact h.dispatchLive (by simp +contextual [failed])
  · intro reg dispatch status' hmem hs
    simp only [leads.trace, registering, List.cons_append, List.nil_append, List.mem_append,
      List.mem_cons, reduceCtorEq, List.not_mem_nil, or_false, false_or,
      Event.register.injEq] at hmem
    obtain hold | ⟨_, _, rfl⟩ := hmem
    · rw [leads.trace]
      exact mem_collect_left (h.deregistered reg dispatch status' hold hs)
    · simp [failed] at hs

theorem Uncaptured.captureFails {registered status : NtStatus} (h : Uncaptured objects k)
    (leads : Leads k 1 2 (registering k registered ++
      [.capture (nextRegistration k) (nextNpi k) status, .deregister (nextRegistration k),
        .leave k.frames.next]) k') :
    Throughout DispatchLive k'.trace ∧
      ∀ reg dispatch status, .register reg dispatch status ∈ k'.trace →
        ntSuccess status = true → reg ∈ Trace.deregistered k'.trace := by
  constructor
  · rw [leads.trace]
    apply h.live.append
    simp only [registering, List.cons_append, List.nil_append, from_cons, List.append_assoc]
    -- The table is live up to the deregistration, and `InitWsk` returns after it.
    refine ⟨?_, ?_, ?_, ?_, ?_, from_nil⟩
    · exact h.dispatchLive (by simp)
    · exact h.dispatchLive (by simp +contextual [h.aged.new_left])
    · exact h.dispatchLive (by simp +contextual [h.aged.new_left])
    · exact h.dispatchLive (by simp +contextual)
    · exact h.dispatchLive (by simp +contextual)
  · intro reg dispatch status' hmem hs
    simp only [leads.trace, registering, List.cons_append, List.nil_append, List.mem_append,
      List.mem_cons, reduceCtorEq, List.not_mem_nil, or_false, false_or,
      Event.register.injEq] at hmem
    obtain hold | ⟨rfl, _, _⟩ := hmem
    · rw [leads.trace]
      exact mem_collect_left (h.deregistered reg dispatch status' hold hs)
    · simp [leads.trace, registering]

/-- While no capture succeeds, constructors fail and nothing else happens. -/
theorem Uncaptured.steps {c : Command} {o : Option Objects} (h : Uncaptured objects k)
    (hs : Steps objects k c o k') (hnone : captured k'.trace = []) :
    Throughout DispatchLive k'.trace ∧ ∀ objects', o = some objects' → Uncaptured objects' k' := by
  cases hs with
  | skips _ => exact ⟨h.live, fun objects' ho => by cases ho; exact h⟩
  | invokes hid _ _ | destroys hid _ | copyAssigns hid _ _ => simp [h.none] at hid
  | copyConstructs _ hsource => simp [h.none] at hsource
  | constructs hid hc =>
    have hinit : ∀ {k₁}, Initialised k k₁ → ¬k₁.trace <+: k'.trace := by
      rintro k₁ ⟨_, _, _, hcaptured, leads⟩ ⟨s, htrace⟩
      rw [← htrace, leads.trace] at hnone
      simp [registering, hcaptured] at hnone
    cases hc with
    | registerFails failed leads =>
      have hk' := h.registerFails failed leads
      refine ⟨hk'.1, fun objects' ho => ?_⟩
      cases ho
      exact ⟨h.aged.constructs (.registerFails failed leads), h.none, hk'.1, hk'.2⟩
    | captureFails hregistered failed leads =>
      have hk' := h.captureFails leads
      refine ⟨hk'.1, fun objects' ho => ?_⟩
      cases ho
      exact ⟨h.aged.constructs (.captureFails hregistered failed leads), h.none, hk'.1, hk'.2⟩
    | createStops init stops => exact absurd ⟨_, stops.symm⟩ (hinit init)
    | createFails init create _ => exact absurd create.isPrefix (hinit init)
    | bindStops init create _ stops =>
      exact absurd (create.isPrefix.trans ⟨_, stops.symm⟩) (hinit init)
    | bindFails init create _ bind _ | returns init create _ bind _ =>
      exact absurd (create.isPrefix.trans bind.isPrefix) (hinit init)

/-! ## Runs -/

theorem captured_eq_nil : captured t = [] ↔
    ∀ reg npi status, .capture reg npi status ∈ t → ntSuccess status = false := by
  constructor
  · intro h reg npi status hmem
    by_contra hs
    have hcaptured : (reg, npi) ∈ captured t :=
      mem_collect.mpr ⟨_, hmem, by simpa using hs⟩
    simp [h] at hcaptured
  · intro h
    rw [List.eq_nil_iff_forall_not_mem]
    intro x hx
    obtain ⟨e, he, hcaptured⟩ := mem_collect.mp hx
    cases e with
    | capture reg npi status => simp [h reg npi status he] at hcaptured
    | _ => simp at hcaptured

theorem captured_of_isPrefix (hp : t <+: s) (h : captured s = []) : captured t = [] := by
  obtain ⟨s', rfl⟩ := hp
  simp only [captured, collect_append, List.append_eq_nil_iff] at h
  exact h.1

/-- Once a capture has succeeded, there was a moment without the table. -/
theorem not_throughout_of_captured (env : Surroundings) (p : Program)
    (h : captured (history env p) ≠ []) : ¬Throughout DispatchLive (history env p) := by
  have hstep : ∀ {c objects k o k'}, Aged objects k →
      (captured k.trace ≠ [] → ¬Throughout DispatchLive k.trace) → Steps objects k c o k' →
      captured k'.trace ≠ [] → ¬Throughout DispatchLive k'.trace := by
    intro c objects k o k' aged hk hs hne hlive
    obtain heq | ⟨k₁, init, hp⟩ := hs.captures
    · exact hk (heq ▸ hne) (hlive.of_isPrefix hs.isPrefix)
    · exact not_dispatchLive_of_initialised aged init (hlive k₁.trace hp)
  have hrun : (p.execute ∅).wp (machine env)
      (fun objects k => Aged objects k ∧
        (captured k.trace ≠ [] → ¬Throughout DispatchLive k.trace))
      (fun k => captured k.trace ≠ [] → ¬Throughout DispatchLive k.trace) {} := by
    apply run_program
    · exact fun objects k hk => hk.1.idle
    · exact fun c _ objects k objects' k' hk hs => ⟨hk.1.steps hs, hstep hk.1 hk.2 hs⟩
    · exact fun c _ objects k k' hk hs => hstep hk.1 hk.2 hs
    · exact ⟨Aged.start, fun hne => absurd rfl hne⟩
  exact history_of_wp hrun (P := fun t => captured t ≠ [] → ¬Throughout DispatchLive t)
    (fun objects k hk => hk.2) (fun k hk => hk) h

/-- In every state of a run the tables of the registrations on the books are
live, exactly when no `WskCaptureProviderNPI` of the run succeeds. -/
theorem throughout_dispatchLive_iff (env : Surroundings) (p : Program) :
    Throughout DispatchLive (history env p) ↔
      ∀ reg npi status, .capture reg npi status ∈ history env p → ntSuccess status = false := by
  rw [← captured_eq_nil]
  constructor
  · intro h
    by_contra hne
    exact not_throughout_of_captured env p hne h
  · intro h
    have hrun : (p.execute ∅).wp (machine env)
        (fun objects k => Aged objects k ∧ (captured k.trace = [] → Uncaptured objects k))
        (fun k => captured k.trace = [] → Throughout DispatchLive k.trace) {} := by
      apply run_program
      · exact fun objects k hk => hk.1.idle
      · intro c _ objects k objects' k' hk hs
        refine ⟨hk.1.steps hs, fun hnone => ?_⟩
        exact ((hk.2 (captured_of_isPrefix hs.isPrefix hnone)).steps hs hnone).2 objects' rfl
      · intro c _ objects k k' hk hs hnone
        exact ((hk.2 (captured_of_isPrefix hs.isPrefix hnone)).steps hs hnone).1
      · exact ⟨Aged.start, fun _ => Uncaptured.start⟩
    exact history_of_wp hrun (P := fun t => captured t = [] → Throughout DispatchLive t)
      (fun objects k hk hnone => (hk.2 hnone).live) (fun k hk => hk) h

/-- `InitWsk` returns, and the table of the registration it made is gone. -/
theorem acceptOnce_not_dispatchLive : ¬Throughout DispatchLive (history cooperative acceptOnce) := by
  intro h
  have hlive := h ((history cooperative acceptOnce).take 4) (List.take_prefix _ _) ⟨0⟩
    ⟨0, .wskClientDispatch⟩ statusSuccess (by decide +kernel) (by decide) (by decide +kernel)
  exact absurd hlive.2 (by decide +kernel)

end Sequential

end WinShell
