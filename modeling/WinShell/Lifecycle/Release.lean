-- SUMMARY: Order and number of the calls that end things: closes, releases and deregistrations.
import WinShell.Lifecycle.Ownership

/-!
# Releasing what is owned

What the law of the interface gives for whole runs. Two things go beyond it. A
socket that `WskAccept` hands out belongs to nobody and is never closed. And a
copied object gives its registration a second owner, so that it is deregistered
twice once both owners are destroyed.
-/

namespace WinShell

open Effect Sockets Trace

namespace Sequential

variable {env : Surroundings} {k k' : Kernel} {objects objects' : Objects} {p : Program}

/-! ## A provider and a program -/

/-- A provider that grants everything at once, with the number of the call as the
handle. -/
def cooperative : Surroundings where
  respond n := ⟨⟨statusSuccess, BitVec.ofNat 64 n, []⟩, false⟩
  allocate _ := true
  garbage _ := SockAddr.zero

/-- The storage of an object before its constructor runs. -/
def storage : Socket := ⟨0#64, ⟨0⟩, ⟨0⟩⟩

/-- A listener that accepts one connection. -/
def acceptOnce : Program :=
  [.construct .listenerSocket 0 storage, .invoke 0 .accept, .destroy 0]

/-- A listener and a copy of it. -/
def copyOnce : Program :=
  [.construct .listenerSocket 0 storage, .copyConstruct 1 0, .destroy 0, .destroy 1]

/-! ## The order of the calls -/

/-- Every provider call of a program that copies no object is permitted by the
calls before it, and nothing is ended twice. -/
theorem calls_in_order (hp : p.CopyFree) (hfresh : FreshHandles (history env p)) :
    (∀ pre e post, history env p = pre ++ e :: post → Permitted pre e) ∧
      (closed (history env p)).Nodup ∧ (released (history env p)).Nodup ∧
      (deregistered (history env p)).Nodup := by
  have always : Always Permitted (history env p) := always_permitted hp hfresh
  exact ⟨always, nodup_closed always, nodup_released always, nodup_deregistered always⟩

theorem calls_in_order_acceptOnce :
    (∀ pre e post, history cooperative acceptOnce = pre ++ e :: post → Permitted pre e) ∧
      (closed (history cooperative acceptOnce)).Nodup ∧
      (released (history cooperative acceptOnce)).Nodup ∧
      (deregistered (history cooperative acceptOnce)).Nodup :=
  calls_in_order (by unfold Program.CopyFree; decide) (by unfold FreshHandles; decide +kernel)

/-! ## Sockets at the end of a registration -/

/-- When `DeregisterWsk` ends a registration, every socket that was handed out
under it has been closed exactly once. -/
def ClosedAtRelease (t : List Event) : Prop :=
  ∀ pre reg post, t = pre ++ .release reg :: post →
    ∀ sock, HandedOutUnder pre reg sock → (closed pre).count sock = 1

/-- When `DeregisterWsk` ends a registration, no `WskAccept` on a socket of the
registration has succeeded. -/
def AcceptedNothing (t : List Event) : Prop :=
  ∀ pre reg post, t = pre ++ .release reg :: post →
    ∀ npi listener sock, (reg, npi) ∈ captured pre → (npi, listener) ∈ created pre →
      (listener, sock) ∉ accepted pre

theorem closedAtRelease_iff_acceptedNothing (hp : p.CopyFree)
    (hfresh : FreshHandles (history env p)) :
    ClosedAtRelease (history env p) ↔ AcceptedNothing (history env p) := by
  have always : Always Permitted (history env p) := always_permitted hp hfresh
  constructor
  · intro h pre reg post ht npi listener sock hnpi hlistener haccepted
    have hprefix : pre <+: history env p := ⟨_, ht.symm⟩
    have hcount : (closed pre).count sock = 1 :=
      h pre reg post ht sock ⟨npi, hnpi, .inr ⟨listener, hlistener, haccepted⟩⟩
    have hmem : sock ∈ closed pre := List.count_pos_iff.mp (hcount ▸ Nat.one_pos)
    obtain ⟨npi', hcreated⟩ := created_of_closed (always.of_isPrefix hprefix) hmem
    exact not_created_of_accepted (hfresh.of_isPrefix hprefix) haccepted hcreated
  · intro h pre reg post ht sock hsock
    have hprefix : pre <+: history env p := ⟨_, ht.symm⟩
    obtain ⟨npi, hnpi, hcreated | ⟨listener, hlistener, haccepted⟩⟩ := hsock
    · have hclosed : sock ∈ closed pre := (always pre _ post ht).2 npi sock hnpi hcreated
      exact List.count_eq_one_of_mem (nodup_closed (always.of_isPrefix hprefix)) hclosed
    · exact absurd haccepted (h pre reg post ht npi listener sock hnpi hlistener)

theorem closedAtRelease_iff_acceptedNothing_acceptOnce :
    ClosedAtRelease (history cooperative acceptOnce) ↔
      AcceptedNothing (history cooperative acceptOnce) :=
  closedAtRelease_iff_acceptedNothing (by unfold Program.CopyFree; decide)
    (by unfold FreshHandles; decide +kernel)

/-- The accepted connection is still open when the listener's registration ends. -/
theorem acceptOnce_not_closedAtRelease :
    acceptOnce.CopyFree ∧ FreshHandles (history cooperative acceptOnce) ∧
      (start cooperative acceptOnce).1.map AList.keys = some [] ∧
      ¬ClosedAtRelease (history cooperative acceptOnce) := by
  refine ⟨by unfold Program.CopyFree; decide, by unfold FreshHandles; decide +kernel,
    by decide +kernel, ?_⟩
  intro h
  have hcount : (closed ((history cooperative acceptOnce).take 20)).count 4#64 = 1 := by
    apply h _ ⟨0⟩ ((history cooperative acceptOnce).drop 21) (by decide +kernel)
    exact ⟨⟨1⟩, by decide +kernel, .inr ⟨2#64, by decide +kernel, by decide +kernel⟩⟩
  exact absurd hcount (by decide +kernel)

/-! ## Copies -/

/-- Nothing is ended twice, and no request is made on a closed socket. -/
structure ReleasedOnce (t : List Event) : Prop where
  closed : (closed t).Nodup
  released : (released t).Nodup
  deregistered : (deregistered t).Nodup
  used : ∀ pre req post sock, t = pre ++ .issue req :: post →
    req.call.socket = some sock → sock ∉ Trace.closed pre

/-- Every command finds the objects it needs. -/
def admits (env : Surroundings) : Program → Objects → Kernel → Bool
  | [], _, _ => true
  | c :: p, objects, k =>
    c.applies objects &&
      match run env (c.execute objects) k with
      | (some objects', k') => admits env p objects' k'
      | (none, _) => true

/-- Every command of the program is admitted, and the run ends with every object
destroyed. -/
structure Completes (env : Surroundings) (p : Program) : Prop where
  admitted : admits env p ∅ {} = true
  destroyed : (start env p).1.map AList.keys = some []

/-- Some registration is, or will be, deregistered twice. -/
inductive Doomed (objects : Objects) (k : Kernel) : Prop
  | twice (h : ¬(deregistered k.trace).Nodup)
  | stale {id : Nat} {object : Object} (hid : objects.lookup id = some object)
      (h : object.fields.wskReg ∈ deregistered k.trace)
  | shared {id id' : Nat} {object object' : Object} (hne : id ≠ id')
      (hid : objects.lookup id = some object) (hid' : objects.lookup id' = some object')
      (h : object.fields.wskReg = object'.fields.wskReg)

/-- A copy leaves two objects with one registration. -/
theorem doomed_of_copies {c : Command} (hs : Steps objects k c (some objects') k')
    (happlies : c.applies objects = true) (hc : c.copies = true) : Doomed objects' k' := by
  generalize ho : some objects' = o at hs
  cases hs with
  | skips h => simp [happlies] at h
  | constructs | invokes | destroys => simp [Command.copies] at hc
  | @copyConstructs id source object hid hsource =>
    cases ho
    have hne : id ≠ source := by
      rintro rfl
      simp [hid] at hsource
    refine .shared hne (AList.lookup_insert objects) ?_ rfl
    rw [AList.lookup_insert_ne hne.symm, hsource]
  | @copyAssigns id source object object' hid hsource hcls =>
    cases ho
    have hne : id ≠ source := by simpa [Command.copies] using hc
    refine .shared hne (AList.lookup_insert objects) ?_ rfl
    rw [AList.lookup_insert_ne hne.symm, hsource]

/-- A copy that is not admitted does nothing. -/
theorem Steps.of_not_applies {c : Command} {o : Option Objects} (hs : Steps objects k c o k')
    (hc : c.copies = true) (happlies : c.applies objects = false) :
    o = some objects ∧ k' = k := by
  cases hs with
  | skips _ => exact ⟨rfl, rfl⟩
  | constructs | invokes | destroys => simp [Command.copies] at hc
  | copyConstructs hid hsource => simp [Command.applies, hid, hsource] at happlies
  | copyAssigns hid hsource hcls => simp [Command.applies, hid, hsource, hcls] at happlies

/-- A command that copies nothing leaves an object as it is, or destroys it. -/
theorem Steps.keeps {c : Command} {id : Nat} {object : Object}
    (hs : Steps objects k c (some objects') k') (hc : c.copies = false)
    (hid : objects.lookup id = some object) :
    objects'.lookup id = some object ∨
      c = .destroy id ∧
        deregistered k'.trace = deregistered k.trace ++ [object.fields.wskReg] := by
  generalize ho : some objects' = o at hs
  cases hs with
  | skips _ => cases ho; exact .inl hid
  | @constructs cls id' storage outcome _ hnone h =>
    left
    have hne : id ≠ id' := by
      rintro rfl
      simp [hid] at hnone
    cases outcome with
    | none => cases ho
    | some outcome =>
      cases ho
      cases outcome with
      | error e => exact hid
      | ok this => rw [constructed, AList.lookup_insert_ne hne, hid]
  | @invokes id' method object' outcome _ hid' hcls h =>
    cases outcome with
    | none => cases ho
    | some outcome => cases ho; exact .inl hid
  | @destroys id' object' outcome _ hid' h =>
    cases outcome with
    | none => cases ho
    | some outcome =>
      cases ho
      rcases eq_or_ne id id' with rfl | hne
      · right
        rw [hid, Option.some.injEq] at hid'
        subst hid'
        cases h with
        | returns fin leads => simp [leads.trace, exchange, requestOf]
      · left
        rw [AList.lookup_erase_ne hne, hid]
  | copyConstructs _ _ => simp [Command.copies] at hc
  | @copyAssigns id' source object₁ object₂ hid₁ hsource hcls =>
    left
    cases ho
    have heq : id' = source := by simpa [Command.copies] using hc
    subst heq
    rcases eq_or_ne id id' with rfl | hne
    · rw [AList.lookup_insert, ← hsource, hid]
    · rw [AList.lookup_insert_ne hne, hid]

/-- What is doomed stays doomed. -/
theorem Doomed.steps {c : Command} (h : Doomed objects k)
    (hs : Steps objects k c (some objects') k') : Doomed objects' k' := by
  obtain ⟨s, htrace⟩ := hs.isPrefix
  have hold : ∀ reg, reg ∈ deregistered k.trace → reg ∈ deregistered k'.trace := by
    intro reg hreg
    rw [← htrace]
    exact mem_collect_left hreg
  by_cases hc : c.copies = true
  · by_cases happlies : c.applies objects = true
    · exact doomed_of_copies hs happlies hc
    · obtain ⟨heq, rfl⟩ := hs.of_not_applies hc (by simpa using happlies)
      cases heq
      exact h
  replace hc : c.copies = false := by simpa using hc
  cases h with
  | twice h =>
    refine .twice fun hnodup => h ?_
    rw [← htrace, deregistered, collect_append, List.nodup_append] at hnodup
    exact hnodup.1
  | @stale id object hid h =>
    obtain hid' | ⟨_, heq⟩ := hs.keeps hc hid
    · exact .stale hid' (hold _ h)
    · refine .twice fun hnodup => ?_
      rw [heq, List.nodup_append] at hnodup
      exact hnodup.2.2 _ h _ (List.mem_singleton_self _) rfl
  | @shared id id' object object' hne hid hid' h =>
    obtain hkeep | ⟨rfl, heq⟩ := hs.keeps hc hid
    · obtain hkeep' | ⟨_, heq⟩ := hs.keeps hc hid'
      · exact .shared hne hkeep hkeep' h
      · exact .stale hkeep (by simp [heq, h])
    · obtain hkeep' | ⟨heq', _⟩ := hs.keeps hc hid'
      · exact .stale hkeep' (by simp [heq, h])
      · exact absurd (Command.destroy.inj heq') hne

theorem wp_doomed (p : Program) (hidle : Aged objects k) (h : Doomed objects k) :
    (p.execute objects).wp (machine env) Doomed (fun _ => True) k := by
  have hrun : (p.execute objects).wp (machine env)
      (fun objects k => Aged objects k ∧ Doomed objects k) (fun _ => True) k := by
    apply run_program
    · exact fun objects k h => h.1.idle
    · exact fun c _ objects k objects' k' h hs => ⟨h.1.steps hs, h.2.steps hs⟩
    · exact fun c _ objects k k' _ _ => trivial
    · exact ⟨hidle, h⟩
  exact hrun.mono (fun objects k h => h.2) (fun _ h => h)

/-- A program whose commands are all admitted, and one of which copies, is doomed. -/
theorem wp_copies {p : Program} (haged : Aged objects k)
    (hadmitted : admits env p objects k = true) (hc : ∃ c ∈ p, c.copies = true) :
    (p.execute objects).wp (machine env) Doomed (fun _ => True) k := by
  induction p generalizing objects k with
  | nil => simp at hc
  | cons c p ih =>
    rw [admits, Bool.and_eq_true] at hadmitted
    obtain ⟨happlies, hrest⟩ := hadmitted
    have hs : Steps objects k c _ _ := run_command env c haged.idle
    apply Prog.wp.bind
    unfold Prog.wp
    rcases hrun : (c.execute objects).run (machine env) k with ⟨_ | objects', k'⟩
    · trivial
    · rw [run, hrun] at hs
      rw [run, hrun] at hrest
      obtain ⟨c', hmem, hcopies⟩ := hc
      rcases List.mem_cons.mp hmem with rfl | hmem
      · exact wp_doomed p (haged.steps hs) (doomed_of_copies hs happlies hcopies)
      · exact ih (haged.steps hs) hrest ⟨c', hmem, hcopies⟩

theorem releasedOnce_of_copyFree (hp : p.CopyFree) (hfresh : FreshHandles (history env p)) :
    ReleasedOnce (history env p) := by
  have always : Always Permitted (history env p) := always_permitted hp hfresh
  refine ⟨nodup_closed always, nodup_released always, nodup_deregistered always, ?_⟩
  intro pre req post sock ht hsock
  exact ((always pre (.issue req) post ht).2 sock hsock).1.2

theorem copyFree_of_releasedOnce (hcomplete : Completes env p)
    (h : ReleasedOnce (history env p)) : p.CopyFree := by
  intro c hmem
  by_contra hc
  have hdoomed : (p.execute ∅).wp (machine env) Doomed (fun _ => True) {} :=
    wp_copies Aged.start hcomplete.admitted ⟨c, hmem, by simpa using hc⟩
  obtain ⟨objects, hobjects, hkeys⟩ := Option.map_eq_some_iff.mp hcomplete.destroyed
  have hnone : ∀ id, objects.lookup id = none := by
    intro id
    rw [AList.lookup_eq_none, AList.mem_keys, hkeys]
    exact List.not_mem_nil
  have hend : Doomed objects (start env p).2 := hdoomed.of_run (Prod.ext hobjects rfl)
  cases hend with
  | twice htwice => exact htwice h.deregistered
  | stale hid _ | shared _ hid _ _ => simp [hnone] at hid

/-- Every run without copies ends everything at most once; of the runs that are
complete, no others do. -/
theorem releasedOnce_iff_copyFree (hfresh : FreshHandles (history env p)) :
    (p.CopyFree → ReleasedOnce (history env p)) ∧
      (Completes env p → (ReleasedOnce (history env p) ↔ p.CopyFree)) :=
  ⟨fun hp => releasedOnce_of_copyFree hp hfresh,
    fun hcomplete => ⟨copyFree_of_releasedOnce hcomplete,
      fun hp => releasedOnce_of_copyFree hp hfresh⟩⟩

theorem releasedOnce_iff_copyFree_copyOnce :
    (copyOnce.CopyFree → ReleasedOnce (history cooperative copyOnce)) ∧
      (Completes cooperative copyOnce →
        (ReleasedOnce (history cooperative copyOnce) ↔ copyOnce.CopyFree)) :=
  releasedOnce_iff_copyFree (by unfold FreshHandles; decide +kernel)

/-- The listener and its copy close one socket twice. -/
theorem copyOnce_not_releasedOnce :
    Completes cooperative copyOnce ∧ FreshHandles (history cooperative copyOnce) ∧
      ¬ReleasedOnce (history cooperative copyOnce) := by
  refine ⟨⟨by decide +kernel, by decide +kernel⟩, by unfold FreshHandles; decide +kernel, ?_⟩
  intro h
  exact absurd h.closed (by decide +kernel)

end Sequential

end WinShell
