-- SUMMARY: What clients may ask of a TLSF pool and what they are answered, and that the code serves every client program.
import WinShell.Effect.Handler
import WinShell.Tlsf.Resize
import WinShell.Tlsf.Check
import WinShell.Tlsf.Policy

/-!
# Clients

A client program calls the allocator and reads and writes the words of the blocks it
holds. Its interface speaks of contents only: an allocation adds a block that was not
there, and no other call touches what a block holds. The code implements this
interface, so every client that keeps to it is served, from the creation of the pool on.
-/

namespace WinShell.Tlsf

open Effect

/-! ## Requests -/

inductive Request where
  | malloc (size : Nat)
  | memalign (align size : Nat)
  | realloc (ptr size : Nat)
  | free (ptr : Nat)
  | blockSize (ptr : Nat)
  | read (ptr i : Nat)
  | write (ptr i value : Nat)

@[simp] def Request.Ret : Request → Type
  | malloc _ | memalign _ _ | realloc _ _ | blockSize _ | read _ _ => Nat
  | free _ | write _ _ _ => Unit

def requests : Signature := ⟨Request, Request.Ret⟩

/-- The code behind a request. The accesses of the client to its own blocks are single words. -/
def serve (control : Nat) : (o : Request) → Code o.Ret
  | .malloc size => tlsfMalloc control size
  | .memalign align size => tlsfMemalign control align size
  | .realloc ptr size => tlsfRealloc control ptr size
  | .free ptr => tlsfFree control ptr
  | .blockSize ptr => tlsfBlockSize ptr
  | .read ptr i => load (ptr + 8 * i)
  | .write ptr i value => store (ptr + 8 * i) value

/-! ## The interface -/

/-- A size whose rounding does not wrap. -/
def Reasonable (size : Nat) : Prop := size + 7 < 2 ^ 64

/-- A size above those of all lists. -/
def Unserved (size : Nat) : Prop := 2 ^ 32 - 8 < size

/-- A power of two, as the code asserts. For the largest of a machine word, `2 ^ 63`, the size that is
searched wraps. -/
def Alignable (align : Nat) : Prop := ∃ j < 63, align = 2 ^ j

/-- A reallocation that loses the block: the size is above those of all lists, so it is adjusted to zero,
and the block is trimmed to nothing when another one fits into it. -/
def TrimsAll (ws : List Nat) (size : Nat) : Prop := Unserved size ∧ 32 ≤ 8 * ws.length

/-- A new block, or none. -/
def Allocates (A : Contents) (align size r : Nat) (A' : Contents) : Prop :=
  r = 0 ∧ A' = A ∨ r ≠ 0 ∧ A r = none ∧ align ∣ r ∧ 0 < size ∧ ¬Unserved size ∧
    ∃ vs, size ≤ 8 * vs.length ∧ A' = Function.update A r (some vs)

/-- The block with its first bytes, in its place or in another one. The old block stays when the
request cannot be satisfied. -/
def Reallocates (A : Contents) (ptr size r : Nat) (A' : Contents) : Prop :=
  (r = 0 ∨ Unserved size ∧ r = ptr) ∧ A' = A ∨ r ≠ 0 ∧ (r = ptr ∨ A r = none) ∧ ¬Unserved size ∧
    ∃ ws vs, A ptr = some ws ∧ size ≤ 8 * vs.length ∧ SameBytes (min (8 * ws.length) size) ws vs ∧
      A' = Function.update (Function.update A ptr none) r (some vs)

/-- Clients keep their sizes below those that wrap, ask for alignments that the code admits, and do not
reallocate a block to a size that loses it. What they name is live. -/
def poolInterface : Interface requests Contents where
  Pre A
    | .malloc size => Reasonable size
    | .memalign align size => Reasonable size ∧ Alignable align
    | .realloc ptr size => Reasonable size ∧ (ptr ≠ 0 → ∃ ws, A ptr = some ws ∧ ¬TrimsAll ws size)
    | .free ptr | .blockSize ptr => ptr ≠ 0 → (A ptr).isSome
    | .read ptr i | .write ptr i _ => ∃ ws, A ptr = some ws ∧ i < ws.length
  Post A o r A' := match o, r with
    | .malloc size, r => Allocates A alignSize size r A'
    | .memalign align size, r => Allocates A align size r A'
    | .realloc ptr size, r =>
      if ptr = 0 then Allocates A alignSize size r A'
      else if size = 0 then r = (0 : Nat) ∧ A' = Function.update A ptr none
      else Reallocates A ptr size r A'
    | .free ptr, _ => A' = Function.update A ptr none
    | .blockSize ptr, r => A' = A ∧ r = ((A ptr).elim 0 fun ws => 8 * ws.length : Nat)
    | .read ptr i, r => A' = A ∧ ∃ ws, A ptr = some ws ∧ ws[i]? = some (r : Nat)
    | .write ptr i value, _ =>
      ∃ ws, A ptr = some ws ∧ A' = Function.update A ptr (some (ws.set i value))

/-- The state holds a pool with the contents `A`. -/
def Keeps (arena : Arena) (s : State) (A : Contents) : Prop :=
  ∃ bs, Holds arena bs s ∧ contents arena bs = A

/-- Live spans are aligned, lie in the arena behind the control structure, and are apart. -/
structure Contents.Placed (arena : Arena) (A : Contents) : Prop where
  separated : A.Separated
  aligned : ∀ p ws, A p = some ws → 8 ∣ p
  inside : ∀ p ws, A p = some ws →
    arena.control + tlsfSize < p ∧ p + 8 * ws.length ≤ arena.control + arena.bytes

/-! ## Service -/

section Service

variable {arena : Arena} {s : State} {A : Contents} {p i size j : Nat} {ws : List Nat}

theorem Keeps.placed (h : Keeps arena s A) : A.Placed arena := by
  obtain ⟨bs, h, rfl⟩ := h
  refine ⟨contents_separated, fun p ws hp => (h.span hp).1, fun p ws hp => ?_⟩
  obtain ⟨-, -, hle, hend⟩ := h.span hp
  exact ⟨by omega, hend⟩

theorem Keeps.null (h : Keeps arena s A) : A 0 = none := by
  by_contra hne
  obtain ⟨ws, hws⟩ := Option.ne_none_iff_exists'.1 hne
  have := (h.placed.inside 0 ws hws).1
  omega

theorem ne_zero_of_live (h : Keeps arena s A) (hp : A p = some ws) : p ≠ 0 := by
  rintro rfl
  rw [h.null] at hp
  cases hp

/-- A served size is at most what it is adjusted to. -/
theorem served_of_adjusted (hr : Reasonable size) (h : adjusted size 3 ≠ 0) :
    0 < size ∧ ¬Unserved size ∧ size ≤ adjusted size 3 := by
  have hr : size + 7 < 2 ^ 64 := hr
  have hne := (@adjusted_eq_zero_iff size (by omega)).not.1 h
  refine ⟨by omega, fun hu => hne (.inr ⟨hu, by omega⟩), ?_⟩
  exact le_adjusted h (show size + (2 ^ 3 - 1) < 2 ^ 64 by omega)

theorem adjusted_ne_zero (hpos : size ≠ 0) (hu : ¬Unserved size) : adjusted size 3 ≠ 0 := by
  have hu : ¬2 ^ 32 - 8 < size := hu
  rw [ne_eq, adjusted_eq_zero_iff (by omega)]
  omega

theorem Keeps.malloc (h : Keeps arena s A) (hr : Reasonable size) :
    ∃ r s' A', Runs arena (tlsfMalloc arena.control size) s r s' ∧
      Allocates A alignSize size r A' ∧ Keeps arena s' A' := by
  obtain ⟨bs, hbs, rfl⟩ := h
  rcases hbs.malloc size with r | ⟨q, vs, bs', s', r, h', hq, hc, hzero, hlen⟩
  · exact ⟨0, s, _, r, .inl ⟨rfl, rfl⟩, bs, hbs, rfl⟩
  · obtain ⟨hpos, hserved, hle⟩ := served_of_adjusted hr hzero
    have hlive : contents arena bs' q = some vs := by rw [hc, Function.update_self]
    have hkeeps : Keeps arena s' (contents arena bs') := ⟨bs', h', rfl⟩
    exact ⟨q, s', _, r, .inr ⟨ne_zero_of_live hkeeps hlive, hq, (h'.span hlive).1, hpos, hserved, vs,
      by omega, hc⟩, hkeeps⟩

theorem Keeps.memalign (h : Keeps arena s A) (hr : Reasonable size) (hj : j < 63) :
    ∃ r s' A', Runs arena (tlsfMemalign arena.control (2 ^ j) size) s r s' ∧
      Allocates A (2 ^ j) size r A' ∧ Keeps arena s' A' := by
  obtain ⟨bs, hbs, rfl⟩ := h
  rcases hbs.memalign size hj with r | ⟨q, vs, bs', s', r, h', hq, hc, hdvd, hzero, hlen⟩
  · exact ⟨0, s, _, r, .inl ⟨rfl, rfl⟩, bs, hbs, rfl⟩
  · obtain ⟨hpos, hserved, hle⟩ := served_of_adjusted hr hzero
    have hlive : contents arena bs' q = some vs := by rw [hc, Function.update_self]
    have hkeeps : Keeps arena s' (contents arena bs') := ⟨bs', h', rfl⟩
    exact ⟨q, s', _, r, .inr ⟨ne_zero_of_live hkeeps hlive, hq, hdvd, hpos, hserved, vs, by omega, hc⟩,
      hkeeps⟩

theorem Keeps.free (h : Keeps arena s A) (hp : p ≠ 0 → (A p).isSome) :
    ∃ s', Runs arena (tlsfFree arena.control p) s () s' ∧
      Keeps arena s' (Function.update A p none) := by
  by_cases hzero : p = 0
  · subst hzero
    refine ⟨s, Prog.Runs.ret, ?_⟩
    rw [← h.null, Function.update_eq_self]
    exact h
  · obtain ⟨ws, hws⟩ := Option.isSome_iff_exists.1 (hp hzero)
    obtain ⟨bs, hbs, rfl⟩ := h
    obtain ⟨bs', s', r, h', hc⟩ := hbs.free hws
    exact ⟨s', r, bs', h', hc⟩

/-- Reallocation of a live block, to a size that is not zero. -/
theorem Keeps.realloc (h : Keeps arena s A) (hp : A p = some ws) (hpos : size ≠ 0)
    (hr : Reasonable size) (hu : ¬TrimsAll ws size) :
    ∃ r s' A', Runs arena (tlsfRealloc arena.control p size) s r s' ∧
      Reallocates A p size r A' ∧ Keeps arena s' A' := by
  obtain ⟨bs, hbs, rfl⟩ := h
  by_cases hserved : Unserved size
  · obtain ⟨xs, ys, rfl, rfl⟩ := contents_eq_some_iff.1 hp
    have hr' : size + 7 < 2 ^ 64 := hr
    obtain ⟨s', r, -, hsame⟩ := hbs.reallocUnserved ⟨hserved, by omega⟩
    have hsmall : 8 * ws.length < 32 := Nat.lt_of_not_le fun hle => hu ⟨hserved, hle⟩
    rw [hsame hsmall] at r
    exact ⟨_, s, _, r, .inl ⟨.inr ⟨hserved, rfl⟩, rfl⟩, _, hbs, rfl⟩
  · have hzero := adjusted_ne_zero hpos hserved
    have hle := (served_of_adjusted hr hzero).2.2
    rcases hbs.realloc hp hzero (by omega) with r | ⟨q, vs, bs', s', r, h', hq, hc, hlen, hsame⟩
    · exact ⟨0, s, _, r, .inl ⟨.inl rfl, rfl⟩, bs, hbs, rfl⟩
    · have hlive : contents arena bs' q = some vs := by rw [hc, Function.update_self]
      have hkeeps : Keeps arena s' (contents arena bs') := ⟨bs', h', rfl⟩
      exact ⟨q, s', _, r, .inr ⟨ne_zero_of_live hkeeps hlive, hq, hserved, ws, vs, hp, by omega, hsame,
        hc⟩, hkeeps⟩

theorem Keeps.blockSize (h : Keeps arena s A) (hp : p ≠ 0 → (A p).isSome) :
    Runs arena (tlsfBlockSize p) s ((A p).elim 0 fun ws => 8 * ws.length) s := by
  by_cases hzero : p = 0
  · subst hzero
    rw [h.null]
    exact Prog.Runs.ret
  · obtain ⟨ws, hws⟩ := Option.isSome_iff_exists.1 (hp hzero)
    obtain ⟨bs, hbs, rfl⟩ := h
    rw [hws]
    obtain ⟨xs, ys, rfl, rfl⟩ := contents_eq_some_iff.1 hws
    obtain ⟨L, hrep⟩ := hbs.stored
    rw [pool_append] at hrep
    have r := hrep.laid.runs_blockSize Arena.mid_mem_blocks
    rw [addr_chunks] at r
    have hblock : blockFromPtr (arena.place xs + 16) = arena.place xs := Nat.add_sub_cancel _ _
    rw [tlsfBlockSize, if_pos hzero, hblock]
    exact r

/-- The code of the allocator implements the interface. -/
theorem pool_implements (arena : Arena) :
    Implements (machine arena) poolInterface (serve arena.control) (Keeps arena) := by
  intro s A o h hpre
  cases o with
  | malloc size => exact h.malloc hpre
  | memalign align size =>
    obtain ⟨hr, j, hj, rfl⟩ := hpre
    exact h.memalign hr hj
  | realloc ptr size =>
    obtain ⟨hr, hlive⟩ := hpre
    by_cases hptr : ptr = 0
    · subst hptr
      obtain ⟨r, s', A', run, hpost, h'⟩ := h.malloc hr
      exact ⟨r, s', A', run, hpost, h'⟩
    · obtain ⟨ws, hws, hu⟩ := hlive hptr
      by_cases hsize : size = 0
      · subst hsize
        obtain ⟨s', run, h'⟩ := h.free (p := ptr) fun _ => by rw [hws]; rfl
        refine ⟨(0 : Nat), s', _, ?_, ?_, h'⟩
        · show Runs arena (tlsfRealloc arena.control ptr 0) s 0 s'
          rw [tlsfRealloc, if_pos ⟨hptr, rfl⟩]
          exact run.bind Prog.Runs.ret
        · show if ptr = 0 then _ else _
          rw [if_neg hptr, if_pos rfl]
          exact ⟨rfl, rfl⟩
      · obtain ⟨r, s', A', run, hpost, h'⟩ := h.realloc hws hsize hr hu
        refine ⟨r, s', A', run, ?_, h'⟩
        show if ptr = 0 then _ else _
        rw [if_neg hptr, if_neg hsize]
        exact hpost
  | free ptr =>
    obtain ⟨s', run, h'⟩ := h.free hpre
    exact ⟨(), s', _, run, rfl, h'⟩
  | blockSize ptr => exact ⟨_, s, A, h.blockSize hpre, ⟨rfl, rfl⟩, h⟩
  | read ptr i =>
    obtain ⟨ws, hws, hi⟩ := hpre
    have hget := List.getElem?_eq_getElem hi
    obtain ⟨bs, hbs, rfl⟩ := h
    obtain ⟨hmaps, hmem⟩ := hbs.mem_eq hws hget
    refine ⟨_, s, _, runs_load hmaps, ⟨rfl, ws, hws, ?_⟩, bs, hbs, rfl⟩
    rw [hmem]
    exact hget
  | write ptr i value =>
    obtain ⟨ws, hws, hi⟩ := hpre
    obtain ⟨bs, hbs, rfl⟩ := h
    obtain ⟨bs', run, h', hc⟩ := hbs.write hws hi value
    exact ⟨(), _, _, run, ⟨ws, hws, hc⟩, bs', h', rfl⟩

end Service

/-- A client program on a pool that is created for it. -/
def session (arena : Arena) {β : Type} (p : Prog requests β) : Code β := do
  let control ← tlsfCreateWithPool arena.control arena.bytes
  p.handle (serve control)

section Sessions

variable {arena : Arena} {β : Type} {p : Prog requests β} {Q : β → Contents → Prop}

/-- The run of a session. -/
theorem runs_session (hmin : blockSizeMin ≤ arena.poolBytes) (hmax : arena.poolBytes < blockSizeMax)
    (s : State) (hp : p.Meets poolInterface Q fun _ => none) :
    ∃ b s' A, Runs arena (session arena p) s b s' ∧ Q b A ∧ Keeps arena s' A := by
  obtain ⟨s₁, r₁, h₁⟩ := Holds.create hmin hmax s
  obtain ⟨b, s', A, r, hQ, h⟩ := (pool_implements arena).runs hp ⟨_, h₁, rfl⟩
  exact ⟨b, s', A, r₁.bind r, hQ, h⟩

/-- From the creation of the pool on, every client program that keeps to the interface is served:
no assertion fails and no access leaves the arena, what it guarantees over the interface holds, the
live blocks are in order, and memory holds their contents. -/
theorem clients_served (hmin : blockSizeMin ≤ arena.poolBytes) (hmax : arena.poolBytes < blockSizeMax)
    (s : State) (hp : p.Meets poolInterface Q fun _ => none) :
    ∃ b s' A, Runs arena (session arena p) s b s' ∧ Q b A ∧ A.Placed arena ∧
      ∀ q ws i v, A q = some ws → ws[i]? = some v → s'.mem (q + 8 * i) = v := by
  obtain ⟨b, s', A, r, hQ, h⟩ := runs_session hmin hmax s hp
  refine ⟨b, s', A, r, hQ, h.placed, fun q ws i v hq hi => ?_⟩
  obtain ⟨bs, hbs, rfl⟩ := h
  exact (hbs.mem_eq hq hi).2

/-- After every session the self-check passes. -/
theorem self_check_passes (hmin : blockSizeMin ≤ arena.poolBytes)
    (hmax : arena.poolBytes < blockSizeMax) (s : State) (hp : p.Meets poolInterface Q fun _ => none) :
    ∃ b s' n, Runs arena (session arena p) s b s' ∧
      ∀ fuel > n, Runs arena (tlsfCheck arena.control fuel) s' (some 0) s' ∧
        Runs arena (tlsfCheckPool (tlsfGetPool arena.control) fuel) s' (some 0) s' := by
  obtain ⟨b, s', A, r, -, bs, hbs, -⟩ := runs_session hmin hmax s hp
  exact ⟨b, s', bs.length, r, fun fuel hfuel => hbs.checks_pass hfuel⟩

/-- A session that frees what it allocated leaves the pool as it was created. -/
theorem released_pool_whole (hmin : blockSizeMin ≤ arena.poolBytes)
    (hmax : arena.poolBytes < blockSizeMax) (s : State)
    (hp : p.Meets poolInterface (fun _ A => A = fun _ => none) fun _ => none) :
    ∃ b s', Runs arena (session arena p) s b s' ∧ Holds arena [.free arena.poolBytes] s' := by
  obtain ⟨b, s', A, r, rfl, bs, hbs, hc⟩ := runs_session hmin hmax s hp
  have hpos : 24 ≤ arena.poolBytes := hmin
  rw [hbs.eq_of_contents_empty hc (by omega)] at hbs
  exact ⟨b, s', r, hbs⟩

end Sessions

/-- A client that stores a value in a new block and reads it back. -/
def storeOnce (value : Nat) : Prog requests Nat := do
  let ptr : Nat ← Prog.perform (S := requests) (.malloc 24)
  if ptr = 0 then
    return value
  else
    Prog.perform (S := requests) (.write ptr 0 value)
    let stored : Nat ← Prog.perform (S := requests) (.read ptr 0)
    Prog.perform (S := requests) (.free ptr)
    return stored

theorem storeOnce_meets (value : Nat) : (storeOnce value).Meets poolInterface
    (fun b A => b = value ∧ A = fun _ => none) fun _ => none := by
  refine ⟨show 24 + 7 < 2 ^ 64 by decide, fun (ptr : Nat) A hA => ?_⟩
  show Prog.Meets _ _ (if ptr = 0 then _ else _) A
  rcases hA with ⟨rfl, rfl⟩ | ⟨hptr, -, -, -, -, ws, hlen, rfl⟩
  · rw [if_pos rfl]
    exact ⟨rfl, rfl⟩
  · rw [if_neg hptr]
    refine ⟨⟨ws, Function.update_self .., by omega⟩, fun _ A hA => ?_⟩
    obtain ⟨vs, hvs, rfl⟩ := hA
    rw [Function.update_self] at hvs
    obtain rfl := Option.some.inj hvs
    refine ⟨⟨_, Function.update_self .., by rw [List.length_set]; omega⟩, fun stored A hA => ?_⟩
    obtain ⟨rfl, vs, hvs, hstored⟩ := hA
    rw [Function.update_self] at hvs
    obtain rfl := Option.some.inj hvs
    rw [List.getElem?_set_self (by omega)] at hstored
    refine ⟨fun _ => by rw [Function.update_self]; rfl, fun _ A hA => ?_⟩
    obtain rfl := hA
    refine ⟨(Option.some.inj hstored).symm, ?_⟩
    rw [Function.update_idem, Function.update_idem, Function.update_eq_self]

theorem clients_served_storeOnce :
    ∃ b s' A, Runs pageArena (session pageArena (storeOnce 7)) zeroed b s' ∧
      (b = 7 ∧ A = fun _ => none) ∧ Contents.Placed pageArena A ∧
      ∀ q ws i v, A q = some ws → ws[i]? = some v → s'.mem (q + 8 * i) = v :=
  clients_served (by decide) (by decide) zeroed (storeOnce_meets 7)

theorem self_check_passes_storeOnce :
    ∃ b s' n, Runs pageArena (session pageArena (storeOnce 7)) zeroed b s' ∧
      ∀ fuel > n, Runs pageArena (tlsfCheck 4096 fuel) s' (some 0) s' ∧
        Runs pageArena (tlsfCheckPool (tlsfGetPool 4096) fuel) s' (some 0) s' :=
  self_check_passes (by decide) (by decide) zeroed (storeOnce_meets 7)

theorem released_pool_whole_storeOnce :
    ∃ b s', Runs pageArena (session pageArena (storeOnce 7)) zeroed b s' ∧
      Holds pageArena [.free pageArena.poolBytes] s' :=
  released_pool_whole (by decide) (by decide) zeroed
    ((storeOnce_meets 7).mono fun _ _ h => h.2)

end WinShell.Tlsf
