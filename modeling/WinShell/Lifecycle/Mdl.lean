-- SUMMARY: Which data operations give back the MDL they allocate, and what a sequence of them leaves.
import WinShell.Lifecycle.Release

/-!
# MDLs on the data path

The four data operations each allocate one MDL. The senders and the receiver of a
connection free it when the provider fails the call at once, and on no other way
out: the branch on the transferred length is never taken. The receiver of
datagrams never frees it.
-/

namespace WinShell

open Effect

/-- A call of one of the four data operations. -/
inductive DataCall where
  | sendDataConnectionSocket (sock : PWskSocket) (data : PVoid) (dataSize : ULong)
  | getDataConnectionSocket (sock : PWskSocket) (data : PVoid) (dataSize : ULong)
  | sendDataDatagramSocket (sock : PWskSocket) (data : PVoid) (dataSize : ULong)
      (connectionAddress : SockAddr)
  | getDataDatagramSocket (sock : PWskSocket) (data : PVoid) (dataSize : ULong)

namespace DataCall

def invoke : DataCall → Win NtStatus
  | sendDataConnectionSocket sock data dataSize =>
    Utils.sendDataConnectionSocket sock data dataSize
  | getDataConnectionSocket sock data dataSize => Utils.getDataConnectionSocket sock data dataSize
  | sendDataDatagramSocket sock data dataSize connectionAddress =>
    Utils.sendDataDatagramSocket sock data dataSize connectionAddress
  | getDataDatagramSocket sock data dataSize => Utils.getDataDatagramSocket sock data dataSize

def receivesDatagrams : DataCall → Bool
  | getDataDatagramSocket _ _ _ => true
  | _ => false

/-- Data operations that run one after the other. -/
def invokeAll : List DataCall → Win (List NtStatus)
  | [] => return []
  | d :: rest => do
    let status ← d.invoke
    let statuses ← invokeAll rest
    return status :: statuses

end DataCall

namespace Sequential

variable {env : Surroundings} {k k' : Kernel}

/-- The call gives its MDL back when the provider answers so. -/
def returnsMdl (d : DataCall) (response : Response) : Bool :=
  !d.receivesDatagrams && response.failsInline

/-- What a data operation leaves behind, when the pool serves it. -/
structure Transfers (env : Surroundings) (d : DataCall) (k k' : Kernel) : Prop where
  run : run env d.invoke k = (some (env.respond k.calls).status, k')
  idle : k'.requests = []
  calls : k'.calls = k.calls + 1
  live : k'.mdls.live =
    if returnsMdl d (env.respond k.calls) then k.mdls.live else k.mdls.next :: k.mdls.live

theorem live_transferred (env : Surroundings) (k : Kernel) (data : PVoid) (dataSize : ULong) :
    (transferred env k data dataSize).mdls.live =
      if (env.respond k.calls).failsInline then k.mdls.live else k.mdls.next :: k.mdls.live := by
  unfold transferred
  split
  · simp [withoutMdl]
  · simp [withMdl]

/-- An operation that releases its MDL on an inline failure. -/
theorem Transfers.of_transferred {d : DataCall} {call : WskCall} {fin : Final} {data : PVoid}
    {dataSize : ULong} (hq : k.requests = []) (hd : d.receivesDatagrams = false)
    (hrun : Sequential.run env d.invoke k =
      (some (env.respond k.calls).status, finished (transferred env k data dataSize) call fin)) :
    Transfers env d k (finished (transferred env k data dataSize) call fin) where
  run := hrun
  idle := by
    show (transferred env k data dataSize).requests = []
    unfold transferred
    split <;> exact hq
  calls := by
    show (transferred env k data dataSize).calls + 1 = k.calls + 1
    unfold transferred
    split <;> rfl
  live := by
    show (transferred env k data dataSize).mdls.live = _
    rw [live_transferred, returnsMdl, hd, Bool.not_false, Bool.true_and]

theorem transfers (d : DataCall) (hq : k.requests = []) (hmem : env.Allocates) :
    ∃ k', Transfers env d k k' := by
  cases d with
  | sendDataConnectionSocket sock data dataSize =>
    exact ⟨_, .of_transferred hq rfl
      (@run_sendData env k (fun frame buffer => .wskSend sock buffer ⟨frame, .buffer⟩) data
        dataSize hq (hmem _) (hmem _) trivial)⟩
  | getDataConnectionSocket sock data dataSize =>
    exact ⟨_, .of_transferred hq rfl
      (@run_getDataConnectionSocket env k sock data dataSize hq (hmem _) (hmem _))⟩
  | sendDataDatagramSocket sock data dataSize connectionAddress =>
    exact ⟨_, .of_transferred hq rfl
      (@run_sendData env k
        (fun frame buffer => .wskSendTo sock buffer ⟨frame, .buffer⟩ connectionAddress) data
        dataSize hq (hmem _) (hmem _) trivial)⟩
  | getDataDatagramSocket sock data dataSize =>
    refine ⟨_, run_getDataDatagramSocket hq (hmem _) (hmem _), hq, rfl, ?_⟩
    simp [finished, withMdl, returnsMdl, DataCall.receivesDatagrams]

/-- The number of calls of a sequence that keep their MDL, when the first is
provider call number `n`. -/
def keptMdls (env : Surroundings) : Nat → List DataCall → Nat
  | _, [] => 0
  | n, d :: rest =>
    (if returnsMdl d (env.respond n) then 0 else 1) + keptMdls env (n + 1) rest

/-- The provider fails each call of a sequence at once, and none of them receives
datagrams. The first is provider call number `n`. -/
def AllFailInline (env : Surroundings) (n : Nat) (ds : List DataCall) : Prop :=
  ∀ i d, ds[i]? = some d → d.receivesDatagrams = false ∧ (env.respond (n + i)).failsInline = true

theorem returnsMdl_iff {d : DataCall} {response : Response} :
    returnsMdl d response = true ↔ d.receivesDatagrams = false ∧ response.failsInline = true := by
  simp [returnsMdl]

theorem allFailInline_cons {n : Nat} {d : DataCall} {rest : List DataCall} :
    AllFailInline env n (d :: rest) ↔
      returnsMdl d (env.respond n) = true ∧ AllFailInline env (n + 1) rest := by
  rw [returnsMdl_iff]
  constructor
  · intro h
    refine ⟨h 0 d rfl, ?_⟩
    intro i d' hi
    have h' := h (i + 1) d' (by rwa [List.getElem?_cons_succ])
    rwa [Nat.add_assoc, Nat.add_comm 1 i]
  · rintro ⟨hd, hrest⟩ i d' hi
    cases i with
    | zero =>
      cases hi
      exact hd
    | succ i =>
      rw [List.getElem?_cons_succ] at hi
      have h := hrest i d' hi
      rwa [Nat.add_assoc, Nat.add_comm 1 i] at h

theorem keptMdls_eq_zero_iff {n : Nat} {ds : List DataCall} :
    keptMdls env n ds = 0 ↔ AllFailInline env n ds := by
  induction ds generalizing n with
  | nil => simp [keptMdls, AllFailInline]
  | cons d rest ih =>
    rw [keptMdls, Nat.add_eq_zero_iff, ih, allFailInline_cons]
    cases returnsMdl d (env.respond n) with
    | true => simp
    | false => simp

/-- A sequence of calls leaves one MDL for each call that kept its own. -/
theorem run_invokeAll (ds : List DataCall) (hq : k.requests = []) (hmem : env.Allocates) :
    ∃ statuses k', run env (DataCall.invokeAll ds) k = (some statuses, k') ∧
      k'.requests = [] ∧ k'.calls = k.calls + ds.length ∧
      k'.mdls.live.length = k.mdls.live.length + keptMdls env k.calls ds := by
  induction ds generalizing k with
  | nil => exact ⟨[], k, rfl, hq, rfl, rfl⟩
  | cons d rest ih =>
    obtain ⟨k₁, hrun, hidle, hcalls, hlive⟩ := transfers d hq hmem
    obtain ⟨statuses, k₂, hrest, hidle', hcalls', hlive'⟩ := ih hidle
    refine ⟨(env.respond k.calls).status :: statuses, k₂, ?_, hidle', ?_, ?_⟩
    · simp only [DataCall.invokeAll, run_bind, hrun, hrest]
      rfl
    · rw [hcalls', hcalls, List.length_cons, Nat.add_assoc, Nat.add_comm 1]
    · rw [hlive', hlive, hcalls, keptMdls]
      split
      · rw [Nat.zero_add]
      · rw [List.length_cons, Nat.add_assoc]

/-- Every call of the sequence, when it returns, has freed what it allocated. -/
def Balanced (env : Surroundings) (ds : List DataCall) (k : Kernel) : Prop :=
  ∀ pre d post, ds = pre ++ d :: post →
    ∀ statuses k₁ status k₂, run env (DataCall.invokeAll pre) k = (some statuses, k₁) →
      run env d.invoke k₁ = (some status, k₂) → k₂.mdls.live = k₁.mdls.live

theorem Transfers.live_eq_iff {d : DataCall} (h : Transfers env d k k') :
    k'.mdls.live = k.mdls.live ↔ returnsMdl d (env.respond k.calls) = true := by
  rw [h.live]
  cases returnsMdl d (env.respond k.calls) with
  | true => simp
  | false => simp

theorem balanced_iff_allFailInline {ds : List DataCall} (hq : k.requests = [])
    (hmem : env.Allocates) : Balanced env ds k ↔ AllFailInline env k.calls ds := by
  constructor
  · intro h i d hi
    obtain ⟨hlt, hget⟩ := List.getElem?_eq_some_iff.mp hi
    have hsplit : ds = ds.take i ++ d :: ds.drop (i + 1) := by
      rw [← hget, List.getElem_cons_drop, List.take_append_drop]
    obtain ⟨statuses, k₁, hrun, hidle, hcalls, -⟩ := run_invokeAll (ds.take i) hq hmem
    obtain ⟨k₂, hd⟩ := transfers d hidle hmem
    have hkept := hd.live_eq_iff.mp (h _ d _ hsplit statuses k₁ _ k₂ hrun hd.run)
    rw [hcalls, List.length_take_of_le (Nat.le_of_lt hlt)] at hkept
    exact returnsMdl_iff.mp hkept
  · rintro h pre d post rfl statuses k₁ status k₂ hrun hd
    obtain ⟨statuses', k₁', hrun', hidle, hcalls, -⟩ := run_invokeAll pre hq hmem
    cases hrun.symm.trans hrun'
    obtain ⟨k₂', hd'⟩ := transfers d hidle hmem
    cases hd.symm.trans hd'.run
    refine hd'.live_eq_iff.mpr ?_
    rw [hcalls]
    exact returnsMdl_iff.mpr (h pre.length d (by simp))

/-- A sequence of data operations returns. It is balanced, call by call and in
the number of live MDLs at its end, exactly when the provider fails every call at
once and none of them receives datagrams. Between two calls of one thread no
request is outstanding. -/
theorem mdls_balanced_iff (ds : List DataCall) (hq : k.requests = []) (hmem : env.Allocates) :
    ∃ statuses k', run env (DataCall.invokeAll ds) k = (some statuses, k') ∧
      (Balanced env ds k ↔ AllFailInline env k.calls ds) ∧
      (k'.mdls.live.length = k.mdls.live.length ↔ AllFailInline env k.calls ds) := by
  obtain ⟨statuses, k', hrun, -, -, hlive⟩ := run_invokeAll ds hq hmem
  refine ⟨statuses, k', hrun, balanced_iff_allFailInline hq hmem, ?_⟩
  rw [hlive, ← keptMdls_eq_zero_iff]
  exact Nat.add_eq_left

theorem mdls_balanced_iff_sendOnce :
    ∃ statuses k',
      run cooperative (DataCall.invokeAll [.sendDataConnectionSocket 2#64 0#64 5#32]) {} =
        (some statuses, k') ∧
      (Balanced cooperative [.sendDataConnectionSocket 2#64 0#64 5#32] {} ↔
        AllFailInline cooperative 0 [.sendDataConnectionSocket 2#64 0#64 5#32]) ∧
      (k'.mdls.live.length = 0 ↔
        AllFailInline cooperative 0 [.sendDataConnectionSocket 2#64 0#64 5#32]) :=
  mdls_balanced_iff _ rfl fun _ => rfl

/-- One send that succeeds leaves its MDL behind. -/
theorem sendOnce_not_balanced :
    cooperative.Allocates ∧
      ¬Balanced cooperative [.sendDataConnectionSocket 2#64 0#64 5#32] {} ∧
      ∃ statuses k',
        run cooperative (DataCall.invokeAll [.sendDataConnectionSocket 2#64 0#64 5#32]) {} =
          (some statuses, k') ∧ k'.mdls.live = [0] := by
  refine ⟨fun _ => rfl, ?_, _, _, rfl, by decide +kernel⟩
  intro h
  have hlive := h [] _ [] rfl [] {} _ _ rfl rfl
  exact absurd hlive (by decide +kernel)

end Sequential

end WinShell
