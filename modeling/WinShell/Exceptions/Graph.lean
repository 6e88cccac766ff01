-- SUMMARY: The unwind map of a function, and that unwinding destroys what is alive, the last constructed first.
import WinShell.Exceptions.Numbers
import WinShell.Exceptions.Objects

/-!
# Unwind maps

The states of a function form a tree. Each state stands for what is alive in it: the
object that was constructed last, and what is alive in its parent state. The map holds
an edge for each state, with the action that destroys the object and the distance back
to the edge of the parent. `destroy_objects` runs through the edges of the states from
one state to an ancestor.
-/

namespace WinShell.Exceptions

open Store

/-! ## Calls -/

/-- The call of a function at an address. -/
structure Call where
  function : Nat
  arguments : List Nat
deriving DecidableEq

/-- The memory, and the calls made so far. -/
structure World where
  mem : Memory
  calls : List Call

/-- A call changes the memory as the function called does. -/
def World.call (run : Call → Memory → Memory) (c : Call) (w : World) : World :=
  ⟨run c w.mem, w.calls ++ [c]⟩

/-! ## Edges -/

/-- `unwind_edge::type`. -/
inductive EdgeType where
  | trivial
  | objectOffset
  | objectPtrOffset
  | function
deriving DecidableEq, Inhabited

def EdgeType.ofBits (bits : Nat) : EdgeType :=
  match bits with
  | 0 => .trivial
  | 1 => .objectOffset
  | 2 => .objectPtrOffset
  | _ => .function

structure UnwindEdge where
  targetOffset : Nat
  targetType : EdgeType
  destroyFn : Nat
  object : Nat
deriving DecidableEq, Inhabited

def UnwindEdge.read : Reader UnwindEdge := do
  let targetOffsetAndType ← readUnsigned
  let targetType := EdgeType.ofBits (targetOffsetAndType &&& 3)
  let destroyFn ← Reader.optionally (targetType ≠ .trivial) readRva
  let object ← Reader.optionally (targetType = .objectOffset ∨ targetType = .objectPtrOffset)
    readUnsigned
  return ⟨targetOffsetAndType >>> 2, targetType, destroyFn, object⟩

section Destroy

variable (run : Call → Memory → Memory) (imageBase framePtr : Nat)

/-- The first loop of `destroy_objects`: skip `n` edges, the first of which is that of state `idx`. -/
def skipEdges (mem : Memory) (finalState : Int) : Nat → Nat → Nat → Nat → Nat × Nat
  | 0, _, currentEdge, lastEdge => (currentEdge, lastEdge)
  | n + 1, idx, currentEdge, lastEdge =>
    let currentEdge := (UnwindEdge.read mem currentEdge).2
    skipEdges mem finalState n (idx + 1) currentEdge
      (if (idx : Int) = finalState then currentEdge else lastEdge)

/-- The `switch` of `destroy_objects`, with `p` behind the offset and the type. -/
def destroyObject (edgeType : EdgeType) (p : Nat) (w : World) : World :=
  match edgeType with
  | .trivial => w
  | .objectOffset =>
    let (destroyFn, p) := readRva w.mem p
    let obj := framePtr + (readUnsigned w.mem p).1
    w.call run ⟨imageBase + destroyFn, [obj]⟩
  | .objectPtrOffset =>
    let (destroyFn, p) := readRva w.mem p
    let obj := load w.mem (framePtr + (readUnsigned w.mem p).1) 8
    w.call run ⟨imageBase + destroyFn, [obj]⟩
  | .function =>
    let destroyFn := imageBase + (readRva w.mem p).1
    w.call run ⟨destroyFn, [destroyFn, framePtr]⟩

/-- The second loop of `destroy_objects`. -/
def unwindEdges (lastEdge currentEdge : Nat) (w : World) : Except BugCheckReason World :=
  let (targetOffsetAndType, unwindStruct) := readUnsigned w.mem currentEdge
  let targetOffset := targetOffsetAndType >>> 2
  if targetOffset = 0 then .error .corruptedEhUnwindData
  else
    let w := destroyObject run imageBase framePtr (.ofBits (targetOffsetAndType &&& 3)) unwindStruct w
    if currentEdge - lastEdge < targetOffset then .ok w
    else unwindEdges lastEdge (currentEdge - targetOffset) w
termination_by currentEdge
decreasing_by
  rename_i hzero hlast
  simp only [not_lt] at hlast
  omega

def destroyObjects (unwindGraphRva : Nat) (initialState finalState : Int) (w : World) :
    Except BugCheckReason World :=
  let (unwindNodeCount, unwindGraph) := readUnsigned w.mem (imageBase + unwindGraphRva)
  if initialState < 0 ∨ unwindNodeCount ≤ initialState.toNat then .error .corruptedEhUnwindData
  else
    let (currentEdge, lastEdge) :=
      skipEdges w.mem finalState initialState.toNat 0 unwindGraph unwindGraph
    let lastEdge := if initialState = finalState then currentEdge else lastEdge
    unwindEdges run imageBase framePtr lastEdge currentEdge w

end Destroy

/-! ## Scopes -/

/-- What is to be done when a state is left. -/
inductive Action where
  | none
  | object (destroyFn offset : Nat)
  | objectPtr (destroyFn offset : Nat)
  | function (destroyFn : Nat)
deriving DecidableEq

/-- A state: the state that it was entered from, where that is not the state of the whole function,
and the action. -/
structure Node where
  parent : Option Nat
  action : Action
deriving DecidableEq

def Action.perform (run : Call → Memory → Memory) (imageBase framePtr : Nat) (w : World) :
    Action → World
  | .none => w
  | .object destroyFn offset => w.call run ⟨imageBase + destroyFn, [framePtr + offset]⟩
  | .objectPtr destroyFn offset =>
    w.call run ⟨imageBase + destroyFn, [load w.mem (framePtr + offset) 8]⟩
  | .function destroyFn => w.call run ⟨imageBase + destroyFn, [imageBase + destroyFn, framePtr]⟩

def actionAt (nodes : List Node) (i : Nat) : Action := (nodes[i]?.map Node.action).getD .none

def parentAt (nodes : List Node) (i : Nat) : Option Nat := nodes[i]?.bind Node.parent

/-- The states that are left from state `i` on until `final` is reached. -/
def leave (nodes : List Node) (final : Int) (i : Nat) : List Nat :=
  if (i : Int) ≤ final then []
  else i :: match parentAt nodes i with
    | none => []
    | some j => if j < i then leave nodes final j else []

/-- The states that are left from `s` on, where `none` is the state of the whole function. -/
def leaveFrom (nodes : List Node) (final : Int) : Option Nat → List Nat
  | none => []
  | some i => leave nodes final i

/-- The states whose objects are alive in `s`, the last constructed first. -/
def alive (nodes : List Node) (s : Option Nat) : List Nat := leaveFrom nodes (-1) s

def stateNumber : Option Nat → Int
  | none => -1
  | some i => i

inductive Ancestor (nodes : List Node) (target : Option Nat) : Option Nat → Prop where
  | refl : Ancestor nodes target target
  | step {i : Nat} (h : Ancestor nodes target (parentAt nodes i)) : Ancestor nodes target (some i)

/-! ## The format -/

def Action.tag : Action → Nat
  | .none => 0
  | .object _ _ => 1
  | .objectPtr _ _ => 2
  | .function _ => 3

def Action.encode : Action → List (BitVec 8)
  | .none => []
  | .object destroyFn offset | .objectPtr destroyFn offset => encodeInt destroyFn ++ encodeUnsigned offset
  | .function destroyFn => encodeInt destroyFn

def encodeEdge (targetOffset : Nat) (action : Action) : List (BitVec 8) :=
  encodeUnsigned (targetOffset * 4 + action.tag) ++ action.encode

/-- The distance from the edge at `here` to that of the parent, or to before the first edge. -/
def distance (starts : List Nat) (here : Nat) : Option Nat → Nat
  | none => here + 1
  | some j => here - starts.getD j 0

/-- The edges behind those that start at `starts`. -/
def encodeNodes (starts : List Nat) (here : Nat) : List Node → List (BitVec 8)
  | [] => []
  | node :: nodes =>
    let edge := encodeEdge (distance starts here node.parent) node.action
    edge ++ encodeNodes (starts ++ [here]) (here + edge.length) nodes

def encodeUnwindMap (nodes : List Node) : List (BitVec 8) :=
  encodeUnsigned nodes.length ++ encodeNodes [] 0 nodes

def Action.Fits : Action → Prop
  | .none => True
  | .object destroyFn offset | .objectPtr destroyFn offset => destroyFn < 2 ^ 32 ∧ offset < 2 ^ 32
  | .function destroyFn => destroyFn < 2 ^ 32

/-- The state of the parent is a smaller one, and all numbers have a place in the format. -/
structure WellFormed (nodes : List Node) : Prop where
  count : nodes.length < 2 ^ 32
  size : (encodeNodes [] 0 nodes).length < 2 ^ 30
  parent : ∀ i j, parentAt nodes i = some j → j < i
  fits : ∀ node ∈ nodes, node.action.Fits

/-! ## What is alive -/

section Scopes

variable {nodes : List Node} {final : Int} {i : Nat} {s target : Option Nat}

theorem leave_of_lt (hparent : ∀ j, parentAt nodes i = some j → j < i) (h : final < i) :
    leave nodes final i = i :: leaveFrom nodes final (parentAt nodes i) := by
  rw [leave, if_neg (by omega)]
  cases hp : parentAt nodes i with
  | none => rfl
  | some j =>
    dsimp only
    rw [if_pos (hparent j hp)]
    rfl

theorem Ancestor.le (hparent : ∀ i j, parentAt nodes i = some j → j < i)
    (h : Ancestor nodes target s) : stateNumber target ≤ stateNumber s := by
  induction h with
  | refl => exact Int.le_refl _
  | @step i _ ih =>
    refine Int.le_trans ih ?_
    cases hp : parentAt nodes i with
    | none =>
      show (-1 : Int) ≤ i
      omega
    | some j => exact Int.ofNat_le.2 (Nat.le_of_lt (hparent i j hp))

theorem leaveFrom_self : leaveFrom nodes (stateNumber s) s = [] := by
  cases s with
  | none => rfl
  | some i =>
    rw [leaveFrom, leave]
    exact if_pos (Int.le_refl _)

/-- What is alive in a state is what is left on the way to an ancestor, and what is alive there. -/
theorem alive_eq_append (hparent : ∀ i j, parentAt nodes i = some j → j < i)
    (h : Ancestor nodes target s) :
    alive nodes s = leaveFrom nodes (stateNumber target) s ++ alive nodes target := by
  induction h with
  | refl => rw [leaveFrom_self, List.nil_append]
  | @step i h ih =>
    have hlt : stateNumber target < i := by
      refine Int.lt_of_le_of_lt (h.le hparent) ?_
      cases hp : parentAt nodes i with
      | none =>
        show (-1 : Int) < i
        omega
      | some j => exact Int.ofNat_lt.2 (hparent i j hp)
    rw [alive, leaveFrom, leave_of_lt (hparent i) (by omega), leaveFrom,
      leave_of_lt (hparent i) hlt, List.cons_append, ← ih]
    rfl

/-- The states are left in descending order, so none is left twice. -/
theorem leave_pairwise (hparent : ∀ i j, parentAt nodes i = some j → j < i) :
    (leave nodes final i).Pairwise (· > ·) ∧ ∀ j ∈ leave nodes final i, j ≤ i := by
  induction i using Nat.strongRecOn with
  | ind i ih =>
    by_cases h : (i : Int) ≤ final
    · rw [leave, if_pos h]
      exact ⟨.nil, fun j hj => absurd hj List.not_mem_nil⟩
    · rw [leave_of_lt (hparent i) (by omega)]
      cases hp : parentAt nodes i with
      | none =>
        exact ⟨List.pairwise_singleton _ _, fun j hj => Nat.le_of_eq (List.mem_singleton.1 hj)⟩
      | some k =>
        have hk := hparent i k hp
        obtain ⟨hpairwise, hle⟩ := ih k hk
        refine ⟨List.pairwise_cons.2 ⟨fun j hj => Nat.lt_of_le_of_lt (hle j hj) hk, hpairwise⟩, ?_⟩
        intro j hj
        rcases List.mem_cons.1 hj with rfl | hj
        · exact Nat.le_refl _
        · exact Nat.le_trans (hle j hj) (Nat.le_of_lt hk)

end Scopes

/-! ## Reading an edge -/

section Edges

variable {mem : Memory} {targetOffset p : Nat} {action : Action}

theorem tag_lt : action.tag < 4 := by cases action <;> simp [Action.tag]

def Action.type (action : Action) : EdgeType := .ofBits action.tag

theorem type_of_encoded : EdgeType.ofBits (targetOffset * 4 + action.tag &&& 3) = action.type := by
  have h : targetOffset * 4 + action.tag &&& 3 = action.tag := by
    rw [show (3 : Nat) = 2 ^ 2 - 1 from rfl, Nat.and_two_pow_sub_one_eq_mod]
    have := @tag_lt action
    omega
  rw [h, Action.type]

theorem offset_of_encoded : (targetOffset * 4 + action.tag) >>> 2 = targetOffset := by
  have := @tag_lt action
  rw [Nat.shiftRight_eq_div_pow]
  omega

theorem decodes_offset (ht : targetOffset < 2 ^ 30) :
    Reader.Decodes mem readUnsigned (encodeUnsigned (targetOffset * 4 + action.tag))
      (targetOffset * 4 + action.tag) :=
  decodes_readUnsigned (by
    have := @tag_lt action
    omega)

/-- Reading an edge ends behind it. -/
theorem read_snd (ht : targetOffset < 2 ^ 30) (hfits : action.Fits) (hp : 3 ≤ p)
    (h : Lies mem p (encodeEdge targetOffset action)) :
    (UnwindEdge.read mem p).2 = p + (encodeEdge targetOffset action).length := by
  obtain ⟨hoffset, haction⟩ := lies_append.1 h
  unfold UnwindEdge.read
  rw [Reader.bind_apply, decodes_offset ht p hp hoffset, Reader.bind_apply, Reader.bind_apply,
    encodeEdge, List.length_append, ← Nat.add_assoc]
  dsimp only
  rw [type_of_encoded]
  have hp' : 3 ≤ p + (encodeUnsigned (targetOffset * 4 + action.tag)).length := Nat.le_add_right_of_le hp
  generalize p + (encodeUnsigned (targetOffset * 4 + action.tag)).length = q at *
  cases action with
  | none => rfl
  | object destroyFn offset | objectPtr destroyFn offset =>
    obtain ⟨hfn, hobject⟩ := lies_append.1 haction
    simp only [Action.type, Action.tag, EdgeType.ofBits, Reader.optionally]
    simp [readRva, decodes_readInt hfits.1 q hp' hfn,
      decodes_readUnsigned hfits.2 _ (Nat.le_add_right_of_le hp') hobject, Action.encode,
      Reader.pure_apply, Nat.add_assoc]
  | function destroyFn =>
    simp only [Action.type, Action.tag, EdgeType.ofBits, Reader.optionally]
    simp [readRva, decodes_readInt hfits q hp' haction, Action.encode, Reader.pure_apply]

theorem destroyObject_eq {run : Call → Memory → Memory} {imageBase framePtr : Nat} {w : World}
    (hfits : action.Fits) (hp : 3 ≤ p) (h : Lies w.mem p action.encode) :
    destroyObject run imageBase framePtr action.type p w = action.perform run imageBase framePtr w := by
  cases action with
  | none => rfl
  | object destroyFn offset | objectPtr destroyFn offset =>
    obtain ⟨hfn, hobject⟩ := lies_append.1 h
    simp only [Action.type, Action.tag, EdgeType.ofBits, destroyObject, readRva, Action.perform,
      decodes_readInt hfits.1 p hp hfn,
      decodes_readUnsigned hfits.2 _ (Nat.le_add_right_of_le hp) hobject]
  | function destroyFn =>
    simp only [Action.type, Action.tag, EdgeType.ofBits, destroyObject, readRva, Action.perform,
      decodes_readInt hfits p hp h]

end Edges

/-! ## Where the edges lie -/

section Layout

variable {mem : Memory} {base here : Nat} {start : Nat → Nat} {starts : List Nat} {nodes : List Node}

/-- The offset of an edge at `start i` takes it to its parent's, or to before the first edge. -/
def Points (start : Nat → Nat) (i targetOffset : Nat) : Option Nat → Prop
  | none => start i - start 0 < targetOffset
  | some j => j < i ∧ targetOffset = start i - start j

/-- The edge of state `i` lies at `start i`. -/
structure Laid (mem : Memory) (nodes : List Node) (start : Nat → Nat) : Prop where
  high : 3 ≤ start 0
  edge : ∀ i node, nodes[i]? = some node → ∃ targetOffset, targetOffset < 2 ^ 30 ∧
    node.action.Fits ∧ Points start i targetOffset node.parent ∧
    Lies mem (start i) (encodeEdge targetOffset node.action) ∧
    start (i + 1) = start i + (encodeEdge targetOffset node.action).length

theorem encodeUnsigned_ne_nil (v : Nat) : 0 < (encodeUnsigned v).length := by
  unfold encodeUnsigned
  split_ifs <;> simp

theorem encodeEdge_pos (targetOffset : Nat) (action : Action) :
    0 < (encodeEdge targetOffset action).length := by
  rw [encodeEdge, List.length_append]
  exact Nat.add_pos_left (encodeUnsigned_ne_nil _) _

theorem Laid.lt_succ (h : Laid mem nodes start) {i : Nat} (hi : i < nodes.length) :
    start i < start (i + 1) := by
  obtain ⟨targetOffset, -, -, -, -, hnext⟩ := h.edge i nodes[i] (List.getElem?_eq_getElem hi)
  rw [hnext]
  exact Nat.lt_add_of_pos_right (encodeEdge_pos _ _)

theorem Laid.lt (h : Laid mem nodes start) {i j : Nat} (hij : i < j) (hj : j ≤ nodes.length) :
    start i < start j := by
  induction j with
  | zero => cases hij
  | succ j ih =>
    have hstep := h.lt_succ hj
    rcases Nat.lt_succ_iff_lt_or_eq.1 hij with hij | rfl
    · exact Nat.lt_trans (ih hij (Nat.le_of_succ_le hj)) hstep
    · exact hstep

theorem Laid.le (h : Laid mem nodes start) {i j : Nat} (hij : i ≤ j) (hj : j ≤ nodes.length) :
    start i ≤ start j := by
  rcases Nat.lt_or_eq_of_le hij with hlt | rfl
  · exact Nat.le_of_lt (h.lt hlt hj)
  · exact Nat.le_refl _

/-- The distances from the first edge to each edge, and to the end. -/
def edgeStarts (starts : List Nat) (here : Nat) : List Node → List Nat
  | [] => starts ++ [here]
  | node :: nodes =>
    let edge := encodeEdge (distance starts here node.parent) node.action
    edgeStarts (starts ++ [here]) (here + edge.length) nodes

theorem edgeStarts_getD {j : Nat} (hj : j ≤ starts.length) :
    (edgeStarts starts here nodes).getD j 0 = (starts ++ [here]).getD j 0 := by
  induction nodes generalizing starts here with
  | nil => rfl
  | cons node nodes ih =>
    rw [edgeStarts, ih (Nat.le_trans hj (by simp))]
    rw [List.getD_append _ _ _ _ (by simpa using Nat.lt_succ_of_le hj)]

theorem edgeStarts_here : (edgeStarts starts here nodes).getD starts.length 0 = here := by
  rw [edgeStarts_getD (Nat.le_refl _), List.getD_append_right _ _ _ _ (Nat.le_refl _),
    Nat.sub_self]
  rfl

theorem distance_edgeStarts {parent : Option Nat} (h : ∀ j ∈ parent, j < starts.length) :
    distance (edgeStarts starts here nodes) here parent = distance starts here parent := by
  cases parent with
  | none => rfl
  | some j =>
    have hj := h j rfl
    rw [distance, distance, edgeStarts_getD (Nat.le_of_lt hj), List.getD_append _ _ _ _ hj]

theorem distance_le {parent : Option Nat} : distance starts here parent ≤ here + 1 := by
  cases parent with
  | none => exact Nat.le_refl _
  | some j => exact Nat.le_add_right_of_le (Nat.sub_le _ _)

/-- The edges of an encoded list lie at their starts. -/
theorem lies_edge {i : Nat} {node : Node} (hlies : Lies mem (base + here) (encodeNodes starts here nodes))
    (hnode : nodes[i]? = some node) (hparent : ∀ j ∈ node.parent, j < starts.length + i) :
    let start k := (edgeStarts starts here nodes).getD k 0
    let k := starts.length + i
    let edge := encodeEdge (distance (edgeStarts starts here nodes) (start k) node.parent) node.action
    Lies mem (base + start k) edge ∧ start (k + 1) = start k + edge.length ∧
      start (k + 1) ≤ here + (encodeNodes starts here nodes).length := by
  induction nodes generalizing starts here i with
  | nil => cases hnode
  | cons first nodes ih =>
    obtain ⟨hfirst, hrest⟩ := lies_append.1 hlies
    cases i with
    | zero =>
      obtain rfl : first = node := Option.some.inj hnode
      dsimp only
      rw [Nat.add_zero, edgeStarts_here, distance_edgeStarts hparent]
      have hnext : (edgeStarts starts here (first :: nodes)).getD (starts.length + 1) 0 =
          here + (encodeEdge (distance starts here first.parent) first.action).length := by
        have := @edgeStarts_here (here + (encodeEdge (distance starts here first.parent)
          first.action).length) (starts ++ [here]) nodes
        rwa [List.length_append] at this
      refine ⟨hfirst, hnext, ?_⟩
      rw [hnext, encodeNodes, List.length_append]
      exact Nat.add_le_add_left (Nat.le_add_right _ _) _
    | succ i =>
      have hlength : (starts ++ [here]).length + i = starts.length + (i + 1) := by
        rw [List.length_append, List.length_singleton, Nat.add_assoc, Nat.add_comm 1]
      rw [Nat.add_assoc] at hrest
      have hih := @ih _ (starts ++ [here]) i hrest hnode (by rw [hlength]; exact hparent)
      rw [hlength] at hih
      refine ⟨hih.1, hih.2.1, Nat.le_trans hih.2.2 ?_⟩
      rw [encodeNodes, List.length_append, ← Nat.add_assoc]

/-- An encoded map has its edges laid out. -/
theorem laid_of_lies (hwf : WellFormed nodes) (hbase : 3 ≤ base)
    (hlies : Lies mem base (encodeNodes [] 0 nodes)) :
    Laid mem nodes fun k => base + (edgeStarts [] 0 nodes).getD k 0 := by
  have hzero : (edgeStarts [] 0 nodes).getD 0 0 = 0 := @edgeStarts_here 0 [] nodes
  refine ⟨Nat.le_add_right_of_le hbase, fun i node hnode => ?_⟩
  have hparent : ∀ j ∈ node.parent, j < i := fun j hj =>
    hwf.parent i j (by rw [parentAt, hnode]; exact hj)
  obtain ⟨hedge, hnext, hbound⟩ := @lies_edge mem base 0 [] nodes i node hlies hnode
    (by rwa [List.length_nil, Nat.zero_add])
  rw [List.length_nil, Nat.zero_add] at hedge hnext hbound
  dsimp only at hedge hnext hbound
  have hpos := encodeEdge_pos (distance (edgeStarts [] 0 nodes)
    ((edgeStarts [] 0 nodes).getD i 0) node.parent) node.action
  have hsize := hwf.size
  have hoffset : distance (edgeStarts [] 0 nodes) ((edgeStarts [] 0 nodes).getD i 0) node.parent <
      2 ^ 30 := by
    have hle := @distance_le ((edgeStarts [] 0 nodes).getD i 0) (edgeStarts [] 0 nodes) node.parent
    omega
  refine ⟨_, hoffset, hwf.fits node (List.mem_of_getElem? hnode), ?_, hedge, ?_⟩
  · cases hp : node.parent with
    | none =>
      show _ < (edgeStarts [] 0 nodes).getD i 0 + 1
      dsimp only
      omega
    | some j =>
      refine ⟨hparent j hp, ?_⟩
      show (edgeStarts [] 0 nodes).getD i 0 - (edgeStarts [] 0 nodes).getD j 0 = _
      dsimp only
      omega
  · rw [hnext, Nat.add_assoc]

end Layout

/-! ## Destroying what is alive -/

section Destroying

variable {run : Call → Memory → Memory} {imageBase framePtr : Nat} {mem : Memory} {w : World}
variable {nodes : List Node} {start : Nat → Nat} {final : Int} {i : Nat} {P : Memory → Prop}

/-- The first loop comes from the edge of state `i` to that of state `i + n`, and notes the edge
behind that of the final state. -/
theorem skipEdges_eq (h : Laid mem nodes start) {n last : Nat} (hn : i + n ≤ nodes.length) :
    skipEdges mem final n i (start i) last =
      (start (i + n),
        if (i : Int) ≤ final ∧ final < (i : Int) + n then start (final.toNat + 1) else last) := by
  induction n generalizing i last with
  | zero =>
    rw [skipEdges, if_neg (by omega)]
    rfl
  | succ n ih =>
    have hi : i < nodes.length := by omega
    obtain ⟨targetOffset, hoffset, hfits, -, hlies, hnext⟩ :=
      h.edge i nodes[i] (List.getElem?_eq_getElem hi)
    have hhigh : 3 ≤ start i := Nat.le_trans h.high (h.le (Nat.zero_le i) (Nat.le_of_lt hi))
    rw [skipEdges, read_snd hoffset hfits hhigh hlies, ← hnext, ih (by omega), Nat.add_assoc, Nat.add_comm 1 n]
    congr 1
    by_cases hfinal : (i : Int) = final
    · subst hfinal
      rw [if_pos rfl, if_neg (by omega), if_pos (by omega), Int.toNat_natCast]
    · rw [if_neg hfinal]
      by_cases hlater : (i : Int) ≤ final ∧ final < (i : Int) + (n + 1 : Nat)
      · rw [if_pos hlater, if_pos (by omega)]
      · rw [if_neg hlater, if_neg (by omega)]

theorem Action.perform_mem {action : Action} (hrun : ∀ c mem, P mem → P (run c mem)) (h : P w.mem) :
    P (action.perform run imageBase framePtr w).mem := by
  cases action with
  | none => exact h
  | object destroyFn offset | objectPtr destroyFn offset | function destroyFn => exact hrun _ _ h

/-- Undoing the states of a list. -/
def undo (run : Call → Memory → Memory) (imageBase framePtr : Nat) (nodes : List Node)
    (states : List Nat) (w : World) : World :=
  states.foldl (fun w i => (actionAt nodes i).perform run imageBase framePtr w) w

theorem undo_cons {states : List Nat} :
    undo run imageBase framePtr nodes (i :: states) w =
      undo run imageBase framePtr nodes states
        ((actionAt nodes i).perform run imageBase framePtr w) := rfl

/-- The second loop, as long as the calls leave the table alone. -/
theorem unwindEdges_eq (hrun : ∀ c mem, P mem → P (run c mem))
    (hlaid : ∀ mem, P mem → Laid mem nodes start) (hP : P w.mem)
    (hlow : -1 ≤ final) (hfinal : final < i) (hi : i < nodes.length) :
    unwindEdges run imageBase framePtr (start (final + 1).toNat) (start i) w =
      .ok (undo run imageBase framePtr nodes (leave nodes final i) w) := by
  induction i using Nat.strongRecOn generalizing w with
  | ind i ih =>
    have h := hlaid _ hP
    obtain ⟨targetOffset, hoffset, hfits, hpoints, hlies, hnext⟩ :=
      h.edge i nodes[i] (List.getElem?_eq_getElem hi)
    obtain ⟨hnumber, haction⟩ := lies_append.1 hlies
    have hhigh : 3 ≤ start i := Nat.le_trans h.high (h.le (Nat.zero_le i) (Nat.le_of_lt hi))
    have hlast : start (final + 1).toNat ≤ start i := h.le (by omega) (Nat.le_of_lt hi)
    have hact : actionAt nodes i = nodes[i].action := by
      rw [actionAt, List.getElem?_eq_getElem hi]
      rfl
    have hparent : parentAt nodes i = nodes[i].parent := by
      rw [parentAt, List.getElem?_eq_getElem hi]
      rfl
    have hpos : targetOffset ≠ 0 := by
      cases hp : nodes[i].parent with
      | none =>
        rw [hp] at hpoints
        have : start i - start 0 < targetOffset := hpoints
        omega
      | some j =>
        rw [hp] at hpoints
        have := h.lt hpoints.1 (Nat.le_of_lt hi)
        have := hpoints.2
        omega
    rw [unwindEdges, decodes_offset hoffset _ hhigh hnumber]
    dsimp only
    rw [offset_of_encoded, if_neg hpos, type_of_encoded,
      destroyObject_eq hfits (Nat.le_add_right_of_le hhigh) haction, leave,
      if_neg (show ¬(i : Int) ≤ final by omega),
      undo_cons, hact, hparent]
    cases hp : nodes[i].parent with
    | none =>
      rw [hp] at hpoints
      have hreach : start i - start 0 < targetOffset := hpoints
      have hfirst : start 0 ≤ start (final + 1).toNat := h.le (Nat.zero_le _) (by omega)
      rw [if_pos (by omega)]
      rfl
    | some j =>
      rw [hp] at hpoints
      obtain ⟨hj, hreach⟩ := hpoints
      have hlt := h.lt hj (Nat.le_of_lt hi)
      dsimp only
      rw [if_pos hj]
      by_cases hstop : (j : Int) ≤ final
      · have hnear : start j < start (final + 1).toNat := h.lt (by omega) (by omega)
        rw [if_pos (by omega), leave, if_pos hstop]
        rfl
      · have hfar : start (final + 1).toNat ≤ start j := h.le (by omega) (by omega)
        rw [if_neg (by omega), hreach, Nat.sub_sub_self (Nat.le_of_lt hlt)]
        exact ih j hj (Action.perform_mem hrun hP) (by omega) (by omega)

/-- `destroy_objects` undoes the states that are left, each before its parent. -/
theorem destroyObjects_eq {unwindGraphRva : Nat} {fixed : Nat → Prop}
    (hrun : ∀ c mem a, fixed a → run c mem a = mem a) (hbase : 3 ≤ imageBase + unwindGraphRva)
    (hlies : Lies w.mem (imageBase + unwindGraphRva) (encodeUnwindMap nodes))
    (hfixed : ∀ k < (encodeUnwindMap nodes).length, fixed (imageBase + unwindGraphRva + k))
    (hwf : WellFormed nodes) (hi : i < nodes.length) (hlow : -1 ≤ final) (hfinal : final < i) :
    destroyObjects run imageBase framePtr unwindGraphRva i final w =
      .ok (undo run imageBase framePtr nodes (leave nodes final i) w) := by
  have hcount : Reader.Decodes w.mem readUnsigned (encodeUnsigned nodes.length) nodes.length :=
    decodes_readUnsigned hwf.count
  obtain ⟨hnumber, hedges⟩ := lies_append.1 hlies
  have hhigh : 3 ≤ imageBase + unwindGraphRva + (encodeUnsigned nodes.length).length :=
    Nat.le_add_right_of_le hbase
  have hlaid : ∀ mem, (∀ a, fixed a → mem a = w.mem a) → Laid mem nodes _ := fun mem hmem =>
    laid_of_lies hwf hhigh (hedges.congr fun k hk => hmem _ (by
      rw [Nat.add_assoc]
      exact hfixed _ (by
        rw [encodeUnwindMap, List.length_append]
        exact Nat.add_lt_add_left hk _)))
  have h := hlaid w.mem fun _ _ => rfl
  have hzero : imageBase + unwindGraphRva + (encodeUnsigned nodes.length).length =
      imageBase + unwindGraphRva + (encodeUnsigned nodes.length).length +
        (edgeStarts [] 0 nodes).getD 0 0 := by
    rw [show (edgeStarts [] 0 nodes).getD 0 0 = 0 from @edgeStarts_here 0 [] nodes]
    rfl
  rw [destroyObjects, hcount _ hbase hnumber]
  dsimp only
  rw [Int.toNat_natCast, if_neg (by omega), hzero, skipEdges_eq h (by omega), Nat.zero_add]
  dsimp only
  rw [if_neg (by omega)]
  have hlast : (if ((0 : Nat) : Int) ≤ final ∧ final < ((0 : Nat) : Int) + i then
        imageBase + unwindGraphRva + (encodeUnsigned nodes.length).length +
          (edgeStarts [] 0 nodes).getD (final.toNat + 1) 0
      else imageBase + unwindGraphRva + (encodeUnsigned nodes.length).length +
        (edgeStarts [] 0 nodes).getD 0 0) =
      imageBase + unwindGraphRva + (encodeUnsigned nodes.length).length +
        (edgeStarts [] 0 nodes).getD (final + 1).toNat 0 := by
    by_cases hneg : final = -1
    · rw [if_neg (by omega), hneg]
      rfl
    · rw [if_pos (by omega), show (final + 1).toNat = final.toNat + 1 by omega]
  rw [hlast]
  exact unwindEdges_eq (P := fun mem => ∀ a, fixed a → mem a = w.mem a)
    (fun c mem hmem a ha => (hrun c mem a ha).trans (hmem a ha)) hlaid (fun _ _ => rfl) hlow hfinal hi

/-- Unwinding from a state to an ancestor destroys what is alive there and not in the ancestor, the
last constructed first and nothing twice, and reports no corrupted data. -/
theorem destroyObjects_alive {unwindGraphRva : Nat} {fixed : Nat → Prop} {target : Option Nat}
    (hrun : ∀ c mem a, fixed a → run c mem a = mem a) (hbase : 3 ≤ imageBase + unwindGraphRva)
    (hlies : Lies w.mem (imageBase + unwindGraphRva) (encodeUnwindMap nodes))
    (hfixed : ∀ k < (encodeUnwindMap nodes).length, fixed (imageBase + unwindGraphRva + k))
    (hwf : WellFormed nodes) (hi : i < nodes.length) (htarget : Ancestor nodes target (some i))
    (hne : target ≠ some i) :
    ∃ states, alive nodes (some i) = states ++ alive nodes target ∧ states.Pairwise (· > ·) ∧
      destroyObjects run imageBase framePtr unwindGraphRva i (stateNumber target) w =
        .ok (undo run imageBase framePtr nodes states w) := by
  refine ⟨leave nodes (stateNumber target) i, alive_eq_append hwf.parent htarget,
    (leave_pairwise hwf.parent).1, ?_⟩
  have hlt : stateNumber target < i := by
    have hle := htarget.le hwf.parent
    refine Int.lt_iff_le_and_ne.2 ⟨hle, fun heq => hne ?_⟩
    cases target with
    | none =>
      have : (-1 : Int) = i := heq
      omega
    | some j => exact congrArg some (Int.ofNat_inj.1 heq)
  refine destroyObjects_eq hrun hbase hlies hfixed hwf hi ?_ hlt
  cases target with
  | none => exact Int.le_refl _
  | some j =>
    show (-1 : Int) ≤ j
    omega

/-- Two nested scopes of a function, the inner one with a cleanup function. -/
def nestedScopes : List Node := [⟨none, .object 16 8⟩, ⟨some 0, .function 32⟩]

theorem nestedScopes_wellFormed : WellFormed nestedScopes where
  count := by decide
  size := by decide
  parent := by
    intro i j h
    match i with
    | 0 => cases h
    | 1 => cases h; decide
    | i + 2 => cases h
  fits := by
    intro node hnode
    rcases List.mem_cons.1 hnode with rfl | hnode
    · exact ⟨by decide, by decide⟩
    · rw [List.mem_singleton.1 hnode]
      show (32 : Nat) < 2 ^ 32
      decide

theorem destroyObjects_alive_nestedScopes :
    ∃ states, alive nestedScopes (some 1) = states ++ alive nestedScopes (some 0) ∧
      states.Pairwise (· > ·) ∧
      destroyObjects (fun _ mem => mem) 16 64 0 (1 : Nat) (stateNumber (some 0))
          ⟨.holding 16 (encodeUnwindMap nestedScopes), []⟩ =
        .ok (undo (fun _ mem => mem) 16 64 nestedScopes states
          ⟨.holding 16 (encodeUnwindMap nestedScopes), []⟩) :=
  @destroyObjects_alive (fun _ mem => mem) 16 64
    ⟨.holding 16 (encodeUnwindMap nestedScopes), []⟩ nestedScopes 1 0 (fun _ => True) (some 0)
    (fun _ _ _ _ => rfl) (show 3 ≤ 16 by decide) lies_holding (fun _ _ => trivial) nestedScopes_wellFormed
    (by decide) (.step .refl) (by decide)

end Destroying

end WinShell.Exceptions
