import Mathlib.Data.List.Sort
import Mathlib.Logic.Function.Iterate
import RefactorAudit.Proofs.Syntax.Flatten

/-!
# Walking through a tree

The nodes of a concrete tree can be listed by a loop over a stack. Each turn gives the
next handle to the last node of the stack and puts its children there. A second pass
over the list then puts every handle into the list of its parent's children. A turn
does not change what the walk will come to (`Walk.outcome_turn`) and leaves one node
less to visit (`Walk.work_turn`), and the second pass finds for every node the children
that it has in the tree (`Walk.childLists_eq`). So the two passes build the flattened
tree (`Concrete.walk_builds_flattened`).
-/

namespace RefactorAudit

/-- A concrete node, and the handle of its parent. -/
abbrev Visit := Concrete × Option Nat

/-- The nodes that have their handles, and the nodes to visit, the next one at the end. -/
structure Walk where
  order : List Visit
  stack : List Visit

namespace Walk

def start (c : Concrete) : Walk := ⟨[], [(c, none)]⟩

/-- One turn takes the last node from the stack and gives it the next handle. Its
children go to the stack, the first one last. -/
def turn (w : Walk) : Walk :=
  match w.stack.getLast? with
  | none => w
  | some v =>
    ⟨w.order ++ [v], w.stack.dropLast ++ v.1.children.reverse.map fun d => (d, some w.order.length)⟩

/-- Puts a handle at the end of the list of its parent's children. -/
def adopt (children : List (List Nat)) (entry : Option Nat × Nat) : List (List Nat) :=
  match entry.1 with
  | none => children
  | some parent => children.modify parent (· ++ [entry.2])

/-- The children of every node, found by the parents of all nodes. -/
def childLists (parents : List (Option Nat)) : List (List Nat) :=
  parents.zipIdx.foldl adopt (parents.map fun _ => [])

/-- The node of a visit, with its handle and the lists of all children. -/
def nodeOf (metadata : Concrete → Metadata) (children : List (List Nat)) (v : Visit) (h : Nat) : Node where
  handle := h
  kind := v.1.kind
  text := v.1.text
  span := v.1.span
  metadata := metadata v.1
  parent := v.2
  children := children.getD h []

/-- The nodes of a walk that has ended. -/
def nodes (metadata : Concrete → Metadata) (w : Walk) : List Node :=
  w.order.zipIdx.map fun p => nodeOf metadata (childLists (w.order.map Prod.snd)) p.1 p.2

/-! ## The first pass -/

theorem turn_concat (order rest : List Visit) (v : Visit) :
    turn ⟨order, rest ++ [v]⟩ = ⟨order ++ [v], rest ++ v.1.children.reverse.map fun d => (d, some order.length)⟩ := by
  simp [turn]

theorem turn_of_stack_eq_nil {w : Walk} (h : w.stack = []) : w.turn = w := by
  rw [turn, h]
  rfl

/-- A walk has ended, or there is a node to visit next. -/
theorem cases_stack (w : Walk) : w.stack = [] ∨ ∃ order rest v, w = ⟨order, rest ++ [v]⟩ := by
  obtain ⟨order, stack⟩ := w
  rcases List.eq_nil_or_concat stack with rfl | ⟨rest, v, rfl⟩
  · exact .inl rfl
  · exact .inr ⟨order, rest, v, by rw [List.concat_eq_append]⟩

/-- How many nodes are to be visited, those below the stack included. -/
def work (w : Walk) : Nat := Concrete.sizeAll (w.stack.map Prod.fst)

theorem work_eq_zero_iff {w : Walk} : w.work = 0 ↔ w.stack = [] := by
  obtain ⟨order, stack⟩ := w
  cases stack with
  | nil => simp [work, Concrete.sizeAll]
  | cons v rest =>
    have hpos := v.1.size_pos
    simp only [work, List.map_cons, Concrete.sizeAll, reduceCtorEq, iff_false]
    omega

theorem work_turn (w : Walk) : w.turn.work = w.work - 1 := by
  rcases w.cases_stack with hended | ⟨order, rest, v, rfl⟩
  · rw [turn_of_stack_eq_nil hended, work_eq_zero_iff.2 hended]
  · have hchildren : (v.1.children.reverse.map fun d => (d, some order.length)).map Prod.fst = v.1.children.reverse := by
      rw [List.map_map]
      exact List.map_id _
    rw [turn_concat, work, work, List.map_append, List.map_append, hchildren, Concrete.sizeAll_append,
      Concrete.sizeAll_append, Concrete.sizeAll_reverse]
    simp only [List.map_cons, List.map_nil, Concrete.sizeAll, Concrete.size_eq v.1]
    omega

theorem work_iterate_turn (w : Walk) (turns : Nat) : (turn^[turns] w).work = w.work - turns := by
  induction turns with
  | zero => rfl
  | succ turns ih =>
    rw [Function.iterate_succ_apply', work_turn, ih]
    omega

section Outcome

variable (metadata : Concrete → Metadata)

/-- The nodes of the trees on a stack, the next one first, numbered from `h`. -/
def pending (h : Nat) : List Visit → List Node
  | [] => []
  | v :: rest => Concrete.nodesFrom metadata h v.2 v.1 ++ pending (h + v.1.size) rest

theorem pending_children (h parent : Nat) (cs : List Concrete) (rest : List Visit) :
    pending metadata h (cs.map (fun d => (d, some parent)) ++ rest) =
      Concrete.nodesOfAll metadata h parent cs ++ pending metadata (h + Concrete.sizeAll cs) rest := by
  induction cs generalizing h with
  | nil => rfl
  | cons c cs ih =>
    rw [List.map_cons, List.cons_append, pending, ih, Concrete.nodesOfAll, Concrete.sizeAll, List.append_assoc,
      Nat.add_assoc]

/-- All that is known of a node when it is visited. -/
def visitRecord (v : Visit) : (String × String × Span × Metadata) × Option Nat := (v.1.content metadata, v.2)

/-- What the walk comes to: the nodes that have their handles, and those that are to
be visited. -/
def outcome (w : Walk) : List ((String × String × Span × Metadata) × Option Nat) :=
  w.order.map (visitRecord metadata) ++
    (pending metadata w.order.length w.stack.reverse).map fun n => (n.content, n.parent)

theorem outcome_turn (w : Walk) : w.turn.outcome metadata = w.outcome metadata := by
  rcases w.cases_stack with hended | ⟨order, rest, v, rfl⟩
  · rw [turn_of_stack_eq_nil hended]
  · -- pushed in reverse order, the children are visited in their own one
    have hstack : (rest ++ v.1.children.reverse.map fun d => (d, some order.length)).reverse =
        (v.1.children.map fun d => (d, some order.length)) ++ rest.reverse := by
      rw [List.reverse_append, ← List.map_reverse, List.reverse_reverse]
    have hnext : pending metadata order.length (rest ++ [v]).reverse =
        Concrete.headNode metadata order.length v.2 v.1 ::
          pending metadata (order.length + 1) ((v.1.children.map fun d => (d, some order.length)) ++ rest.reverse) := by
      rw [List.reverse_concat', pending, Concrete.nodesFrom_eq, pending_children, List.cons_append, Concrete.size_eq,
        Nat.add_assoc, Nat.add_comm 1]
    rw [turn_concat, outcome, outcome, hstack, hnext, List.length_append, List.map_append, List.append_assoc]
    rfl

theorem outcome_iterate_turn (w : Walk) (turns : Nat) : (turn^[turns] w).outcome metadata = w.outcome metadata := by
  induction turns with
  | zero => rfl
  | succ turns ih => rw [Function.iterate_succ_apply', outcome_turn, ih]

end Outcome

theorem work_start (c : Concrete) : (start c).work = c.size := by
  simp [start, work, Concrete.sizeAll]

/-- The walk through a tree takes as many turns as there are nodes. -/
theorem stack_iterate_turn (c : Concrete) (turns : Nat) : (turn^[turns] (start c)).stack = [] ↔ c.size ≤ turns := by
  rw [← work_eq_zero_iff, work_iterate_turn, work_start]
  omega

/-- The nodes get their handles in pre-order. -/
theorem order_iterate_turn (metadata : Concrete → Metadata) (c : Concrete) :
    (turn^[c.size] (start c)).order.map (visitRecord metadata) =
      (Concrete.nodesFrom metadata 0 none c).map fun n => (n.content, n.parent) := by
  have houtcome := outcome_iterate_turn metadata (start c) c.size
  have hended := (stack_iterate_turn c c.size).2 (Nat.le_refl _)
  rw [outcome, hended] at houtcome
  simpa [outcome, start, pending] using houtcome

/-! ## The second pass -/

/-- Each entry adds its handle to one list, behind what is there. -/
theorem getElem?_foldl_adopt (entries : List (Option Nat × Nat)) (children : List (List Nat)) (h : Nat) :
    (entries.foldl adopt children)[h]? =
      children[h]?.map (· ++ (entries.filter fun e => e.1 = some h).map Prod.snd) := by
  induction entries generalizing children with
  | nil => simp
  | cons e rest ih =>
    obtain ⟨parent, i⟩ := e
    rw [List.foldl_cons, ih, List.filter_cons]
    cases parent with
    | none => rfl
    | some p =>
      rw [adopt, List.getElem?_modify]
      by_cases hp : p = h
      · simp [hp, Function.comp_def]
      · simp [hp]

/-- The children of a node are the nodes that name it as their parent, in their order. -/
theorem childLists_eq {parents : List (Option Nat)} {h : Nat} (hlt : h < parents.length) {children : List Nat}
    (hsorted : children.Pairwise (· < ·)) (hmem : ∀ i, i ∈ children ↔ parents[i]? = some (some h)) :
    (childLists parents).getD h [] = children := by
  have hlists : (childLists parents)[h]? = some ((parents.zipIdx.filter fun e => e.1 = some h).map Prod.snd) := by
    rw [childLists, getElem?_foldl_adopt, List.getElem?_map, List.getElem?_eq_getElem hlt]
    rfl
  have hordered : (parents.zipIdx.map Prod.snd).Pairwise (· < ·) := by
    rw [List.zipIdx_map_snd]
    exact List.pairwise_lt_range'
  rw [List.getD_eq_getElem?_getD, hlists, Option.getD_some]
  refine List.Pairwise.eq_of_mem_iff (hordered.sublist (List.filter_sublist.map _)) hsorted fun i => ?_
  rw [hmem, List.mem_map]
  constructor
  · rintro ⟨⟨parent, j⟩, hentry, rfl⟩
    obtain ⟨hplace, hparent⟩ := List.mem_filter.1 hentry
    rw [List.mk_mem_zipIdx_iff_getElem?] at hplace
    exact hplace.trans (congrArg some (of_decide_eq_true hparent))
  · intro hi
    exact ⟨(some h, i), List.mem_filter.2 ⟨List.mk_mem_zipIdx_iff_getElem?.2 hi, by simp⟩, rfl⟩

/-- A node is told by what is known of it, its handle and its children. -/
theorem nodeOf_eq {metadata : Concrete → Metadata} {children : List (List Nat)} {v : Visit} {n : Node}
    (hrecord : visitRecord metadata v = (n.content, n.parent)) (hchildren : children.getD n.handle [] = n.children) :
    nodeOf metadata children v n.handle = n := by
  obtain ⟨c, parent⟩ := v
  obtain ⟨handle, kind, text, span, m, parent', children'⟩ := n
  simp only [visitRecord, Concrete.content, Node.content, Prod.mk.injEq] at hrecord hchildren
  obtain ⟨⟨rfl, rfl, rfl, rfl⟩, rfl⟩ := hrecord
  rw [nodeOf, hchildren]

end Walk

theorem SyntaxTree.hasParent_iff {t : SyntaxTree} {i h : Nat} :
    t.HasParent i h ↔ (t.nodes.map Node.parent)[i]? = some (some h) := by
  rw [List.getElem?_map, Option.map_eq_some_iff]
  exact Iff.rfl

namespace Concrete

/-- What the passes build is the list of nodes of the tree. -/
theorem nodes_iterate_turn (language : Language) (source : String) (c : Concrete) :
    (Walk.turn^[c.size] (.start c)).nodes language.metadata = (c.toTree language source).nodes := by
  have hflat := flattens_toTree language source c
  have horder : (Walk.turn^[c.size] (.start c)).order.map (Walk.visitRecord language.metadata) =
      (c.toTree language source).nodes.map fun n => (n.content, n.parent) := Walk.order_iterate_turn language.metadata c
  generalize Walk.turn^[c.size] (.start c) = w at horder ⊢
  generalize c.toTree language source = t at hflat horder ⊢
  have hparents : w.order.map Prod.snd = t.nodes.map Node.parent := by
    have := congrArg (List.map Prod.snd) horder
    simpa [Walk.visitRecord, Function.comp_def] using this
  refine List.ext_getElem? fun h => ?_
  have hplace := congrArg (·[h]?) horder
  simp only [List.getElem?_map] at hplace
  rw [Walk.nodes, List.getElem?_map, List.getElem?_zipIdx, Nat.zero_add, hparents]
  cases hn : t.nodes[h]? with
  | none =>
    rw [hn, Option.map_none, Option.map_eq_none_iff] at hplace
    rw [hplace]
    rfl
  | some n =>
    rw [hn, Option.map_some, Option.map_eq_some_iff] at hplace
    obtain ⟨v, hv, hrecord⟩ := hplace
    obtain rfl := hflat.handle h n hn
    have hchildren : (Walk.childLists (t.nodes.map Node.parent)).getD n.handle [] = n.children := by
      have hmem : n ∈ t.nodes := List.mem_of_getElem? hn
      refine Walk.childLists_eq ?_ (hflat.children_sorted n hmem) fun i => ?_
      · rw [List.length_map]
        exact SyntaxTree.handle_lt_size hmem
      · rw [hflat.mem_children_iff n hmem, SyntaxTree.hasParent_iff]
    rw [hv]
    exact congrArg some (Walk.nodeOf_eq hrecord hchildren)

/-- A walk over a stack through a concrete tree of any language ends after as many turns
as there are nodes. The list that it has then made, with the children of each node found
in a second pass, is the list of nodes of the syntax tree. It keeps the concrete tree
whole: its nodes are the concrete nodes in pre-order, and following the children from
the root gives kinds, texts and places back in their order. -/
theorem walk_builds_flattened (language : Language) (source : String) (c : Concrete) :
    (∀ turns, (Walk.turn^[turns] (.start c)).stack = [] ↔ c.size ≤ turns) ∧
    (Walk.turn^[c.size] (.start c)).nodes language.metadata = (c.toTree language source).nodes ∧
    (c.toTree language source).Flattens language.metadata c :=
  ⟨Walk.stack_iterate_turn c, nodes_iterate_turn language source c, flattens_toTree language source c⟩

end Concrete

end RefactorAudit
