import Mathlib.Logic.Relation
import RefactorAudit.Proofs.Syntax.Tree
import RefactorAudit.Syntax.Flatten

/-!
# Flattening loses nothing

A concrete tree becomes a list of nodes that name their parents and children by
handle. `StandsAt` says that a subtree is a block of that list. Blocks nest as
subtrees do: a handle inside a block is its first, or it is the child of an earlier
handle of the block (`StandsAt.exists_subtree`). So the handles below a node are the
rest of its block (`below_iff`), and following the handles of children from the root
gives the concrete tree back (`StandsAt.outline?`). `SyntaxTree.Flattens` holds all of
this together.
-/

namespace RefactorAudit

/-! ## Following handles -/

/-- A tree of kinds, texts and places. -/
inductive Outline where
  | node (kind text : String) (span : Span) (children : List Outline)

namespace SyntaxTree

/-- The outline of what the lists of children lead to from a handle, if it is no
deeper than `depth`. -/
def outline? (t : SyntaxTree) : Nat → Nat → Option Outline
  | 0, _ => none
  | depth + 1, h => do
    let n ← t.node? h
    return .node n.kind n.text n.span (← n.children.mapM (t.outline? depth))

theorem outline?_of_node? {t : SyntaxTree} {n : Node} {h depth : Nat} (hn : t.node? h = some n) :
    t.outline? (depth + 1) h = (n.children.mapM (t.outline? depth)).map (Outline.node n.kind n.text n.span) := by
  rw [outline?, hn]
  exact (Option.map_eq_bind).symm

/-- The node at handle `i` names `h` as its parent. -/
def HasParent (t : SyntaxTree) (i h : Nat) : Prop := ∃ n, t.node? i = some n ∧ n.parent = some h

/-- `i` is `h`, or the way from parent to parent leads from `i` to `h`. -/
def Below (t : SyntaxTree) : Nat → Nat → Prop := Relation.ReflTransGen t.HasParent

end SyntaxTree

/-- What a node says, apart from where it stands in the tree. -/
def Node.content (n : Node) : String × String × Span × Metadata := (n.kind, n.text, n.span, n.metadata)

namespace Concrete

/-! ## Pre-order -/

mutual

/-- The nodes of the tree, each with all that is below it, in depth-first pre-order. -/
def subtrees : Concrete → List Concrete
  | ⟨kind, text, span, named, missing, hasError, field, children⟩ =>
    ⟨kind, text, span, named, missing, hasError, field, children⟩ :: subtreesOfAll children

def subtreesOfAll : List Concrete → List Concrete
  | [] => []
  | c :: rest => subtrees c ++ subtreesOfAll rest

end

mutual

/-- Kinds, texts and places of the tree. -/
def outline : Concrete → Outline
  | ⟨kind, text, span, _, _, _, _, children⟩ => .node kind text span (outlines children)

def outlines : List Concrete → List Outline
  | [] => []
  | c :: rest => outline c :: outlines rest

end

theorem size_eq (c : Concrete) : c.size = sizeAll c.children + 1 := by
  cases c
  rw [size]

theorem sizeAll_append (cs ds : List Concrete) : sizeAll (cs ++ ds) = sizeAll cs + sizeAll ds := by
  induction cs with
  | nil => simp [sizeAll]
  | cons c rest ih =>
    rw [List.cons_append, sizeAll, sizeAll, ih]
    omega

theorem sizeAll_reverse (cs : List Concrete) : sizeAll cs.reverse = sizeAll cs := by
  induction cs with
  | nil => rfl
  | cons c rest ih =>
    rw [List.reverse_cons, sizeAll_append, ih, sizeAll, sizeAll, sizeAll]
    omega

mutual

theorem length_subtrees (c : Concrete) : c.subtrees.length = c.size := by
  cases c with
  | mk kind text span named missing hasError field children =>
    rw [subtrees, size, List.length_cons, length_subtreesOfAll children]

theorem length_subtreesOfAll (cs : List Concrete) : (subtreesOfAll cs).length = sizeAll cs := by
  cases cs with
  | nil => rfl
  | cons c rest => rw [subtreesOfAll, sizeAll, List.length_append, length_subtrees c, length_subtreesOfAll rest]

end

variable (metadata : Concrete → Metadata)

/-- The node of the tree's root. -/
def headNode (h : Nat) (parent : Option Nat) (c : Concrete) : Node where
  handle := h
  kind := c.kind
  text := c.text
  span := c.span
  metadata := metadata c
  parent := parent
  children := handlesFrom (h + 1) c.children

theorem nodesFrom_eq (h : Nat) (parent : Option Nat) (c : Concrete) :
    nodesFrom metadata h parent c = headNode metadata h parent c :: nodesOfAll metadata (h + 1) h c.children := by
  cases c
  rw [nodesFrom]
  rfl

/-- What the node of the tree's root says. -/
def content (c : Concrete) : String × String × Span × Metadata := (c.kind, c.text, c.span, metadata c)

mutual

theorem map_content_nodesFrom (h : Nat) (parent : Option Nat) (c : Concrete) :
    (nodesFrom metadata h parent c).map Node.content = c.subtrees.map (content metadata) := by
  cases c with
  | mk kind text span named missing hasError field children =>
    rw [nodesFrom, subtrees, List.map_cons, List.map_cons, map_content_nodesOfAll (h + 1) h children]
    rfl

theorem map_content_nodesOfAll (h parent : Nat) (cs : List Concrete) :
    (nodesOfAll metadata h parent cs).map Node.content = (subtreesOfAll cs).map (content metadata) := by
  cases cs with
  | nil => rfl
  | cons c rest =>
    rw [nodesOfAll, subtreesOfAll, List.map_append, List.map_append, map_content_nodesFrom h (some parent) c,
      map_content_nodesOfAll (h + c.size) parent rest]

end

/-! ## Blocks -/

/-- The nodes of the tree are a block of the list, with the handles from `h` on. -/
def StandsAt (nodes : List Node) (h : Nat) (parent : Option Nat) (c : Concrete) : Prop :=
  nodesFrom metadata h parent c <+: nodes.drop h

/-- The nodes of siblings are a block of the list. -/
def AllStandAt (nodes : List Node) (h parent : Nat) (cs : List Concrete) : Prop :=
  nodesOfAll metadata h parent cs <+: nodes.drop h

variable {metadata} {nodes : List Node} {h i p : Nat} {parent : Option Nat} {c : Concrete} {cs rest : List Concrete}

theorem prefix_drop_of_append {xs ys : List Node} (hblock : xs ++ ys <+: nodes.drop h) :
    xs <+: nodes.drop h ∧ ys <+: nodes.drop (h + xs.length) := by
  refine ⟨(List.prefix_append xs ys).trans hblock, ?_⟩
  obtain ⟨after, hafter⟩ := hblock
  refine ⟨after, ?_⟩
  rw [← List.drop_drop, ← hafter, List.append_assoc, List.drop_left]

theorem StandsAt.head (hs : StandsAt metadata nodes h parent c) : nodes[h]? = some (headNode metadata h parent c) := by
  obtain ⟨after, hafter⟩ := hs
  rw [nodesFrom_eq] at hafter
  rw [← List.head?_drop, ← hafter]
  rfl

theorem StandsAt.children (hs : StandsAt metadata nodes h parent c) : AllStandAt metadata nodes (h + 1) h c.children := by
  unfold StandsAt at hs
  rw [nodesFrom_eq, ← List.singleton_append] at hs
  exact (prefix_drop_of_append hs).2

theorem AllStandAt.first (hs : AllStandAt metadata nodes h p (c :: rest)) : StandsAt metadata nodes h (some p) c := by
  unfold AllStandAt at hs
  rw [nodesOfAll] at hs
  exact (prefix_drop_of_append hs).1

theorem AllStandAt.others (hs : AllStandAt metadata nodes h p (c :: rest)) :
    AllStandAt metadata nodes (h + c.size) p rest := by
  unfold AllStandAt at hs
  rw [nodesOfAll] at hs
  have hothers := (prefix_drop_of_append hs).2
  rwa [length_nodesFrom] at hothers

/-- The handle of a sibling is the first of its block. -/
theorem AllStandAt.exists_of_mem (hs : AllStandAt metadata nodes h p cs) (hi : i ∈ handlesFrom h cs) :
    ∃ e, StandsAt metadata nodes i (some p) e ∧ h ≤ i ∧ i + e.size ≤ h + sizeAll cs := by
  induction cs generalizing h with
  | nil => simp [handlesFrom] at hi
  | cons c rest ih =>
    rw [handlesFrom] at hi
    rw [sizeAll]
    rcases List.mem_cons.1 hi with rfl | hi
    · exact ⟨c, hs.first, Nat.le_refl _, by omega⟩
    · obtain ⟨e, he, hle, hend⟩ := ih hs.others hi
      exact ⟨e, he, by omega, by omega⟩

theorem le_of_mem_handlesFrom (hi : i ∈ handlesFrom h cs) : h ≤ i := by
  induction cs generalizing h with
  | nil => simp [handlesFrom] at hi
  | cons c rest ih =>
    rw [handlesFrom] at hi
    rcases List.mem_cons.1 hi with rfl | hi
    · exact Nat.le_refl _
    · exact Nat.le_trans (Nat.le_add_right _ _) (ih hi)

theorem pairwise_handlesFrom (h : Nat) (cs : List Concrete) : (handlesFrom h cs).Pairwise (· < ·) := by
  induction cs generalizing h with
  | nil => exact .nil
  | cons c rest ih =>
    rw [handlesFrom]
    refine .cons (fun i hi => ?_) (ih _)
    have hle := le_of_mem_handlesFrom hi
    have hpos := c.size_pos
    omega

/-- The node at handle `i`, which names this parent, is a child of an earlier node,
at handle `h` or behind it. -/
def ChildFrom (nodes : List Node) (h i : Nat) (parent : Option Nat) : Prop :=
  ∃ j n, h ≤ j ∧ j < i ∧ parent = some j ∧ nodes[j]? = some n ∧ i ∈ n.children

theorem ChildFrom.mono {h' : Nat} (hc : ChildFrom nodes h i parent) (hle : h' ≤ h) : ChildFrom nodes h' i parent := by
  obtain ⟨j, n, hj, hrest⟩ := hc
  exact ⟨j, n, Nat.le_trans hle hj, hrest⟩

-- The induction follows the tree. A block of siblings is preceded by their parent, so
-- its handles are children of that node or of a node of the block.
mutual

/-- Each handle of a block begins the block of a subtree. -/
theorem StandsAt.exists_subtree (c : Concrete) {h : Nat} {parent : Option Nat} (hs : StandsAt metadata nodes h parent c) {k : Nat}
    (hk : k < c.size) :
    ∃ q e, StandsAt metadata nodes (h + k) q e ∧ c.subtrees[k]? = some e ∧ k + e.size ≤ c.size ∧
      (k = 0 ∧ q = parent ∨ ChildFrom nodes h (h + k) q) := by
  cases c with
  | mk kind text span named missing hasError field children =>
    rw [subtrees]
    cases k with
    | zero => exact ⟨parent, _, hs, rfl, by omega, .inl ⟨rfl, rfl⟩⟩
    | succ k =>
      rw [size] at hk ⊢
      obtain ⟨q, e, he, hsub, hend, hplace⟩ := AllStandAt.exists_subtree children hs.children (k := k) (by omega)
      rw [show h + 1 + k = h + (k + 1) by omega] at he hplace
      refine ⟨q, e, he, hsub, by omega, .inr ?_⟩
      rcases hplace with ⟨rfl, hmem⟩ | hchild
      · exact ⟨h, _, Nat.le_refl _, by omega, rfl, hs.head, hmem⟩
      · exact hchild.mono (Nat.le_succ _)

theorem AllStandAt.exists_subtree (cs : List Concrete) {h p : Nat} (hs : AllStandAt metadata nodes h p cs) {k : Nat}
    (hk : k < sizeAll cs) :
    ∃ q e, StandsAt metadata nodes (h + k) q e ∧ (subtreesOfAll cs)[k]? = some e ∧ k + e.size ≤ sizeAll cs ∧
      (q = some p ∧ h + k ∈ handlesFrom h cs ∨ ChildFrom nodes h (h + k) q) := by
  cases cs with
  | nil => simp [sizeAll] at hk
  | cons c rest =>
    rw [sizeAll] at hk ⊢
    rw [subtreesOfAll, handlesFrom]
    rcases Nat.lt_or_ge k c.size with hlt | hge
    · obtain ⟨q, e, he, hsub, hend, hplace⟩ := StandsAt.exists_subtree c hs.first hlt
      refine ⟨q, e, he, ?_, by omega, ?_⟩
      · rw [List.getElem?_append_left (by rwa [length_subtrees])]
        exact hsub
      · rcases hplace with ⟨rfl, rfl⟩ | hchild
        · exact .inl ⟨rfl, List.mem_cons_self⟩
        · exact .inr hchild
    · obtain ⟨q, e, he, hsub, hend, hplace⟩ := AllStandAt.exists_subtree rest hs.others (k := k - c.size) (by omega)
      rw [show h + c.size + (k - c.size) = h + k by omega] at he hplace
      refine ⟨q, e, he, ?_, by omega, ?_⟩
      · rw [List.getElem?_append_right (by rwa [length_subtrees]), length_subtrees]
        exact hsub
      · rcases hplace with ⟨rfl, hmem⟩ | hchild
        · exact .inl ⟨rfl, List.mem_cons_of_mem _ hmem⟩
        · exact .inr (hchild.mono (Nat.le_add_right _ _))

end

/-! ## Reading the tree back -/

mutual

/-- The children of a block's first node lead through the whole block. -/
theorem StandsAt.outline? {t : SyntaxTree} (c : Concrete) {h depth : Nat} {parent : Option Nat}
    (hs : StandsAt metadata t.nodes h parent c) (hdepth : c.size ≤ depth) : t.outline? depth h = some c.outline := by
  cases c with
  | mk kind text span named missing hasError field children =>
    rw [size] at hdepth
    cases depth with
    | zero => omega
    | succ depth =>
      have hchildren : (handlesFrom (h + 1) children).mapM (t.outline? depth) = some (outlines children) :=
        AllStandAt.mapM_outline? children hs.children (by omega)
      rw [SyntaxTree.outline?_of_node? hs.head, outline]
      exact congrArg (Option.map _) hchildren

theorem AllStandAt.mapM_outline? {t : SyntaxTree} (cs : List Concrete) {h p depth : Nat}
    (hs : AllStandAt metadata t.nodes h p cs) (hdepth : sizeAll cs ≤ depth) :
    (handlesFrom h cs).mapM (t.outline? depth) = some (outlines cs) := by
  cases cs with
  | nil => rfl
  | cons c rest =>
    rw [sizeAll] at hdepth
    have hfirst : t.outline? depth h = some c.outline := StandsAt.outline? c hs.first (by omega)
    have hothers : (handlesFrom (h + c.size) rest).mapM (t.outline? depth) = some (outlines rest) :=
      AllStandAt.mapM_outline? rest hs.others (by omega)
    rw [handlesFrom, List.mapM_cons, hfirst, hothers, outlines]
    rfl

end

/-! ## The flattened tree -/

section Tree

variable {language : Language} {source : String} {n : Node} {d : Concrete}

theorem standsAt_root (language : Language) (source : String) (c : Concrete) :
    StandsAt language.metadata (c.toTree language source).nodes 0 none c := by
  rw [StandsAt, List.drop_zero]
  exact List.prefix_rfl

theorem size_toTree (language : Language) (source : String) (c : Concrete) : (c.toTree language source).size = c.size :=
  length_nodesFrom language.metadata 0 none c

/-- Each node begins the block of the subtree that has its place in pre-order. -/
theorem exists_block (hn : (c.toTree language source).node? h = some n) :
    ∃ q e, StandsAt language.metadata (c.toTree language source).nodes h q e ∧ c.subtrees[h]? = some e ∧
      n = headNode language.metadata h q e ∧
      (h = 0 ∧ q = none ∨ ChildFrom (c.toTree language source).nodes 0 h q) := by
  have hlt : h < c.size := by
    rw [← size_toTree language source c]
    exact (List.getElem?_eq_some_iff.1 hn).1
  obtain ⟨q, e, he, hsub, -, hplace⟩ := (standsAt_root language source c).exists_subtree c hlt
  rw [Nat.zero_add] at he hplace
  exact ⟨q, e, he, hsub, Option.some.inj (hn.symm.trans he.head), hplace⟩

/-- The root has no parent, and the parent of any other node is before it. -/
theorem parent_cases (hn : n ∈ (c.toTree language source).nodes) :
    n.handle = 0 ∧ n.parent = none ∨ ∃ p, n.parent = some p ∧ p < n.handle := by
  obtain ⟨q, e, -, -, heq, ⟨hzero, rfl⟩ | ⟨p, -, -, hlt, rfl, -⟩⟩ := exists_block (SyntaxTree.node?_handle hn)
  · exact .inl ⟨hzero, congrArg Node.parent heq⟩
  · exact .inr ⟨p, congrArg Node.parent heq, hlt⟩

theorem mem_children_iff (hn : (c.toTree language source).node? h = some n) :
    i ∈ n.children ↔ (c.toTree language source).HasParent i h := by
  obtain ⟨q, e, he, -, rfl, -⟩ := exists_block hn
  constructor
  · intro hi
    obtain ⟨f, hf, -⟩ := he.children.exists_of_mem hi
    exact ⟨_, hf.head, rfl⟩
  · rintro ⟨m, hm, hparent⟩
    obtain ⟨_, _, -, -, rfl, ⟨-, rfl⟩ | ⟨j, n', -, -, rfl, hn', hi⟩⟩ := exists_block hm
    · exact nomatch hparent
    · obtain rfl := Option.some.inj hparent
      rwa [← Option.some.inj (hn'.symm.trans hn)]

/-- The handles of a subtree are those from its root on, as many as it has nodes. -/
theorem below_iff (hd : c.subtrees[h]? = some d) :
    (c.toTree language source).Below i h ↔ h ≤ i ∧ i < h + d.size := by
  have hlt : h < c.size := by
    rw [← length_subtrees c]
    exact (List.getElem?_eq_some_iff.1 hd).1
  obtain ⟨q, e, hs, hsub, -⟩ := (standsAt_root language source c).exists_subtree c hlt
  rw [Nat.zero_add] at hs
  obtain rfl := Option.some.inj (hsub.symm.trans hd)
  constructor
  · intro hbelow
    induction hbelow using Relation.ReflTransGen.head_induction_on with
    | refl => exact ⟨Nat.le_refl _, Nat.lt_add_of_pos_right e.size_pos⟩
    | @head i j hparent _ ih =>
      -- the block of `j` is part of the block of `h`, and `i` is part of the block of `j`
      obtain ⟨q', f, hf, -, hend, -⟩ := hs.exists_subtree e (k := j - h) (by omega)
      rw [show h + (j - h) = j by omega] at hf
      obtain ⟨g, -, hle, hlast⟩ := hf.children.exists_of_mem ((mem_children_iff hf.head).2 hparent)
      have hpos := g.size_pos
      rw [size_eq f] at hend
      omega
  · rintro ⟨hle, hi⟩
    induction i using Nat.strongRecOn with
    | ind i ih =>
      obtain ⟨q', f, hf, -, -, ⟨hzero, -⟩ | ⟨j, n, hj, hji, rfl, -⟩⟩ := hs.exists_subtree e (k := i - h) (by omega)
      · obtain rfl : i = h := by omega
        exact .refl
      · rw [show h + (i - h) = i by omega] at hf hji
        exact .head ⟨_, hf.head, rfl⟩ (ih j hji hj (by omega))

end Tree

end Concrete

/-- The tree is the concrete one, flattened: its nodes are the concrete nodes in
pre-order, and parents and children are named by handle. -/
structure SyntaxTree.Flattens (t : SyntaxTree) (metadata : Concrete → Metadata) (c : Concrete) : Prop where
  size : t.size = c.size
  content : t.nodes.map Node.content = c.subtrees.map (Concrete.content metadata)
  handle : ∀ h n, t.node? h = some n → n.handle = h
  root : ∃ n, t.root? = some n ∧ n.handle = 0
  parent_eq_none_iff : ∀ n ∈ t.nodes, n.parent = none ↔ n.handle = 0
  parent_lt : ∀ n ∈ t.nodes, ∀ p, n.parent = some p → p < n.handle
  children_sorted : ∀ n ∈ t.nodes, n.children.Pairwise (· < ·)
  mem_children_iff : ∀ n ∈ t.nodes, ∀ i, i ∈ n.children ↔ t.HasParent i n.handle
  /-- A node and what is below it have successive handles. -/
  below_iff : ∀ h d, c.subtrees[h]? = some d → ∀ i, t.Below i h ↔ h ≤ i ∧ i < h + d.size
  outline : t.outline? t.size 0 = some c.outline

theorem Concrete.flattens_toTree (language : Language) (source : String) (c : Concrete) :
    (c.toTree language source).Flattens language.metadata c where
  size := size_toTree language source c
  content := map_content_nodesFrom language.metadata 0 none c
  handle _ _ := SyntaxTree.handle_of_node?
  root := ⟨_, List.head?_eq_getElem?.trans (standsAt_root language source c).head, rfl⟩
  parent_eq_none_iff n hn := by
    rcases parent_cases hn with ⟨hzero, hparent⟩ | ⟨p, hparent, hlt⟩
    · simp [hzero, hparent]
    · rw [hparent]
      exact ⟨nofun, fun hzero => by omega⟩
  parent_lt n hn p hp := by
    rcases parent_cases hn with ⟨-, hparent⟩ | ⟨q, hparent, hlt⟩
    · exact nomatch hparent.symm.trans hp
    · rwa [← Option.some.inj (hparent.symm.trans hp)]
  children_sorted n hn := by
    obtain ⟨q, e, -, -, heq, -⟩ := exists_block (SyntaxTree.node?_handle hn)
    rw [heq]
    exact pairwise_handlesFrom _ _
  mem_children_iff n hn i := mem_children_iff (SyntaxTree.node?_handle hn)
  below_iff h d hd i := below_iff hd
  outline := (standsAt_root language source c).outline? c (Nat.le_of_eq (size_toTree language source c).symm)

end RefactorAudit
