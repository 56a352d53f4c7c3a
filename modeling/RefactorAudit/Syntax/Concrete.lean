import RefactorAudit.Syntax.Node

/-!
# Concrete syntax trees

What a grammar makes of a source: every token is a node, anonymous ones included.
A grammar is error tolerant: the parts of a source that it cannot read are nodes
of kind `ERROR`, and tokens that it had to invent are marked as missing.
`firstFault?` finds the first such node of a tree.
-/

namespace RefactorAudit

structure Concrete where
  kind : String
  text : String
  span : Span
  /-- A node that the grammar names, not a bare token. -/
  named : Bool
  missing : Bool
  /-- There is a fault in the node or below it. -/
  hasError : Bool
  /-- The role of the node in its parent. -/
  field : Option String
  children : List Concrete

namespace Concrete

/-! ## Size -/

mutual

def size : Concrete → Nat
  | ⟨_, _, _, _, _, _, _, children⟩ => sizeAll children + 1

def sizeAll : List Concrete → Nat
  | [] => 0
  | c :: rest => c.size + sizeAll rest

end

theorem size_pos (c : Concrete) : 0 < c.size := by
  cases c; simp [size]

theorem size_le_sizeAll {c : Concrete} {cs : List Concrete} (h : c ∈ cs) : c.size ≤ sizeAll cs := by
  induction cs with
  | nil => simp at h
  | cons d ds ih =>
    rcases List.mem_cons.1 h with rfl | h
    · exact Nat.le_add_right _ _
    · exact Nat.le_trans (ih h) (Nat.le_add_left _ _)

theorem size_lt_of_mem_children {c d : Concrete} (h : d ∈ c.children) : d.size < c.size := by
  cases c
  exact Nat.lt_succ_of_le (size_le_sizeAll h)

/-! ## Fields -/

/-- The first child in the role. -/
def child? (c : Concrete) (role : String) : Option Concrete := c.children.find? (·.field == some role)

theorem mem_children_of_child? {c d : Concrete} {role : String} (h : c.child? role = some d) :
    d ∈ c.children := List.mem_of_find?_eq_some h

def firstNamedChild? (c : Concrete) : Option Concrete := c.children.find? (·.named)

/-! ## Faults -/

/-- A place that the grammar could not read as it stands. -/
inductive Fault where
  | unexpected (place : Point)
  | missing (kind : String) (place : Point)
  /-- The tree is marked as faulty, but holds no faulty node. -/
  | unlocated
  deriving DecidableEq, Repr

namespace Fault

def place? : Fault → Option Point
  | .unexpected p => some p
  | .missing _ p => some p
  | .unlocated => none

def detail : Fault → String
  | .unexpected _ => "unexpected syntax"
  | .missing kind _ => s!"missing '{kind}'"
  | .unlocated => "syntax error"

end Fault

mutual

/-- The first faulty node in pre-order. Only children marked as faulty are looked
into. -/
def firstFault? : Concrete → Option Fault
  | ⟨kind, _, span, _, missing, _, _, children⟩ =>
    if kind == "ERROR" then some (.unexpected span.start)
    else if missing then some (.missing kind span.start)
    else firstFaultIn? children

def firstFaultIn? : List Concrete → Option Fault
  | [] => none
  | c :: rest =>
    if c.hasError || c.missing then
      match c.firstFault? with
      | some f => some f
      | none => firstFaultIn? rest
    else firstFaultIn? rest

end

/-- The fault to report for a tree that has one. -/
def fault (c : Concrete) : Fault := c.firstFault?.getD .unlocated

end Concrete

end RefactorAudit
