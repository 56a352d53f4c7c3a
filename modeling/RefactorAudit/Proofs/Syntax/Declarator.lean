import RefactorAudit.Proofs.Syntax.Flatten

/-!
# The names of C functions

A declarator is nested: from the node in the role of declarator, or else from its first
named child, a chain leads down to the name that is declared (`declaratorChain`). The
name of a function is read off the first function declarator of the chain, and is the
text of all that stands in the role of declarator there. So it is the identifier at the
end of the chain exactly if that stands right there (`name_eq_identifier_iff`): what is
wrapped around a function declarator does not matter, what is wrapped inside of it
becomes part of the name.
-/

namespace RefactorAudit

namespace Declaration

open Concrete

/-! ## The chain of declarators -/

/-- The declarator and those inside of it, down to one that has no inner declarator. -/
def declaratorChain (c : Concrete) : List Concrete :=
  match _h : innerDeclarator? c with
  | none => [c]
  | some d => c :: declaratorChain d
termination_by c.size
decreasing_by exact size_lt_of_innerDeclarator? _h

variable {c d e f : Concrete}

theorem declaratorChain_of_none (h : innerDeclarator? c = none) : declaratorChain c = [c] := by
  rw [declaratorChain]
  split
  · rfl
  · simp_all

theorem declaratorChain_of_some (h : innerDeclarator? c = some d) : declaratorChain c = c :: declaratorChain d := by
  rw [declaratorChain]
  split
  · simp_all
  · simp_all

/-- Induction along the chain, from its end up. -/
theorem chain_induction {P : Concrete → Prop} (last : ∀ c, innerDeclarator? c = none → P c)
    (wrap : ∀ c d, innerDeclarator? c = some d → P d → P c) (c : Concrete) : P c := by
  cases h : innerDeclarator? c with
  | none => exact last c h
  | some d => exact wrap c d h (chain_induction last wrap d)
termination_by c.size
decreasing_by exact size_lt_of_innerDeclarator? h

theorem mem_declaratorChain_self (c : Concrete) : c ∈ declaratorChain c := by
  cases h : innerDeclarator? c with
  | none => simp [declaratorChain_of_none h]
  | some d => simp [declaratorChain_of_some h]

/-- What is searched for is the first function declarator of the chain. -/
theorem functionDeclarator?_eq_find? (c : Concrete) :
    functionDeclarator? c = (declaratorChain c).find? (·.kind == "function_declarator") := by
  induction c using chain_induction with
  | last c h =>
    rw [functionDeclarator?, declaratorChain_of_none h]
    split
    · next hkind => simp [hkind]
    · next hkind =>
      split
      · simp [hkind]
      · simp_all
  | wrap c d h ih =>
    rw [functionDeclarator?, declaratorChain_of_some h, List.find?_cons, ← ih]
    split
    · next hkind => simp [hkind]
    · next hkind =>
      simp only [hkind]
      split <;> simp_all

/-- The chain from a declarator of the chain has the same end. -/
theorem getLast?_declaratorChain (h : d ∈ declaratorChain c) :
    (declaratorChain d).getLast? = (declaratorChain c).getLast? := by
  induction c using chain_induction with
  | last c hlast =>
    rw [declaratorChain_of_none hlast, List.mem_singleton] at h
    rw [h]
  | wrap c e hinner ih =>
    rw [declaratorChain_of_some hinner, List.mem_cons] at h
    rcases h with rfl | h
    · rfl
    · rw [ih h, declaratorChain_of_some hinner, List.getLast?_cons_of_ne_nil]
      exact List.ne_nil_of_mem (mem_declaratorChain_self e)

theorem mem_declaratorChain_trans (hd : d ∈ declaratorChain c) (he : e ∈ declaratorChain d) :
    e ∈ declaratorChain c := by
  induction c using chain_induction with
  | last c hlast =>
    rw [declaratorChain_of_none hlast, List.mem_singleton] at hd
    exact hd ▸ he
  | wrap c b hinner ih =>
    rw [declaratorChain_of_some hinner, List.mem_cons] at hd
    rcases hd with rfl | hd
    · exact he
    · rw [declaratorChain_of_some hinner]
      exact List.mem_cons_of_mem _ (ih hd)

theorem mem_declaratorChain_of_inner (h : innerDeclarator? c = some d) : d ∈ declaratorChain c := by
  rw [declaratorChain_of_some h]
  exact List.mem_cons_of_mem _ (mem_declaratorChain_self d)

/-! ## Texts -/

/-- Every declarator of the chain has more text than the one inside of it. -/
def Growing (c : Concrete) : Prop :=
  ∀ d ∈ declaratorChain c, ∀ e, innerDeclarator? d = some e → e.text.length < d.text.length

theorem growing_of_none (h : innerDeclarator? c = none) : Growing c := by
  intro d hd e he
  rw [declaratorChain_of_none h, List.mem_singleton] at hd
  simp_all

theorem growing_of_some (h : innerDeclarator? c = some d) (hless : d.text.length < c.text.length) (hd : Growing d) :
    Growing c := by
  intro x hx e he
  rw [declaratorChain_of_some h] at hx
  rcases List.mem_cons.1 hx with rfl | hx
  · obtain rfl : d = e := Option.some.inj (h.symm.trans he)
    exact hless
  · exact hd x hx e he

theorem Growing.of_mem (h : Growing c) (hd : d ∈ declaratorChain c) : Growing d :=
  fun x hx => h x (mem_declaratorChain_trans hd hx)

/-- The end of the chain is the declarator itself or has less text. -/
theorem Growing.eq_or_lt (h : Growing c) (hlast : (declaratorChain c).getLast? = some e) :
    e = c ∨ e.text.length < c.text.length := by
  induction c using chain_induction with
  | last c hnone =>
    rw [declaratorChain_of_none hnone] at hlast
    exact .inl (Option.some.inj hlast).symm
  | wrap c d hinner ih =>
    have hd := mem_declaratorChain_of_inner hinner
    have hless := h c (mem_declaratorChain_self c) d hinner
    rw [← getLast?_declaratorChain hd] at hlast
    rcases ih (h.of_mem hd) hlast with rfl | hlt
    · exact .inr hless
    · exact .inr (Nat.lt_trans hlt hless)

/-! ## Names -/

theorem name_functionDefinition (node : Concrete) :
    (functionDefinition node).name =
      ((node.child? "declarator").bind functionDeclarator?).bind fun f => (f.child? "declarator").map (·.text) := by
  unfold functionDefinition
  split
  · next h => simp [h, Metadata.empty]
  · next f h =>
    rw [h, Option.bind_some]
    split
    · next hname => simp [hname, Metadata.empty]
    · next hname => simp [hname]

theorem innerDeclarator?_of_child? (h : c.child? "declarator" = some d) : innerDeclarator? c = some d := by
  rw [innerDeclarator?, h]

theorem metadata_c {node : Concrete} (h : node.kind = "function_definition") :
    Language.c.metadata node = functionDefinition node := by
  simp [Language.metadata, Declaration.c, h]

/-- The name is the text in the role of declarator of the first function declarator. -/
theorem name_eq {node top : Concrete} (hkind : node.kind = "function_definition")
    (htop : innerDeclarator? node = some top)
    (hf : (declaratorChain top).find? (·.kind == "function_declarator") = some f) :
    (Language.c.metadata node).name =
      if (node.child? "declarator").isSome then (f.child? "declarator").map (·.text) else none := by
  rw [metadata_c hkind, name_functionDefinition]
  cases hchild : node.child? "declarator" with
  | none => rfl
  | some d =>
    obtain rfl : d = top := Option.some.inj ((innerDeclarator?_of_child? hchild).symm.trans htop)
    simp [functionDeclarator?_eq_find?, hf]

/-- In a tree that was made from a concrete one, a node has the metadata of the
concrete node at its place. -/
theorem exists_node? {root node : Concrete} {h : Nat} (l : Language) (source : String)
    (hnode : root.subtrees[h]? = some node) :
    ∃ n, (root.toTree l source).node? h = some n ∧ n.metadata = l.metadata node := by
  have hcontent := congrArg (·[h]?) (map_content_nodesFrom l.metadata 0 none root)
  simp only [List.getElem?_map, hnode, Option.map_some, Option.map_eq_some_iff] at hcontent
  obtain ⟨n, hn, hsame⟩ := hcontent
  simp only [Node.content, content, Prod.mk.injEq] at hsame
  exact ⟨n, hn, hsame.2.2.2⟩

/-- A function definition in a source in C gets as its name what stands in the role of
declarator of the first function declarator of its chain. That is the identifier at the
end of the chain if it stands there itself, whatever is wrapped around the function
declarator. If each declarator of the chain has more text than the one inside of it, it
is the identifier in no other case. -/
theorem name_eq_identifier_iff (root node top f identifier : Concrete) (source : String) (h : Nat)
    (hnode : root.subtrees[h]? = some node) (hkind : node.kind = "function_definition")
    (htop : innerDeclarator? node = some top)
    (hf : (declaratorChain top).find? (·.kind == "function_declarator") = some f)
    (hlast : (declaratorChain top).getLast? = some identifier) :
    ∃ n, (root.toTree .c source).node? h = some n ∧
      n.metadata.name =
        (if (node.child? "declarator").isSome then (f.child? "declarator").map (·.text) else none) ∧
      (node.child? "declarator" = some top → f.child? "declarator" = some identifier →
        n.metadata.name = some identifier.text) ∧
      (Growing top → (n.metadata.name = some identifier.text ↔
        node.child? "declarator" = some top ∧ f.child? "declarator" = some identifier)) := by
  obtain ⟨n, hn, hmetadata⟩ := exists_node? .c source hnode
  have hname := name_eq hkind htop hf
  rw [← hmetadata] at hname
  have himp : node.child? "declarator" = some top → f.child? "declarator" = some identifier →
      n.metadata.name = some identifier.text := by
    intro hchild hidentifier
    simp [hname, hchild, hidentifier]
  refine ⟨n, hn, hname, himp, fun hgrowing => ⟨fun heq => ?_, fun hroles => himp hroles.1 hroles.2⟩⟩
  rw [hname] at heq
  split at heq
  · next hchild =>
    obtain ⟨t, hchild⟩ := Option.isSome_iff_exists.1 hchild
    obtain rfl : t = top := Option.some.inj ((innerDeclarator?_of_child? hchild).symm.trans htop)
    obtain ⟨d, hd, htext⟩ := Option.map_eq_some_iff.1 heq
    -- the declarator with the identifier's text is no longer than the end of the chain
    have hmem : d ∈ declaratorChain t :=
      mem_declaratorChain_trans (List.mem_of_find?_eq_some hf)
        (mem_declaratorChain_of_inner (innerDeclarator?_of_child? hd))
    rw [← getLast?_declaratorChain hmem] at hlast
    rcases (hgrowing.of_mem hmem).eq_or_lt hlast with rfl | hlt
    · exact ⟨hchild, hd⟩
    · rw [htext] at hlt
      exact absurd hlt (Nat.lt_irrefl _)
  · cases heq

/-! ## Some declarators -/

/-- A node of a source without faults. -/
def soundNode (kind text : String) (field : Option String) (children : List Concrete) : Concrete :=
  ⟨kind, text, ⟨⟨0, 0⟩, ⟨0, text.length⟩⟩, true, false, false, field, children⟩

/-- A token, as opposed to a node that the grammar names. -/
def token (text : String) : Concrete := { soundNode text text none [] with named := false }

/-- `(int a)` -/
def parameterList : Concrete :=
  soundNode "parameter_list" "(int a)" (some "parameters")
    [token "(", soundNode "parameter_declaration" "int a" none
      [soundNode "primitive_type" "int" (some "type") [], soundNode "identifier" "a" (some "declarator") []],
      token ")"]

def identifierNode (field : Option String) : Concrete := soundNode "identifier" "f" field []

/-- `f(int a)` -/
def plainFunction : Concrete :=
  soundNode "function_declarator" "f(int a)" (some "declarator") [identifierNode (some "declarator"), parameterList]

/-- `*f(int a)` -/
def pointerFunction (field : Option String) : Concrete :=
  soundNode "pointer_declarator" "*f(int a)" field [token "*", plainFunction]

/-- A definition with the declarator and an empty body. -/
def definitionOf (declarator : Concrete) : Concrete :=
  soundNode "function_definition" ("int " ++ declarator.text ++ " \x7b\x7d") none
    [soundNode "primitive_type" "int" (some "type") [], declarator,
      soundNode "compound_statement" "\x7b\x7d" (some "body") [token "\x7b", token "\x7d"]]

theorem declaratorChain_plainFunction :
    declaratorChain plainFunction = [plainFunction, identifierNode (some "declarator")] := by
  rw [declaratorChain_of_some (d := identifierNode (some "declarator")) rfl, declaratorChain_of_none rfl]

theorem declaratorChain_pointerFunction (field : Option String) :
    declaratorChain (pointerFunction field) =
      [pointerFunction field, plainFunction, identifierNode (some "declarator")] := by
  rw [declaratorChain_of_some (d := plainFunction) rfl, declaratorChain_plainFunction]

/-- A function that returns a pointer has its own name. -/
theorem name_eq_identifier_iff_pointer :
    Growing (pointerFunction (some "declarator")) ∧
    ∃ n, ((definitionOf (pointerFunction (some "declarator"))).toTree .c "int *f(int a) \x7b\x7d").node? 0 = some n ∧
      n.metadata.name = some "f" := by
  have hgrowing : Growing (pointerFunction (some "declarator")) :=
    growing_of_some (d := plainFunction) rfl (by decide)
      (growing_of_some (d := identifierNode (some "declarator")) rfl (by decide) (growing_of_none rfl))
  have hchain := declaratorChain_pointerFunction (some "declarator")
  obtain ⟨n, hn, -, -, hiff⟩ := name_eq_identifier_iff (definitionOf (pointerFunction (some "declarator")))
    (definitionOf (pointerFunction (some "declarator"))) (pointerFunction (some "declarator")) plainFunction
    (identifierNode (some "declarator")) "int *f(int a) \x7b\x7d" 0 rfl rfl rfl (by rw [hchain]; rfl) (by rw [hchain]; rfl)
  exact ⟨hgrowing, n, hn, (hiff hgrowing).2 ⟨rfl, rfl⟩⟩

/-- The declarator in parentheses. -/
def parenthesized (inner : Concrete) : Concrete :=
  soundNode "parenthesized_declarator" ("(" ++ inner.text ++ ")") (some "declarator") [token "(", inner, token ")"]

/-- A function whose declarator stands in parentheses. -/
def functionOf (inner : Concrete) : Concrete :=
  soundNode "function_declarator" ("(" ++ inner.text ++ ")(int a)") (some "declarator")
    [parenthesized inner, parameterList]

theorem exists_name_definitionOf (source : String) (hfield : f.field = some "declarator")
    (hkind : f.kind = "function_declarator") :
    innerDeclarator? (definitionOf f) = some f ∧ ∃ n, ((definitionOf f).toTree .c source).node? 0 = some n ∧
      n.metadata.name = (f.child? "declarator").map (·.text) := by
  have hchild : (definitionOf f).child? "declarator" = some f := by
    simp [child?, definitionOf, soundNode, hfield]
  have hinner := innerDeclarator?_of_child? hchild
  have hfirst : (declaratorChain f).find? (·.kind == "function_declarator") = some f := by
    rw [← functionDeclarator?_eq_find?, functionDeclarator?]
    simp [hkind]
  have hroot : (definitionOf f).subtrees[0]? = some (definitionOf f) := rfl
  obtain ⟨n, hn, hmetadata⟩ := exists_node? .c source hroot
  refine ⟨hinner, n, hn, ?_⟩
  rw [hmetadata, name_eq rfl hinner hfirst, hchild]
  rfl

/-- Parentheses around the name become part of it, in `int (f)(int a)`, and so does all
of the inner declarator in `int (*f(int a))(int a)`, a function that returns a pointer to
a function. -/
theorem name_of_wrapped_identifier :
    (innerDeclarator? (definitionOf (functionOf (identifierNode none))) = some (functionOf (identifierNode none)) ∧
      (functionOf (identifierNode none)).kind = "function_declarator" ∧
      (declaratorChain (functionOf (identifierNode none))).getLast? = some (identifierNode none) ∧
      ∃ n, ((definitionOf (functionOf (identifierNode none))).toTree .c "int (f)(int a) \x7b\x7d").node? 0 = some n ∧
        n.metadata.name = some "(f)") ∧
    innerDeclarator? (definitionOf (functionOf (pointerFunction none))) = some (functionOf (pointerFunction none)) ∧
      (functionOf (pointerFunction none)).kind = "function_declarator" ∧
      (declaratorChain (functionOf (pointerFunction none))).getLast? = some (identifierNode (some "declarator")) ∧
      ∃ n, ((definitionOf (functionOf (pointerFunction none))).toTree .c
          "int (*f(int a))(int a) \x7b\x7d").node? 0 = some n ∧
        n.metadata.name = some "(*f(int a))" := by
  obtain ⟨hinner, hname⟩ := exists_name_definitionOf (f := functionOf (identifierNode none))
    "int (f)(int a) \x7b\x7d" rfl rfl
  obtain ⟨hinner', hname'⟩ := exists_name_definitionOf (f := functionOf (pointerFunction none))
    "int (*f(int a))(int a) \x7b\x7d" rfl rfl
  refine ⟨⟨hinner, rfl, ?_, hname⟩, hinner', rfl, ?_, hname'⟩
  · rw [declaratorChain_of_some (d := parenthesized (identifierNode none)) rfl,
      declaratorChain_of_some (d := identifierNode none) rfl, declaratorChain_of_none rfl]
    rfl
  · rw [declaratorChain_of_some (d := parenthesized (pointerFunction none)) rfl,
      declaratorChain_of_some (d := pointerFunction none) rfl, declaratorChain_pointerFunction]
    rfl

end Declaration

end RefactorAudit
