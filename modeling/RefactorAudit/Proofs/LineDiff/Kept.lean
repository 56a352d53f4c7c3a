import RefactorAudit.Proofs.LineDiff.Anchors

/-!
# What a script keeps

The elements that a script keeps are a common subsequence of both lists; what it drops
and brings in is the rest of each side. It keeps at least as much as the two lists have
in one piece (`longest_size_le_kept`): no common block of anchors is longer than the one
that is matched first (`length_le_longest`).
-/

namespace RefactorAudit.LineDiff

variable {α : Type}

/-! ## Kept elements -/

@[simp] theorem kept_same (items : List α) (runs : List (Run α)) : kept (.same items :: runs) = items ++ kept runs := rfl

@[simp] theorem kept_change (old new : List α) (runs : List (Run α)) : kept (.change old new :: runs) = kept runs := rfl

theorem kept_append (runs runs' : List (Run α)) : kept (runs ++ runs') = kept runs ++ kept runs' := by
  simp [kept]

theorem kept_sublist_old (runs : List (Run α)) : (kept runs).Sublist (runs.flatMap Run.old) :=
  List.filter_sublist.flatMap _

theorem kept_sublist_new (runs : List (Run α)) : (kept runs).Sublist (runs.flatMap Run.new) := by
  rw [kept_eq_flatMap_new]
  exact List.filter_sublist.flatMap _

/-- Runs that are put together keep what they kept. -/
theorem kept_foldr_consRun (runs : List (Run α)) : kept (runs.foldr consRun []) = kept runs := by
  have hcons : ∀ (run : Run α) (rest : List (Run α)), kept (consRun run rest) = kept (run :: rest) := by
    intro run rest
    unfold consRun
    split
    · simp
    · rfl
  induction runs with
  | nil => rfl
  | cons run runs ih =>
    rw [List.foldr_cons, hcons]
    cases run <;> simp [ih]

/-! ## The longest block -/

section Longest

variable [DecidableEq α] {anchor : α → Bool} {done rest a b block : List α} {row : List Nat} {best : Block} {i j : Nat}

/-- Each common end of `done` and of a part of `b` that holds anchors only is as long as
the entry for the part at most. -/
def CoversEnds (anchor : α → Bool) (done b : List α) (row : List Nat) : Prop :=
  ∀ items : List α, (∀ x ∈ items, anchor x = true) → items <:+ done →
    ∀ j k, items <:+ b.take (j + 1) → row[j]? = some k → items.length ≤ k

theorem CoversEnds.nextRow (h : CoversEnds anchor done b row) (x : α) :
    CoversEnds anchor (done ++ [x]) b (nextRow anchor x b row) := by
  intro items hanchor hdone j k hb hk
  obtain ⟨y, k', hy, hk', rfl⟩ := getElem?_nextRow hk
  rw [List.take_add_one, hy, Option.toList_some, List.suffix_concat_iff] at hb
  rw [List.suffix_concat_iff] at hdone
  -- the end is empty, or it ends with `x` on both sides and goes on in the row before
  rcases hdone with rfl | ⟨init, rfl, hdone⟩
  · exact Nat.zero_le _
  obtain ⟨init', heq, hinit⟩ := hb.resolve_left (by simp)
  obtain ⟨rfl, rfl⟩ : init = init' ∧ x = y := by simpa using heq
  have hlast : anchor x = true := hanchor x (by simp)
  have hle : init.length ≤ k' := by
    cases j with
    | zero =>
      rw [List.take_zero, List.suffix_nil] at hinit
      simp [hinit]
    | succ j => exact h init (fun z hz => hanchor z (by simp [hz])) hdone j k' hinit hk'
  rw [if_pos ⟨rfl, hlast⟩, List.length_append]
  exact Nat.succ_le_succ hle

theorem size_le_bestInRow (i j : Nat) (best : Block) (row : List Nat) : best.size ≤ (bestInRow i j best row).size := by
  induction row generalizing j best with
  | nil => exact Nat.le_refl _
  | cons k row ih =>
    refine Nat.le_trans ?_ (ih _ _)
    split
    · next hlt => exact Nat.le_of_lt hlt
    · exact Nat.le_refl _

theorem le_bestInRow {k : Nat} (hk : k ∈ row) (i j : Nat) (best : Block) : k ≤ (bestInRow i j best row).size := by
  induction row generalizing j best with
  | nil => cases hk
  | cons k' row ih =>
    rcases List.mem_cons.1 hk with rfl | hk
    · rw [bestInRow]
      refine Nat.le_trans ?_ (size_le_bestInRow _ _ _ _)
      split
      · exact Nat.le_refl _
      · next hlt => exact Nat.le_of_not_lt hlt
    · exact ih hk _ _

theorem size_le_bestFrom (anchor : α → Bool) (b : List α) (i : Nat) (row : List Nat) (best : Block) (rest : List α) :
    best.size ≤ (bestFrom anchor b i row best rest).size := by
  induction rest generalizing i row best with
  | nil => exact Nat.le_refl _
  | cons x rest ih => exact Nat.le_trans (size_le_bestInRow _ _ _ _) (ih _ _ _)

/-- No block of anchors that ends in both lists is longer than the best one, as far as
its end in the first list is still to come. -/
theorem length_le_bestFrom (hlen : row.length = b.length) (hcovers : CoversEnds anchor done b row)
    (hanchor : ∀ x ∈ block, anchor x = true) {front back : List α} (hfront : front ≠ [])
    (ha : block <:+ done ++ front) (hj : j < b.length) (hb : block <:+ b.take (j + 1)) :
    block.length ≤ (bestFrom anchor b i row best (front ++ back)).size := by
  induction front generalizing done row best i with
  | nil => exact absurd rfl hfront
  | cons x front ih =>
    have hcovers' := hcovers.nextRow x
    have hlen' : (nextRow anchor x b row).length = b.length := by
      simp [nextRow, hlen]
    rw [List.cons_append, bestFrom]
    cases front with
    | nil =>
      -- the block ends here, so the row has an entry for it
      obtain ⟨k, hk⟩ : ∃ k, (nextRow anchor x b row)[j]? = some k :=
        ⟨_, List.getElem?_eq_getElem (hlen' ▸ hj)⟩
      calc block.length ≤ k := hcovers' block hanchor ha j k hb hk
        _ ≤ (bestInRow i 0 best (nextRow anchor x b row)).size := le_bestInRow (List.mem_of_getElem? hk) i 0 best
        _ ≤ _ := size_le_bestFrom _ _ _ _ _ _
    | cons y front => exact ih hlen' hcovers' (by simp) (by simpa using ha)

/-- No common block of anchors is longer than the longest one. -/
theorem length_le_longest (hanchor : ∀ x ∈ block, anchor x = true) (ha : block <:+: a) (hb : block <:+: b) :
    block.length ≤ (longest anchor a b).size := by
  by_cases hempty : block = []
  · simp [hempty]
  obtain ⟨front, back, rfl⟩ := ha
  obtain ⟨front', back', rfl⟩ := hb
  have hpos : 0 < (front' ++ block).length := List.length_pos_iff.2 (by simp [hempty])
  have hend : block <:+ (front' ++ block ++ back').take ((front' ++ block).length - 1 + 1) := by
    rw [Nat.sub_add_cancel hpos, List.take_left]
    exact List.suffix_append _ _
  have hlast : (front' ++ block).length - 1 < (front' ++ block ++ back').length := by
    have hlength : (front' ++ block ++ back').length = (front' ++ block).length + back'.length := List.length_append
    omega
  -- before the first row nothing has an end
  have hnone : CoversEnds anchor [] (front' ++ block ++ back') ((front' ++ block ++ back').map fun _ => 0) := by
    intro items _ hitems
    simp [List.suffix_nil.1 hitems]
  have hbest : block.length ≤ (bestFrom anchor (front' ++ block ++ back') 0
      ((front' ++ block ++ back').map fun _ => 0) ⟨0, 0, 0⟩ (front ++ block ++ back)).size :=
    length_le_bestFrom (by simp) hnone hanchor (by simp [hempty]) (by simp) hlast hend
  simp only [longest, extend]
  omega

/-- A script keeps as much as the longest common block at least. -/
theorem longest_size_le_kept (anchor : α → Bool) (a b : List α) :
    (longest anchor a b).size ≤ (kept (script anchor a b)).length := by
  rw [script, kept_foldr_consRun]
  by_cases hsize : (longest anchor a b).size = 0
  · rw [hsize]
    exact Nat.zero_le _
  · have hle := longest_left_add_size_le anchor a b
    rw [pieces_of_common hsize, kept_append, kept_same, List.length_append, List.length_append, List.length_take,
      List.length_drop]
    omega

end Longest

/-! ## Lines -/

/-- The counts between two texts describe an edit: their lines have a common subsequence
such that the dropped lines are the rest of the old ones and the lines that came in
are the rest of the new ones. It is as long as every block of lines that both texts have.
So the counts differ by as much as the texts in length, and neither exceeds its side. -/
theorem lineCounts_describe_edit (old new : String) :
    (∃ common : List String, common.Sublist (Text.lines old) ∧ common.Sublist (Text.lines new) ∧
      (Text.lines old).length = common.length + (lineCounts old new).removed ∧
      (Text.lines new).length = common.length + (lineCounts old new).added ∧
      ∀ block : List String, block <:+: Text.lines old → block <:+: Text.lines new → block.length ≤ common.length) ∧
    ((lineCounts old new).added : Int) - (lineCounts old new).removed =
      (Text.lines new).length - (Text.lines old).length ∧
    (lineCounts old new).removed ≤ (Text.lines old).length ∧ (lineCounts old new).added ≤ (Text.lines new).length := by
  have hold := length_old_eq (script anyAnchor (Text.lines old) (Text.lines new))
  have hnew := length_new_eq (script anyAnchor (Text.lines old) (Text.lines new))
  have hsubold := kept_sublist_old (script anyAnchor (Text.lines old) (Text.lines new))
  have hsubnew := kept_sublist_new (script anyAnchor (Text.lines old) (Text.lines new))
  rw [script_old] at hold hsubold
  rw [script_new] at hnew hsubnew
  refine ⟨⟨_, hsubold, hsubnew, hold, hnew, fun block ha hb => ?_⟩, ?_, ?_, ?_⟩
  · exact Nat.le_trans (length_le_longest (fun _ _ => rfl) ha hb) (longest_size_le_kept _ _ _)
  all_goals
    simp only [lineCounts]
    omega

/-- Two lines stay together, so one goes at most and one comes, whatever else is matched. -/
theorem lineCounts_describe_edit_moved :
    ["b", "c"] <:+: Text.lines "a\nb\nc\n" ∧ ["b", "c"] <:+: Text.lines "b\nc\na\n" ∧
    (lineCounts "a\nb\nc\n" "b\nc\na\n").removed ≤ 1 ∧ (lineCounts "a\nb\nc\n" "b\nc\na\n").added ≤ 1 := by
  have hold : Text.lines "a\nb\nc\n" = ["a", "b", "c"] := by decide
  have hnew : Text.lines "b\nc\na\n" = ["b", "c", "a"] := by decide
  obtain ⟨⟨common, -, -, hremoved, hadded, hblock⟩, -⟩ := lineCounts_describe_edit "a\nb\nc\n" "b\nc\na\n"
  rw [hold] at hremoved hblock ⊢
  rw [hnew] at hadded hblock ⊢
  have hfirst : ["b", "c"] <:+: ["a", "b", "c"] := by decide
  have hsecond : ["b", "c"] <:+: ["b", "c", "a"] := by decide
  have htwo : 2 ≤ common.length := hblock ["b", "c"] hfirst hsecond
  simp only [List.length_cons, List.length_nil] at hremoved hadded
  exact ⟨hfirst, hsecond, by omega, by omega⟩

end RefactorAudit.LineDiff
