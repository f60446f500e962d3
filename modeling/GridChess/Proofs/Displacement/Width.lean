import GridChess.Displacement.Width
import GridChess.Proofs.Displacement.Line
import GridChess.Proofs.Outcome

/-!
# Walks in machine integers

Where a displacement and its lengths lie in the range of a width, its direction and its number of
steps are what unbounded integers give. The walk then gives the same cells as in unbounded integers
if all that it visits lie in the range, and nothing otherwise (`walkThrough?_eq`).
-/

set_option autoImplicit false

namespace GridChess.Displacement

/-! ## Walks that end early -/

/-- The cells that are visited if a walk ends at the first where it may not go on. -/
def visited (goesOn : List Int → Bool) : List (List Int) → List (List Int)
  | [] => []
  | cell :: cells => if goesOn cell then cell :: visited goesOn cells else [cell]

theorem visited_subset (goesOn : List Int → Bool) (cells : List (List Int)) :
    visited goesOn cells ⊆ cells := by
  induction cells with
  | nil => exact List.Subset.refl _
  | cons cell cells ih =>
    unfold visited
    split
    · exact List.cons_subset_cons cell ih
    · intro first member
      rw [List.mem_singleton.mp member]
      exact List.mem_cons_self

/-- The first cell where the walk may not go on decides whether it may go all the way. -/
theorem all_visited (goesOn : List Int → Bool) (cells : List (List Int)) :
    (visited goesOn cells).all goesOn = cells.all goesOn := by
  induction cells with
  | nil => rfl
  | cons cell cells ih =>
    unfold visited
    split
    · rename_i further
      rw [List.all_cons, List.all_cons, ih]
    · rename_i stops
      simp [stops]

namespace Width

/-! ## One computation -/

/-- All integers of a list lie in the range. -/
def Fits (w : Width) (cell : List Int) : Prop := ∀ c ∈ cell, w.Holds c

instance (w : Width) (cell : List Int) : Decidable (w.Fits cell) :=
  inferInstanceAs (Decidable (∀ _ ∈ _, _))

variable (w : Width)

theorem keep?_eq_some (z : Int) (holds : w.Holds z) : w.keep? z = some z := if_pos holds

theorem length?_eq_some (d : Int) (holds : w.Holds d.natAbs) : w.length? d = some d.natAbs := by
  unfold length?
  rw [w.keep?_eq_some _ holds]
  rfl

theorem mapM_keep? {α : Type} (f : α → Int) (items : List α) :
    items.mapM (fun a => w.keep? (f a)) =
      if w.Fits (items.map f) then some (items.map f) else none := by
  induction items with
  | nil => rfl
  | cons first rest ih =>
    have split : w.Fits ((first :: rest).map f) ↔ w.Holds (f first) ∧ w.Fits (rest.map f) :=
      List.forall_mem_cons
    rw [List.mapM_cons, ih]
    unfold keep?
    by_cases here : w.Holds (f first)
    · by_cases later : w.Fits (rest.map f)
      · rw [if_pos here, if_pos later, if_pos (split.mpr ⟨here, later⟩)]
        rfl
      · rw [if_pos here, if_neg later, if_neg fun both => later (split.mp both).2]
        rfl
    · rw [if_neg here, if_neg fun both => here (split.mp both).1]
      rfl

theorem difference?_eq (origin target : List Int) :
    w.difference? origin target =
      if w.Fits (difference origin target) then some (difference origin target) else none := by
  have pairs : (origin.zip target).map (fun ends => ends.2 - ends.1) = difference origin target :=
    List.map_zip_eq_zipWith
  rw [← pairs]
  exact w.mapM_keep? (fun ends : Int × Int => ends.2 - ends.1) _

theorem step?_eq (cell direction : List Int) :
    w.step? cell direction =
      if w.Fits (step cell direction) then some (step cell direction) else none := by
  have pairs : (cell.zip direction).map (fun axis => axis.1 + axis.2) = step cell direction :=
    List.map_zip_eq_zipWith
  rw [← pairs]
  exact w.mapM_keep? (fun axis : Int × Int => axis.1 + axis.2) _

/-- Signs lie in the range of every width. -/
theorem unit?_eq_some (delta : List Int) : w.unit? delta = some (unit delta) := by
  refine mapM_eq_pure _ _ _ fun d _ => w.keep?_eq_some _ ?_
  have positive := w.positive
  unfold Holds
  rcases Int.sign_trichotomy d with one | zero | minus <;> omega

theorem foldr_max_natAbs (delta : List Int) : (delta.map Int.natAbs).foldr max 0 = steps delta := by
  rw [List.foldr_map]
  rfl

theorem steps?_eq_some (delta : List Int) (lengths : ∀ d ∈ delta, w.Holds d.natAbs) :
    w.steps? delta = some (steps delta) := by
  have each : delta.mapM w.length? = some (delta.map Int.natAbs) :=
    mapM_eq_pure _ _ _ fun d member => w.length?_eq_some d (lengths d member)
  unfold steps?
  rw [each, ← foldr_max_natAbs]
  rfl

theorem isDiagonal?_eq_some (delta : List Int) (lengths : ∀ d ∈ delta, w.Holds d.natAbs) :
    w.isDiagonal? delta = some (isDiagonal delta) := by
  have each : (moving delta).mapM w.length? = some ((moving delta).map Int.natAbs) := by
    refine mapM_eq_pure _ _ _ fun d member => w.length?_eq_some d (lengths d ?_)
    exact ((mem_moving_iff delta d).mp member).1
  unfold isDiagonal? isDiagonal
  rw [each]
  match moving delta with
  | [] => rfl
  | [d] => rfl
  | first :: second :: rest => simp [List.all_map, Function.comp_def]

/-! ## Walks -/

theorem fits_visited_cons (goesOn : List Int → Bool) (cell : List Int) (cells : List (List Int)) :
    (∀ c ∈ visited goesOn (cell :: cells), w.Fits c) ↔
      w.Fits cell ∧ (goesOn cell = true → ∀ c ∈ visited goesOn cells, w.Fits c) := by
  rw [visited]
  by_cases further : goesOn cell = true
  · simp [further]
  · simp [further]

/-- A walk gives the cells that unbounded integers give, unless one that it visits leaves the
range. -/
theorem walkWhile?_eq (goesOn : List Int → Bool) (cell direction : List Int) (n : Nat)
    (count : (n : Int) ≤ w.most) :
    w.walkWhile? goesOn cell direction n =
      if ∀ c ∈ visited goesOn (walk cell direction n), w.Fits c then
        some (visited goesOn (walk cell direction n))
      else none := by
  induction n generalizing cell with
  | zero => rfl
  | succ n ih =>
    have left : w.keep? (n + 1) = some (n + 1 : Int) :=
      w.keep?_eq_some _ (by unfold Holds; omega)
    have split := w.fits_visited_cons goesOn (step cell direction)
      (walk (step cell direction) direction n)
    unfold walkWhile? walk
    rw [left, w.step?_eq]
    by_cases first : w.Fits (step cell direction)
    · rw [if_pos first]
      by_cases further : goesOn (step cell direction) = true
      · simp only [bind, Option.bind, further, if_true, ih _ (by omega)]
        by_cases later : ∀ c ∈ visited goesOn (walk (step cell direction) direction n), w.Fits c
        · rw [if_pos later, if_pos (split.mpr ⟨first, fun _ => later⟩), visited, if_pos further]
          rfl
        · rw [if_neg later, if_neg fun both => later ((split.mp both).2 further)]
      · simp only [bind, Option.bind, further]
        rw [if_pos (split.mpr ⟨first, fun on => absurd on further⟩), visited, if_neg further]
        rfl
    · rw [if_neg first, if_neg fun both => first (split.mp both).1]
      rfl

/-- Two cells whose displacement and its lengths can be computed in a width. -/
structure Measures (origin target : List Int) : Prop where
  origins : w.Fits origin
  targets : w.Fits target
  differences : w.Fits (difference origin target)
  lengths : ∀ d ∈ difference origin target, w.Holds d.natAbs

section

variable (origin target : List Int) (lengths : ∀ d ∈ difference origin target, w.Holds d.natAbs)

include lengths

/-- The number of steps can be counted down. -/
theorem steps_le_most : (steps (difference origin target) : Int) ≤ w.most := by
  by_cases still : steps (difference origin target) = 0
  · have positive := w.positive
    omega
  · obtain ⟨d, member, same⟩ := exists_natAbs_eq_steps _ (Nat.pos_of_ne_zero still)
    rw [← same]
    exact (lengths d member).2

variable (differences : w.Fits (difference origin target))

include differences

theorem heading?_eq_some :
    w.heading? origin target =
      some (unit (difference origin target), steps (difference origin target)) := by
  unfold heading?
  rw [w.difference?_eq, if_pos differences]
  simp only [bind, Option.bind, w.unit?_eq_some, w.steps?_eq_some _ lengths]
  rfl

theorem walkThrough?_eq (goesOn : List Int → Bool) :
    w.walkThrough? goesOn origin target =
      if ∀ c ∈ visited goesOn (between origin target), w.Fits c then
        some (visited goesOn (between origin target))
      else none := by
  have longest := w.steps_le_most origin target lengths
  unfold walkThrough?
  rw [w.heading?_eq_some origin target lengths differences]
  exact w.walkWhile?_eq goesOn origin _ _ (by omega)

end

end Width

end GridChess.Displacement
