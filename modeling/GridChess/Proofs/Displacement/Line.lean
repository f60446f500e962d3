import GridChess.Proofs.Displacement.Between

/-!
# Lines

A displacement lies on a line when all of the axes that move do so by equally many cells. These are
the straight and the diagonal displacements (`isLine_iff`), and those whose walk arrives: after as
many steps in the unit direction as the longest axis has, it stands on the target
(`ahead_steps_eq_iff`).
-/

set_option autoImplicit false

namespace GridChess.Displacement

/-! ## Sums and differences of cells -/

theorem length_difference (origin target : List Int) (same : origin.length = target.length) :
    (difference origin target).length = origin.length := by
  simp [difference, same]

theorem length_unit (delta : List Int) : (unit delta).length = delta.length := by
  simp [unit]

theorem step_difference (origin target : List Int) (same : origin.length = target.length) :
    step origin (difference origin target) = target := by
  induction origin generalizing target with
  | nil =>
    cases target with
    | nil => rfl
    | cons t target => cases same
  | cons o origin ih =>
    cases target with
    | nil => cases same
    | cons t target =>
      have later := ih target (Nat.succ.inj same)
      have first : o + (t - o) = t := by omega
      simp only [step, difference] at later
      simp only [step, difference, List.zipWith_cons_cons, later, first]

theorem difference_step (cell delta : List Int) (same : cell.length = delta.length) :
    difference cell (step cell delta) = delta := by
  induction cell generalizing delta with
  | nil =>
    cases delta with
    | nil => rfl
    | cons d delta => cases same
  | cons c cell ih =>
    cases delta with
    | nil => cases same
    | cons d delta =>
      have later := ih delta (Nat.succ.inj same)
      have first : c + d - c = d := by omega
      simp only [step, difference] at later
      simp only [step, difference, List.zipWith_cons_cons, later, first]

/-- Different displacements lead to different cells. -/
theorem step_eq_iff (cell delta delta' : List Int) (same : cell.length = delta.length)
    (same' : cell.length = delta'.length) :
    step cell delta = step cell delta' ↔ delta = delta' := by
  constructor
  · intro meets
    rw [← difference_step cell delta same, meets, difference_step cell delta' same']
  · rintro rfl
    rfl

theorem ahead_eq_step (cell direction : List Int) (k : Nat) :
    ahead cell direction k = step cell (direction.map fun d => k * d) := by
  simp [ahead, step, List.zipWith_map_right]

theorem ahead_zero (cell direction : List Int) (same : cell.length = direction.length) :
    ahead cell direction 0 = cell := by
  induction cell generalizing direction with
  | nil => rfl
  | cons c cell ih =>
    cases direction with
    | nil => cases same
    | cons d direction =>
      have later := ih direction (Nat.succ.inj same)
      have first : c + (0 : Nat) * d = c := by simp
      simp only [ahead] at later
      simp only [ahead, List.zipWith_cons_cons, later, first]

/-- The way back leads through the same cells. -/
theorem ahead_back (cell direction : List Int) (k n : Nat) (within : k ≤ n) :
    ahead (ahead cell direction n) (direction.map fun d => -d) k =
      ahead cell direction (n - k) := by
  induction cell generalizing direction with
  | nil => rfl
  | cons c cell ih =>
    cases direction with
    | nil => rfl
    | cons d direction =>
      have later := ih direction
      have first : c + n * d + k * -d = c + (n - k : Nat) * d := by
        rw [Int.ofNat_sub within, Int.sub_mul, Int.mul_neg]
        omega
      simp only [ahead] at later
      simp only [ahead, List.map_cons, List.zipWith_cons_cons, later, first]

/-! ## The longest axis -/

theorem exists_natAbs_eq_steps (delta : List Int) (moves : 0 < steps delta) :
    ∃ d ∈ delta, d.natAbs = steps delta := by
  induction delta with
  | nil => cases moves
  | cons first delta ih =>
    unfold steps at ih moves ⊢
    rw [List.foldr_cons] at moves ⊢
    rcases Nat.le_total (delta.foldr (fun d most => max d.natAbs most) 0) first.natAbs with
      longest | longer
    · exact ⟨first, List.mem_cons_self, (Nat.max_eq_left longest).symm⟩
    · rw [Nat.max_eq_right longer] at moves ⊢
      obtain ⟨d, member, same⟩ := ih moves
      exact ⟨d, List.mem_cons_of_mem _ member, same⟩

theorem steps_neg (delta : List Int) : steps (delta.map fun d => -d) = steps delta := by
  simp [steps, List.foldr_map]

/-! ## Lines -/

/-- The axes that move do so by as many cells as the longest one. -/
def IsLine (delta : List Int) : Prop := ∀ d ∈ delta, d = 0 ∨ d.natAbs = steps delta

theorem mem_moving_iff (delta : List Int) (d : Int) : d ∈ moving delta ↔ d ∈ delta ∧ d ≠ 0 := by
  simp [moving]

theorem natAbs_mul_sign (d : Int) : (d.natAbs : Int) * d.sign = d := by
  rw [Int.mul_comm]
  exact Int.sign_mul_natAbs d

theorem steps_mul_sign_iff (delta : List Int) (d : Int) :
    (steps delta : Int) * d.sign = d ↔ d = 0 ∨ d.natAbs = steps delta := by
  by_cases still : d = 0
  · simp [still]
  · have moves : d.sign ≠ 0 := by simpa using still
    constructor
    · intro arrives
      have both : (steps delta : Int) * d.sign = d.natAbs * d.sign := by
        rw [arrives, natAbs_mul_sign]
      exact Or.inr (Int.ofNat.inj (Int.eq_of_mul_eq_mul_right moves both)).symm
    · rintro (zero | longest)
      · exact absurd zero still
      · rw [← longest, natAbs_mul_sign]

/-- On a line the unit direction leads back to the displacement. -/
theorem map_steps_mul_iff (delta : List Int) :
    (unit delta).map (fun u => (steps delta : Int) * u) = delta ↔ IsLine delta := by
  have pointwise : delta.map (fun d => (steps delta : Int) * d.sign) = delta.map id ↔
      ∀ d ∈ delta, (steps delta : Int) * d.sign = d := List.map_inj_left
  rw [List.map_id] at pointwise
  unfold unit
  rw [List.map_map]
  refine pointwise.trans ?_
  exact forall₂_congr fun d _ => steps_mul_sign_iff delta d

/-- The walk arrives exactly on lines. -/
theorem ahead_steps_eq_iff (origin target : List Int) (same : origin.length = target.length) :
    ahead origin (unit (difference origin target)) (steps (difference origin target)) = target ↔
      IsLine (difference origin target) := by
  have length := length_difference origin target same
  have arrives := step_eq_iff origin
    ((unit (difference origin target)).map fun u => (steps (difference origin target) : Int) * u)
    (difference origin target) (by rw [List.length_map, length_unit, length]) length.symm
  rw [step_difference origin target same, map_steps_mul_iff] at arrives
  rw [ahead_eq_step]
  exact arrives

end GridChess.Displacement
