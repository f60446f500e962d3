import GridChess.Displacement

/-!
# Cells of a walk

A walk in a direction visits, after `k` steps, the cell that lies `k` times the direction away.
Hence the cells between two ends are those at the distances strictly between zero and the number
of steps (`mem_between_iff`). For two axes, straight and diagonal displacements are spelled out.
-/

set_option autoImplicit false

namespace GridChess.Displacement

/-- The cell `k` steps away. -/
def ahead (cell direction : List Int) (k : Nat) : List Int :=
  List.zipWith (fun c d => c + k * d) cell direction

theorem ahead_step (cell direction : List Int) (k : Nat) :
    ahead (step cell direction) direction k = ahead cell direction (k + 1) := by
  induction cell generalizing direction with
  | nil => rfl
  | cons c cell ih =>
    cases direction with
    | nil => rfl
    | cons d direction =>
      have head : c + d + k * d = c + (k + 1 : Nat) * d := by
        rw [Int.natCast_add, Int.add_mul, Int.natCast_one, Int.one_mul]
        omega
      have tail := ih direction
      simp only [ahead, step] at tail
      simp only [ahead, step, List.zipWith_cons_cons, head, tail]

theorem ahead_one (cell direction : List Int) : ahead cell direction 1 = step cell direction := by
  simp [ahead, step]

theorem walk_eq_map (cell direction : List Int) (n : Nat) :
    walk cell direction n = (List.range n).map fun k => ahead cell direction (k + 1) := by
  induction n generalizing cell with
  | zero => rfl
  | succ n ih =>
    rw [walk, ih, List.range_succ_eq_map, List.map_cons, List.map_map, Nat.zero_add, ahead_one]
    simp only [Function.comp_def, ahead_step]

theorem mem_walk_iff (visited cell direction : List Int) (n : Nat) :
    visited ∈ walk cell direction n ↔ ∃ k, 0 < k ∧ k ≤ n ∧ visited = ahead cell direction k := by
  rw [walk_eq_map, List.mem_map]
  constructor
  · rintro ⟨k, inside, rfl⟩
    have bound : k < n := by simpa using inside
    exact ⟨k + 1, by omega, by omega, rfl⟩
  · rintro ⟨k, positive, inside, rfl⟩
    refine ⟨k - 1, by simp; omega, ?_⟩
    rw [Nat.sub_add_cancel positive]

theorem mem_between_iff (cell origin target : List Int) :
    cell ∈ between origin target ↔
      ∃ k, 0 < k ∧ k < steps (difference origin target) ∧
        cell = ahead origin (unit (difference origin target)) k := by
  unfold between
  rw [mem_walk_iff]
  constructor
  · rintro ⟨k, positive, inside, same⟩
    exact ⟨k, positive, by omega, same⟩
  · rintro ⟨k, positive, inside, same⟩
    exact ⟨k, positive, by omega, same⟩

/-- Going part of the way along an axis, or not at all, does not leave what its ends span. -/
theorem coordinate_within (o t : Int) (k : Nat) (part : t - o = 0 ∨ k ≤ (t - o).natAbs) :
    min o t ≤ o + k * (t - o).sign ∧ o + k * (t - o).sign ≤ max o t := by
  rcases Int.lt_trichotomy (t - o) 0 with negative | still | positive
  · rw [Int.sign_eq_neg_one_of_neg negative]
    omega
  · rw [still, Int.sign_zero]
    omega
  · rw [Int.sign_eq_one_of_pos positive]
    omega

theorem steps_pair (dx dy : Int) : steps [dx, dy] = max dx.natAbs dy.natAbs := by
  simp [steps]

theorem isStraight_pair (dx dy : Int) : isStraight [dx, dy] = true ↔ dx = 0 ∨ dy = 0 := by
  by_cases hx : dx = 0 <;> by_cases hy : dy = 0 <;> simp [isStraight, moving, hx, hy]

/-- Both axes have to move. -/
theorem isDiagonal_pair (dx dy : Int) :
    isDiagonal [dx, dy] = true ↔ dx ≠ 0 ∧ dx.natAbs = dy.natAbs := by
  by_cases hx : dx = 0 <;> by_cases hy : dy = 0 <;>
    simp [isDiagonal, moving, hx, hy, eq_comm]

end GridChess.Displacement
