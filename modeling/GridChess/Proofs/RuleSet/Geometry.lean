import GridChess.Proofs.Flat.CanMove
import GridChess.RuleSet.Hyper

/-!
# Boards of the rule sets

The cells that a rule set lists are the cells on its board, each once, and its pieces move from
cells of the board to cells of the board only. These facts are gathered in `Bounded`, which
holds of both rule sets under any players (`Shipped.bounded`).
-/

set_option autoImplicit false

namespace GridChess

namespace Position

theorem mem_axis_iff (size : Nat) (c : Int) : c ∈ axis size ↔ within size c = true := by
  unfold axis
  rw [List.mem_map, within_iff]
  constructor
  · rintro ⟨n, inside, rfl⟩
    have bound := List.mem_range.mp inside
    simp
    omega
  · rintro ⟨low, high⟩
    exact ⟨c.toNat, List.mem_range.mpr (by omega), Int.toNat_of_nonneg low⟩

end Position

/-- Lists keep their elements apart under a map that does. -/
theorem nodup_map {α β : Type} (list : List α) (f : α → β) (nodup : list.Nodup)
    (injective : ∀ a b, f a = f b → a = b) : (list.map f).Nodup :=
  List.Pairwise.map f (fun a b differ same => differ (injective a b same)) nodup

/-- Lists that share no element are joined without repetition. -/
theorem nodup_join {α β : Type} (outer : List α) (inner : α → List β) (nodup : outer.Nodup)
    (each : ∀ a ∈ outer, (inner a).Nodup)
    (unshared : ∀ a b x, x ∈ inner a → x ∈ inner b → a = b) : (outer.flatMap inner).Nodup := by
  refine List.pairwise_flatMap.mpr ⟨each, nodup.imp ?_⟩
  intro a b differ x first y second same
  exact differ (unshared a b x first (same ▸ second))

theorem Position.nodup_axis (size : Nat) : (axis size).Nodup :=
  nodup_map _ _ List.nodup_range fun _ _ same => Int.ofNat.inj same

namespace RuleSet

/-- The two rule sets. -/
inductive Shipped : RuleSet → Prop
  | flat : Shipped .flat
  | hyper : Shipped .hyper

/-- Play stays on the cells of the board. -/
structure Bounded (rules : RuleSet) : Prop where
  nodup_cells : rules.cells.Nodup
  valid_cells : .invalid ∉ rules.cells
  origin_mem : ∀ board piece target, rules.canMove board piece target = true →
    piece.position ∈ rules.cells
  target_mem : ∀ board piece target, rules.canMove board piece target = true →
    target ∈ rules.cells

namespace Flat

theorem mem_cells_iff (p : Position) : p ∈ cells ↔ p.onFlatBoard = true := by
  unfold cells
  simp only [List.mem_flatMap, List.mem_map, Position.mem_axis_iff]
  constructor
  · rintro ⟨rank, high, file, wide, rfl⟩
    simp [Position.onFlatBoard, high, wide]
  · intro inside
    cases p with
    | flat file rank =>
      obtain ⟨wide, high⟩ := Bool.and_eq_true_iff.mp inside
      exact ⟨rank, high, file, wide, rfl⟩
    | hyper x y z w => cases inside
    | invalid => cases inside

theorem nodup_cells : cells.Nodup := by
  refine nodup_join _ _ (Position.nodup_axis _) ?_ ?_
  · intro rank _
    refine nodup_map _ _ (Position.nodup_axis _) fun file file' same => ?_
    cases same
    rfl
  · intro rank rank' p first second
    obtain ⟨file, _, rfl⟩ := List.mem_map.mp first
    obtain ⟨file', _, same⟩ := List.mem_map.mp second
    cases same
    rfl

end Flat

namespace Hyper

theorem mem_cells_iff (p : Position) : p ∈ cells ↔ p.onHyperBoard = true := by
  unfold cells
  simp only [List.mem_flatMap, List.mem_map, Position.mem_axis_iff]
  constructor
  · rintro ⟨w, hw, z, hz, y, hy, x, hx, rfl⟩
    simp [Position.onHyperBoard, hw, hz, hy, hx]
  · intro inside
    cases p with
    | hyper x y z w =>
      simp only [Position.onHyperBoard, Bool.and_eq_true, and_assoc] at inside
      obtain ⟨hx, hy, hz, hw⟩ := inside
      exact ⟨w, hw, z, hz, y, hy, x, hx, rfl⟩
    | flat file rank => cases inside
    | invalid => cases inside

theorem nodup_cells : cells.Nodup := by
  have axis := Position.nodup_axis Position.hyperSize
  refine nodup_join _ _ axis (fun w _ => nodup_join _ _ axis (fun z _ =>
    nodup_join _ _ axis (fun y _ => nodup_map _ _ axis ?_) ?_) ?_) ?_
  · intro x x' same
    cases same
    rfl
  all_goals
    intro a b p first second
    simp only [List.mem_flatMap, List.mem_map] at first second
    grind

end Hyper

theorem bounded_flat : Bounded .flat where
  nodup_cells := Flat.nodup_cells
  valid_cells := by
    intro member
    cases (Flat.mem_cells_iff .invalid).mp member
  origin_mem := by
    intro board piece target allowed
    obtain ⟨file, rank, file', rank', stands, rfl⟩ := Flat.canMove_cells board piece target allowed
    have decision := (Flat.canMove_flat_iff board piece file rank file' rank' stands).mp allowed
    rw [stands]
    exact (Flat.mem_cells_iff _).mpr decision.1
  target_mem := by
    intro board piece target allowed
    obtain ⟨file, rank, file', rank', stands, rfl⟩ := Flat.canMove_cells board piece target allowed
    have decision := (Flat.canMove_flat_iff board piece file rank file' rank' stands).mp allowed
    exact (Flat.mem_cells_iff _).mpr decision.2.1

theorem bounded_hyper : Bounded .hyper where
  nodup_cells := Hyper.nodup_cells
  valid_cells := by
    intro member
    cases (Hyper.mem_cells_iff .invalid).mp member
  origin_mem := by
    intro board piece target allowed
    cases allowed
  target_mem := by
    intro board piece target allowed
    cases allowed

theorem Shipped.bounded (rules : RuleSet) (shipped : rules.Shipped) : rules.Bounded := by
  cases shipped with
  | flat => exact bounded_flat
  | hyper => exact bounded_hyper

/-- The players have no part in it. -/
theorem Bounded.withColours (rules : RuleSet) (bounded : rules.Bounded) (colours : List Colour) :
    (rules.withColours colours).Bounded :=
  ⟨bounded.nodup_cells, bounded.valid_cells, bounded.origin_mem, bounded.target_mem⟩

end RuleSet

end GridChess
