import GridChess.Proofs.Board.Lookup

/-!
# Relocating pieces

What a relocation does to the list of pieces. The pieces on neither cell stay, in their order, and
the piece from the origin goes last. On a board whose pieces stand apart nothing else is lost than
the piece on the target (`perm_staying`), and the pieces stand apart again (`apart_relocate`). What
is found on a cell afterwards depends on what was found before only (`at?_relocate_target` and
`at?_relocate_of_ne`).
-/

set_option autoImplicit false

namespace GridChess.Board

/-- The pieces on neither cell, in their order. -/
def staying (board : Board) (origin target : Position) : List Piece :=
  board.pieces.filter fun piece =>
    !piece.position.sameCell origin && !piece.position.sameCell target

theorem pieces_relocate (board : Board) (origin target : Position) (turn : Colour) (piece : Piece)
    (found : board.at? origin = some piece) :
    (board.relocate origin target turn).pieces =
      board.staying origin target ++ [{ piece with position := target }] := by
  unfold relocate staying
  rw [found]
  rfl

theorem mem_staying_iff (board : Board) (origin target : Position) (piece : Piece) :
    piece ∈ board.staying origin target ↔
      piece ∈ board.pieces ∧ piece.position.sameCell origin = false ∧
        piece.position.sameCell target = false := by
  simp [staying]

/-- Whoever stands on a board after a relocation stood there before, or was moved to the target. -/
theorem mem_relocate (board : Board) (origin target : Position) (turn : Colour) (piece : Piece)
    (member : piece ∈ (board.relocate origin target turn).pieces) :
    piece ∈ board.staying origin target ∨
      ∃ moved, board.at? origin = some moved ∧ piece = { moved with position := target } := by
  unfold relocate at member
  rcases List.mem_append.mp member with stays | moved
  · exact Or.inl stays
  · simp only [Option.mem_toList, Option.map_eq_some_iff] at moved
    obtain ⟨mover, found, same⟩ := moved
    exact Or.inr ⟨mover, found, same.symm⟩

theorem apart_relocate (board : Board) (apart : board.Apart) (origin target : Position)
    (turn : Colour) : (board.relocate origin target turn).Apart := by
  refine List.pairwise_append.mpr ⟨List.Pairwise.filter _ apart, ?_, ?_⟩
  · cases board.at? origin with
    | none => exact List.Pairwise.nil
    | some piece => exact List.pairwise_singleton _ _
  · intro stays member moved last
    obtain ⟨_, _, away⟩ := (board.mem_staying_iff origin target stays).mp member
    simp only [Option.mem_toList, Option.map_eq_some_iff] at last
    obtain ⟨piece, _, rfl⟩ := last
    exact away

theorem filter_of_pairwise (pieces : List Piece) (p : Position)
    (apart : pieces.Pairwise fun a b => a.position.sameCell b.position = false) :
    pieces.filter (·.position.sameCell p) = (pieces.find? (·.position.sameCell p)).toList := by
  induction pieces with
  | nil => rfl
  | cons first rest ih =>
    obtain ⟨away, apart⟩ := List.pairwise_cons.mp apart
    by_cases here : first.position.sameCell p = true
    · -- Nobody else stands where the first piece stands.
      have alone : rest.filter (·.position.sameCell p) = [] := by
        rw [List.filter_eq_nil_iff]
        intro other member there
        have same := (Position.sameCell_iff.mp here).1
        have shared := away other member
        rw [same, Position.sameCell_comm, there] at shared
        cases shared
      rw [List.filter_cons, List.find?_cons, if_pos here, alone, here]
      rfl
    · rw [List.filter_cons, List.find?_cons, if_neg here, Bool.eq_false_iff.mpr here]
      exact ih apart

/-- The pieces on a cell are the one that is found there. -/
theorem filter_sameCell (board : Board) (apart : board.Apart) (p : Position) :
    board.pieces.filter (·.position.sameCell p) = (board.at? p).toList :=
  filter_of_pairwise board.pieces p apart

theorem sameCell_disjoint (piece : Piece) (p q : Position) (differ : p ≠ q)
    (here : piece.position.sameCell q = true) : piece.position.sameCell p = false := by
  rw [Bool.eq_false_iff]
  intro there
  exact differ ((Position.sameCell_iff.mp there).1.symm.trans (Position.sameCell_iff.mp here).1)

/-- The pieces are those on the origin, those on the target, and those that stay. -/
theorem perm_staying (board : Board) (apart : board.Apart) (origin target : Position)
    (differ : origin ≠ target) :
    board.pieces.Perm
      ((board.at? origin).toList ++ ((board.at? target).toList ++
        board.staying origin target)) := by
  have onTarget : (board.pieces.filter fun piece => !piece.position.sameCell origin).filter
      (·.position.sameCell target) = (board.at? target).toList := by
    rw [← board.filter_sameCell apart target, List.filter_filter]
    apply List.filter_congr
    intro piece _
    cases here : piece.position.sameCell target with
    | false => rfl
    | true => rw [sameCell_disjoint piece origin target differ here]; rfl
  have onNeither : (board.pieces.filter fun piece => !piece.position.sameCell origin).filter
      (fun piece => !piece.position.sameCell target) = board.staying origin target := by
    unfold staying
    rw [List.filter_filter]
    apply List.filter_congr
    intro piece _
    exact Bool.and_comm _ _
  rw [← onTarget, ← onNeither, ← board.filter_sameCell apart origin]
  have split := List.filter_append_perm (·.position.sameCell origin) board.pieces
  have splitRest := List.filter_append_perm (·.position.sameCell target)
    (board.pieces.filter fun piece => !piece.position.sameCell origin)
  exact split.symm.trans (splitRest.symm.append_left _)

/-- Back on the origin the piece is the one that it was, and the others still stay. -/
theorem pieces_relocate_back (board : Board) (origin target : Position) (turn turn' : Colour)
    (piece : Piece) (found : board.at? origin = some piece)
    (moved : (board.relocate origin target turn).at? target =
      some { piece with position := target }) :
    ((board.relocate origin target turn).relocate target origin turn').pieces =
      board.staying origin target ++ [piece] := by
  obtain ⟨_, stood, _⟩ := board.mem_of_at? origin piece found
  have valid := (mem_of_at? _ target _ moved).2.2
  have stays : (board.relocate origin target turn).staying target origin =
      board.staying origin target := by
    have taken : target.sameCell target = true := Position.sameCell_iff.mpr ⟨rfl, valid⟩
    have left : [({ piece with position := target } : Piece)].filter (fun other =>
        !other.position.sameCell target && !other.position.sameCell origin) = [] := by
      simp [taken]
    change List.filter _ (board.relocate origin target turn).pieces = _
    rw [board.pieces_relocate origin target turn piece found, List.filter_append, left,
      List.append_nil, List.filter_eq_self]
    intro other member
    obtain ⟨_, away, away'⟩ := (board.mem_staying_iff origin target other).mp member
    rw [away, away']
    rfl
  rw [pieces_relocate _ target origin turn' _ moved, stays, ← stood]

/-! ## What is found after a relocation -/

theorem at?_relocate_target (board : Board) (origin target : Position) (turn : Colour)
    (valid : target ≠ .invalid) :
    (board.relocate origin target turn).at? target =
      (board.at? origin).map fun piece => { piece with position := target } := by
  have left : (board.staying origin target).find? (·.position.sameCell target) = none := by
    rw [List.find?_eq_none]
    intro piece member there
    rw [((board.mem_staying_iff origin target piece).mp member).2.2] at there
    cases there
  have here : target.sameCell target = true := Position.sameCell_iff.mpr ⟨rfl, valid⟩
  unfold staying at left
  unfold relocate at?
  rw [List.find?_append, left]
  cases board.pieces.find? (·.position.sameCell origin) with
  | none => rfl
  | some piece => simp [here]

/-- The cells that are neither the target nor the origin keep what stood on them, and the origin
is left empty. -/
theorem at?_relocate_of_ne (board : Board) (origin target p : Position) (turn : Colour)
    (differ : p ≠ target) :
    (board.relocate origin target turn).at? p = if p = origin then none else board.at? p := by
  have moved : (((board.at? origin).map fun piece =>
      ({ piece with position := target } : Piece)).toList).find? (·.position.sameCell p) = none := by
    rw [List.find?_eq_none]
    intro piece member there
    simp only [Option.mem_toList, Option.map_eq_some_iff] at member
    obtain ⟨mover, _, rfl⟩ := member
    exact differ (Position.sameCell_iff.mp there).1.symm
  have stays : (board.staying origin target).find? (·.position.sameCell p) =
      if p = origin then none else board.at? p := by
    unfold staying at?
    rw [List.find?_filter]
    split
    · rename_i same
      subst same
      rw [List.find?_eq_none]
      intro piece _ both
      simp only [Bool.and_eq_true, Bool.not_eq_true', decide_eq_true_eq] at both
      rw [both.2] at both
      cases both.1.1
    · rename_i away
      congr 1
      funext piece
      cases here : piece.position.sameCell p with
      | false => simp
      | true =>
        rw [sameCell_disjoint piece origin p (Ne.symm away) here,
          sameCell_disjoint piece target p (Ne.symm differ) here]
        rfl
  unfold staying at stays
  unfold relocate
  unfold at? at moved stays ⊢
  rw [List.find?_append, moved, stays, Option.or_none]

end GridChess.Board
