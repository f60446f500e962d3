import GridChess.Proofs.Board.Relocate
import GridChess.Proofs.Match.Apply

/-!
# Applying moves under any rules

What a rule set does with a move depends on its decision only, whatever that decision and whoever
its players are. A move that is allowed relocates the piece on its origin (`Relocates`), and hands
the turn on in the order of the players (`Follows`). This includes moves that orthodox rules never
allow: to the cell where the piece stands, to the other board, or to no cell at all.
-/

set_option autoImplicit false

namespace GridChess

/-! ## Turns -/

/-- The colour whose turn comes after a colour: the one after its first place in the order of the
players, which starts again at its end, or its opposite if it does not play. -/
structure Follows (colours : List Colour) (current next : Colour) : Prop where
  listed : ∀ i, colours[i]? = some current → (∀ j, j < i → colours[j]? ≠ some current) →
    colours[(i + 1) % colours.length]? = some next
  unlisted : current ∉ colours → next = current.opposite

theorem idxOf?_eq_first (colours : List Colour) (current : Colour) (i : Nat)
    (here : colours[i]? = some current)
    (first : ∀ j, j < i → colours[j]? ≠ some current) : colours.idxOf? current = some i := by
  obtain ⟨inside, same⟩ := List.getElem?_eq_some_iff.mp here
  refine List.idxOf?_eq_some_iff.mpr ⟨inside, same, ?_⟩
  intro j before there
  exact first j before (List.getElem?_eq_some_iff.mpr ⟨Nat.lt_trans before inside, there⟩)

theorem follows_nextPlayer (colours : List Colour) (current : Colour) :
    Follows colours current (nextPlayer colours current) where
  listed := by
    intro i here first
    obtain ⟨inside, _⟩ := List.getElem?_eq_some_iff.mp here
    -- A list with a place in it has a positive length, so the rest stays below that length.
    have next : (i + 1) % colours.length < colours.length :=
      Nat.mod_lt _ (Nat.lt_of_le_of_lt (Nat.zero_le i) inside)
    unfold nextPlayer
    rw [idxOf?_eq_first colours current i here first]
    dsimp only
    rw [List.getElem?_eq_getElem next, Option.getD_some]
  unlisted := by
    intro absent
    unfold nextPlayer
    rw [List.idxOf?_eq_none_iff.mpr absent]

/-! ## Boards -/

/-- A piece that is taken off a board and put on it again leaves the size as it was, and a piece
on another target is lost. -/
theorem Board.size_relocate (board : Board) (apart : board.Apart) (origin target : Position)
    (turn : Colour) (piece : Piece) (found : board.at? origin = some piece) :
    (board.relocate origin target turn).size =
      if board.isOccupied target ∧ target ≠ origin then board.size - 1 else board.size := by
  have left : (board.relocate origin target turn).size =
      (board.staying origin target).length + 1 := by
    unfold size
    rw [board.pieces_relocate origin target turn piece found, List.length_append,
      List.length_singleton]
  rw [left]
  by_cases stays : target = origin
  · subst stays
    have split := List.filter_append_perm (·.position.sameCell target) board.pieces
    have lengths := split.length_eq
    rw [board.filter_sameCell apart target, found, List.length_append] at lengths
    rw [if_neg (fun both => both.2 rfl)]
    unfold staying size
    simp only [Bool.and_self]
    simp only [Option.toList_some, List.length_singleton] at lengths
    omega
  · have lengths := (board.perm_staying apart origin target (Ne.symm stays)).length_eq
    rw [found, List.length_append, List.length_append] at lengths
    unfold isOccupied size
    cases taken : board.at? target with
    | none =>
      rw [taken] at lengths
      simpa [Nat.add_comm] using lengths.symm
    | some other =>
      rw [taken] at lengths
      simp only [Option.toList_some, List.length_singleton] at lengths
      rw [if_pos ⟨rfl, stays⟩]
      omega

namespace RuleSet

/-- All that a move of the piece changes, and what it leaves as it was. -/
structure Relocates (rules : RuleSet) (board next : Board) (piece : Piece) (move : Move) :
    Prop where
  /-- The pieces on neither cell keep their order, and the one that moved goes last. -/
  pieces : next.pieces =
    board.staying move.origin move.target ++ [{ piece with position := move.target }]
  apart : next.Apart
  target : move.target ≠ .invalid →
    next.at? move.target = some { piece with position := move.target }
  origin : move.origin ≠ move.target → next.at? move.origin = none
  elsewhere : ∀ p, p.sameCell move.origin = false → p.sameCell move.target = false →
    next.at? p = board.at? p
  size : next.size =
    if board.isOccupied move.target ∧ move.target ≠ move.origin then board.size - 1
    else board.size
  turn : Follows rules.colours board.turn next.turn

theorem relocates_boardAfter (rules : RuleSet) (board : Board) (apart : board.Apart)
    (piece : Piece) (move : Move) (found : board.at? move.origin = some piece) :
    rules.Relocates board (rules.boardAfter board move) piece move where
  pieces := board.pieces_relocate move.origin move.target _ piece found
  apart := board.apart_relocate apart move.origin move.target _
  target := by
    intro valid
    have moved := board.at?_relocate_target move.origin move.target
      (nextPlayer rules.colours board.turn) valid
    rw [found] at moved
    exact moved
  origin := by
    intro differ
    have left := board.at?_relocate_of_ne move.origin move.target move.origin
      (nextPlayer rules.colours board.turn) differ
    rw [if_pos rfl] at left
    exact left
  elsewhere := by
    intro p away away'
    by_cases nowhere : p = .invalid
    · rw [nowhere, Board.at?_invalid, Board.at?_invalid]
    · have differ : ∀ q, p.sameCell q = false → p ≠ q := by
        rintro q apart rfl
        rw [Position.sameCell_iff.mpr ⟨rfl, nowhere⟩] at apart
        cases apart
      have same := board.at?_relocate_of_ne move.origin move.target p
        (nextPlayer rules.colours board.turn) (differ _ away')
      rw [if_neg (differ _ away)] at same
      exact same
  size := board.size_relocate apart move.origin move.target _ piece found
  turn := follows_nextPlayer rules.colours board.turn

/-- Under any rules and with any players, a move is made if and only if there is a piece on its
origin that the rules let go to its target. All other moves are refused by their cells. A move
that is made relocates the piece, and nothing else changes but the turn. -/
theorem applyMove_relocates (rules : RuleSet) (board : Board) (apart : board.Apart)
    (move : Move) :
    ((∃ next, rules.applyMove board move = .ok next) ↔
      ∃ piece, board.at? move.origin = some piece ∧
        rules.canMove board piece move.target = true) ∧
    ((¬∃ next, rules.applyMove board move = .ok next) →
      rules.applyMove board move = .error (.illegalMove move.origin move.target)) ∧
    (∀ next, rules.applyMove board move = .ok next →
      ∃ piece, board.at? move.origin = some piece ∧ rules.Relocates board next piece move) := by
  refine ⟨?_, ?_, ?_⟩
  · constructor
    · rintro ⟨next, applied⟩
      obtain ⟨piece, found, allowed, _⟩ := (rules.applyMove_eq_ok_iff board next move).mp applied
      exact ⟨piece, found, allowed⟩
    · rintro ⟨piece, found, allowed⟩
      exact ⟨_, (rules.applyMove_eq_ok_iff board _ move).mpr ⟨piece, found, allowed, rfl⟩⟩
  · intro refused
    cases outcome : rules.applyMove board move with
    | ok next => exact absurd ⟨next, outcome⟩ refused
    | error fault =>
      rw [((rules.applyMove_eq_error_iff board move fault).mp outcome).2]
  · intro next applied
    obtain ⟨piece, found, _, rfl⟩ := (rules.applyMove_eq_ok_iff board next move).mp applied
    exact ⟨piece, found, rules.relocates_boardAfter board apart piece move found⟩

/-- Rules under which every piece may go anywhere, and white has two turns in a row. -/
def lawless : RuleSet where
  name := "Lawless"
  colours := [.white, .white, .black]
  defaultBoard := ⟨[], .white⟩
  cells := []
  readPosition? := fun _ => none
  canMove := fun _ _ _ => true

/-- A king steps off every board, past one that is on none already. It is white's turn again. -/
theorem applyMove_relocates_nowhere :
    Board.Apart ⟨[⟨.king, .white, .flat 4 0⟩, ⟨.king, .black, .invalid⟩], .white⟩ ∧
      ∃ next, lawless.applyMove
          ⟨[⟨.king, .white, .flat 4 0⟩, ⟨.king, .black, .invalid⟩], .white⟩
          ⟨.king, .flat 4 0, .invalid, .zero⟩ = .ok next ∧
        next.at? (.flat 4 0) = none ∧ next.size = 2 ∧ next.turn = .white := by
  have apart : Board.Apart ⟨[⟨.king, .white, .flat 4 0⟩, ⟨.king, .black, .invalid⟩], .white⟩ := by
    decide
  have made := applyMove_relocates lawless _ apart ⟨.king, .flat 4 0, .invalid, .zero⟩
  obtain ⟨next, applied⟩ := made.1.mpr ⟨⟨.king, .white, .flat 4 0⟩, rfl, rfl⟩
  obtain ⟨piece, _, relocates⟩ := made.2.2 next applied
  have again := relocates.turn.listed 0 rfl fun j before => absurd before (Nat.not_lt_zero j)
  exact ⟨apart, next, applied, relocates.origin (by decide), relocates.size,
    (Option.some.inj again).symm⟩

end RuleSet

end GridChess
