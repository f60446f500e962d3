import GridChess.Picture
import GridChess.Proofs.Board.Lookup
import GridChess.Proofs.Position.Text
import GridChess.Proofs.RuleSet.Geometry
import GridChess.Proofs.Text.Lines

/-!
# Listings

The pieces of a hyper-board are listed one a line, in the order of the cells
(`listsPieces_listingLines`). The line of a piece on the board is unbroken and tells the piece
(`pieceLine_injective`).
-/

set_option autoImplicit false

namespace GridChess

open Text

/-! ## Texts without line breaks -/

theorem Position.unbroken_axisLetter (base : Char) (size : Nat) (c : Int)
    (inside : within size c = true) (ascii : base.toNat + size ≤ 128)
    (printed : 10 < base.toNat) : IsUnbroken [axisLetter base c] := by
  refine .singleton _ fun same => ?_
  have letter := axisLetter_of_within base size c inside ascii
  have bounds := within_iff.mp inside
  have code : ('\n' : Char).toNat = 10 := rfl
  rw [same] at letter
  omega

/-- Positions off the board are not always written on one line. -/
theorem Position.unbroken_chars (p : Position) (inside : p.onBoard = true) :
    IsUnbroken p.chars := by
  rcases Bool.or_eq_true_iff.mp inside with onFlat | onHyper
  · cases p with
    | flat file rank =>
      rw [chars_flat file rank onFlat]
      obtain ⟨wide, high⟩ := Bool.and_eq_true_iff.mp onFlat
      exact (unbroken_axisLetter 'a' flatSize file wide (by decide) (by decide)).append _ _
        (unbroken_axisLetter '1' flatSize rank high (by decide) (by decide))
    | hyper x y z w => cases onFlat
    | invalid => cases onFlat
  · cases p with
    | hyper x y z w =>
      rw [chars_hyper x y z w onHyper]
      simp only [onHyperBoard, Bool.and_eq_true, and_assoc] at onHyper
      obtain ⟨hx, hy, hz, hw⟩ := onHyper
      exact (unbroken_axisLetter 'a' hyperSize x hx (by decide) (by decide)).append _ _
        ((unbroken_axisLetter '1' hyperSize y hy (by decide) (by decide)).append _ _
          ((unbroken_axisLetter 'm' hyperSize z hz (by decide) (by decide)).append _ _
            (unbroken_axisLetter '1' hyperSize w hw (by decide) (by decide))))
    | flat file rank => cases onHyper
    | invalid => cases onHyper

theorem Position.length_chars_hyper (p : Position) (inside : p.onHyperBoard = true) :
    p.chars.length = 4 := by
  cases p with
  | hyper x y z w =>
    rw [chars_hyper x y z w inside]
    rfl
  | flat file rank => cases inside
  | invalid => cases inside

/-! ## Names of colours -/

theorem Colour.length_name (colour : Colour) : colour.name.toList.length = 5 := by
  cases colour <;> decide

theorem Colour.eq_of_name (colour colour' : Colour)
    (same : colour.name.toList = colour'.name.toList) : colour = colour' := by
  revert same
  cases colour <;> cases colour' <;> decide

namespace Picture

/-! ## Lines of pieces -/

def pieceLine (piece : Piece) : List Char :=
  "Position ".toList ++ (piece.position.chars ++ (" has ".toList ++
    (piece.colour.name.toList ++ [' ', piece.kind.blackGlyph])))

/-- The pieces that are found on some cells, in the order of the cells. -/
def occupants (cells : List Position) (board : Board) : List Piece := cells.filterMap board.at?

theorem occupants_cons_of_none (p : Position) (cells : List Position) (board : Board)
    (found : board.at? p = none) : occupants (p :: cells) board = occupants cells board :=
  List.filterMap_cons_none found

theorem occupants_cons_of_some (p : Position) (cells : List Position) (board : Board)
    (piece : Piece) (found : board.at? p = some piece) :
    occupants (p :: cells) board = piece :: occupants cells board :=
  List.filterMap_cons_some found

theorem listing_cons (p : Position) (cells : List Position) (board : Board) :
    listing (p :: cells) board = listing [p] board ++ listing cells board := by
  simp only [listing, List.flatMap_cons, List.flatMap_nil, List.append_nil]

theorem listing_singleton (p : Position) (board : Board) (piece : Piece)
    (found : board.at? p = some piece) : listing [p] board = pieceLine piece ++ ['\n'] := by
  obtain rfl := (board.mem_of_at? p piece found).2.1
  have last : [' ', piece.kind.blackGlyph, '\n'] = [' ', piece.kind.blackGlyph] ++ ['\n'] := rfl
  unfold listing pieceLine
  simp only [found, last, List.flatMap_cons, List.flatMap_nil, List.append_nil]
  simp only [List.append_assoc]

theorem listing_eq (cells : List Position) (board : Board) :
    listing cells board = unlines ((occupants cells board).map pieceLine) := by
  induction cells with
  | nil => rfl
  | cons p cells ih =>
    rw [listing_cons, ih]
    cases found : board.at? p with
    | none =>
      rw [occupants_cons_of_none p cells board found]
      simp only [listing, found, List.flatMap_cons, List.flatMap_nil, List.append_nil,
        List.nil_append]
    | some piece =>
      rw [occupants_cons_of_some p cells board piece found,
        listing_singleton p board piece found, List.map_cons, unlines_cons, List.append_assoc,
        List.singleton_append]

theorem positions_occupants (cells : List Position) (board : Board) :
    (occupants cells board).map Piece.position = cells.filter board.isOccupied := by
  induction cells with
  | nil => rfl
  | cons p cells ih =>
    cases found : board.at? p with
    | none =>
      rw [occupants_cons_of_none p cells board found, ih,
        List.filter_cons_of_neg (by simp [Board.isOccupied, found])]
    | some piece =>
      have stands := (board.mem_of_at? p piece found).2.1
      rw [occupants_cons_of_some p cells board piece found, List.map_cons, stands, ih,
        List.filter_cons_of_pos (by simp [Board.isOccupied, found])]

theorem mem_occupants_iff (cells : List Position) (valid : .invalid ∉ cells) (board : Board)
    (apart : board.Apart) (piece : Piece) :
    piece ∈ occupants cells board ↔ piece ∈ board.pieces ∧ piece.position ∈ cells := by
  unfold occupants
  rw [List.mem_filterMap]
  constructor
  · rintro ⟨p, listed, found⟩
    obtain ⟨member, rfl, _⟩ := board.mem_of_at? p piece found
    exact ⟨member, listed⟩
  · rintro ⟨member, listed⟩
    exact ⟨piece.position, listed,
      board.at?_of_mem piece apart member fun same => valid (same ▸ listed)⟩

/-- These lines show a hyper-board: every piece on the board has one line, in the order of the
cells, and there are no other lines. -/
def ListsPieces (board : Board) (lines : List (List Char)) : Prop :=
  ∃ shown : List Piece, lines = shown.map pieceLine ∧
    (shown.map Piece.position).Sublist RuleSet.Hyper.cells ∧
    ∀ piece, piece ∈ shown ↔ piece ∈ board.pieces ∧ piece.position ∈ RuleSet.Hyper.cells

def listingLines (board : Board) : List (List Char) :=
  (occupants RuleSet.Hyper.cells board).map pieceLine

theorem invalid_notMem_cells : .invalid ∉ RuleSet.Hyper.cells :=
  fun listed => absurd ((RuleSet.Hyper.mem_cells_iff _).mp listed) (by decide)

theorem listsPieces_listingLines (board : Board) (apart : board.Apart) :
    ListsPieces board (listingLines board) := by
  refine ⟨occupants RuleSet.Hyper.cells board, rfl, ?_, ?_⟩
  · rw [positions_occupants]
    exact List.filter_sublist
  · exact mem_occupants_iff _ invalid_notMem_cells board apart

/-! ## Each line has its piece -/

/-- On the hyper-board, the line of a piece tells the piece. -/
theorem pieceLine_injective (piece piece' : Piece)
    (inside : piece.position.onHyperBoard = true)
    (inside' : piece'.position.onHyperBoard = true)
    (same : pieceLine piece = pieceLine piece') : piece = piece' := by
  have widths : piece.position.chars.length = piece'.position.chars.length :=
    (Position.length_chars_hyper _ inside).trans (Position.length_chars_hyper _ inside').symm
  obtain ⟨cells, rest⟩ := List.append_inj (List.append_cancel_left same) widths
  have position := Position.eq_of_chars_hyper _ _ inside' cells
  obtain ⟨names, glyphs⟩ := List.append_inj (List.append_cancel_left rest)
    ((Colour.length_name _).trans (Colour.length_name _).symm)
  have colour := Colour.eq_of_name _ _ names
  have black : piece.kind.glyph .black = piece'.kind.glyph .black :=
    List.head_eq_of_cons_eq (List.tail_eq_of_cons_eq glyphs)
  have kind := (Kind.glyph_injective black).1
  cases piece
  cases piece'
  cases position
  cases colour
  cases kind
  rfl

/-- A listing tells what stands on each cell. -/
theorem ListsPieces.mem_iff (board : Board) (lines : List (List Char))
    (lists : ListsPieces board lines) (piece : Piece)
    (listed : piece.position ∈ RuleSet.Hyper.cells) :
    piece ∈ board.pieces ↔ pieceLine piece ∈ lines := by
  obtain ⟨shown, rfl, _, member⟩ := lists
  rw [List.mem_map]
  constructor
  · intro stands
    exact ⟨piece, (member piece).mpr ⟨stands, listed⟩, rfl⟩
  · rintro ⟨other, written, same⟩
    obtain ⟨stands, listed'⟩ := (member other).mp written
    rw [← pieceLine_injective other piece ((RuleSet.Hyper.mem_cells_iff _).mp listed')
      ((RuleSet.Hyper.mem_cells_iff _).mp listed) same]
    exact stands

theorem listingLines_congr (board board' : Board)
    (same : ∀ p ∈ RuleSet.Hyper.cells, board.at? p = board'.at? p) :
    listingLines board = listingLines board' := by
  unfold listingLines occupants
  rw [List.filterMap_congr same]

theorem unbroken_pieceLine (piece : Piece) (inside : piece.position.onBoard = true) :
    IsUnbroken (pieceLine piece) := by
  have start : IsUnbroken "Position ".toList := by decide
  have middle : IsUnbroken " has ".toList := by decide
  have colour : IsUnbroken piece.colour.name.toList := by cases piece.colour <;> decide
  have kind : IsUnbroken [' ', piece.kind.blackGlyph] := by cases piece.kind <;> decide
  exact start.append _ _ ((piece.position.unbroken_chars inside).append _ _
    (middle.append _ _ (colour.append _ _ kind)))

theorem unbroken_listingLines (board : Board) : ∀ line ∈ listingLines board, IsUnbroken line := by
  intro line member
  obtain ⟨piece, shown, rfl⟩ := List.mem_map.mp member
  obtain ⟨p, listed, found⟩ := List.mem_filterMap.mp shown
  obtain rfl := (board.mem_of_at? p piece found).2.1
  have inside := (RuleSet.Hyper.mem_cells_iff _).mp listed
  exact unbroken_pieceLine piece (Bool.or_eq_true_iff.mpr (Or.inr inside))

end Picture

end GridChess
