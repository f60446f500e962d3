import GridChess.Proofs.Displacement.Width
import GridChess.Proofs.Flat.Sight
import GridChess.Proofs.MoveTree.Growth
import GridChess.Proofs.RuleSet.Checked

/-!
# The flat board in eight bits

The decision of the flat board once more, in signed integers of a fixed width and in the order in
which it computes: whatever leaves the range gives nothing. Cells are compared with the board before
anything is computed from them, so no displacement is longer than the board is wide, and the walk
goes along lines only, whose cells are on the board. Hence eight bits are enough, wherever pieces
and targets are (`flat_fits_octets`). Counts of lines are another matter: they grow beyond the
integers of any width.
-/

set_option autoImplicit false

namespace GridChess.RuleSet.Flat

open Displacement

/-- A decision, with the cells that were visited for it. -/
structure Verdict where
  allowed : Bool
  visited : List Position
  deriving DecidableEq, Repr

/-- Decided without a walk. -/
def Verdict.plain (allowed : Bool) : Verdict := ⟨allowed, []⟩

section

variable (w : Width)

def pawnManner? (colour : Colour) (rank dx dy : Int) (captures : Bool) : Option Manner :=
  let advances : Bool :=
    match colour with
    | .white => 0 < dy
    | .black => dy < 0
  if !advances then some .impossible
  else if captures then do
    if (← w.length? dx) = 1 then return .leapIf ((← w.length? dy) = 1)
    else return .impossible
  else do
    let along ← w.length? dy
    if dx = 0 && along = 1 then return .leap
    else return .slideIf (dx = 0 && along = 2 && rank = pawnRank colour)

def manner? (piece : Piece) (rank dx dy : Int) (captures : Bool) : Option Manner :=
  match piece.kind with
  | .king => do
    if (← w.length? dx) ≤ 1 then return .leapIf ((← w.length? dy) ≤ 1)
    else return .impossible
  | .knight => do
    let across ← w.length? dx
    let along ← w.length? dy
    return .leapIf ((across = 1 && along = 2) || (across = 2 && along = 1))
  | .queen =>
    if isStraight [dx, dy] then some .slide
    else (w.isDiagonal? [dx, dy]).map Manner.slideIf
  | .bishop => (w.isDiagonal? [dx, dy]).map Manner.slideIf
  | .rook => some (.slideIf (isStraight [dx, dy]))
  | .pawn => pawnManner? w piece.colour rank dx dy captures

def isVacant (board : Board) (cell : List Int) : Bool :=
  !board.isOccupied (.ofCoordinates cell)

/-- Walks up to the first cell that is not empty. -/
def slide? (board : Board) (origin target : List Int) : Option Verdict := do
  let cells ← w.walkThrough? (isVacant board) origin target
  return ⟨cells.all (isVacant board), cells.map .ofCoordinates⟩

def canMove? (board : Board) (piece : Piece) (target : Position) : Option Verdict :=
  match piece.position, target with
  | .flat file rank, .flat file' rank' =>
    if !piece.position.onFlatBoard || !target.onFlatBoard then some (.plain false)
    else do
      let dx ← w.keep? (file' - file)
      let dy ← w.keep? (rank' - rank)
      let occupant := board.at? target
      if (dx = 0 && dy = 0) || occupant.any (·.colour = piece.colour) then return .plain false
      match ← manner? w piece rank dx dy occupant.isSome with
      | .impossible => return .plain false
      | .leap => return .plain true
      | .slide => slide? w board [file, rank] [file', rank']
  | _, _ => some (.plain false)

/-- The decision alone. -/
def decide? (board : Board) (piece : Piece) (target : Position) : Option Bool :=
  (canMove? w board piece target).map Verdict.allowed

theorem pawnManner?_eq_some (colour : Colour) (rank dx dy : Int) (captures : Bool)
    (across : w.Holds dx.natAbs) (along : w.Holds dy.natAbs) :
    pawnManner? w colour rank dx dy captures = some (pawnManner colour rank dx dy captures) := by
  have advances : (match colour with
      | .white => decide (0 < dy)
      | .black => decide (dy < 0)) = decide (¬dy * forward colour ≤ 0) := by
    cases colour <;> simp [forward]
  unfold pawnManner? pawnManner
  rw [w.length?_eq_some dx across, w.length?_eq_some dy along]
  simp only [advances]
  by_cases ahead : dy * forward colour ≤ 0
  · simp [ahead]
  · cases captures with
    | true => by_cases one : dx.natAbs = 1 <;> simp [ahead, one, Manner.leapIf]
    | false => by_cases single : dx = 0 ∧ dy.natAbs = 1 <;> simp [ahead, single]

theorem manner?_eq_some (piece : Piece) (rank dx dy : Int) (captures : Bool)
    (across : w.Holds dx.natAbs) (along : w.Holds dy.natAbs) :
    manner? w piece rank dx dy captures = some (manner piece rank dx dy captures) := by
  have diagonal : w.isDiagonal? [dx, dy] = some (isDiagonal [dx, dy]) :=
    w.isDiagonal?_eq_some [dx, dy]
      (List.forall_mem_cons.mpr ⟨across, List.forall_mem_cons.mpr ⟨along, nofun⟩⟩)
  unfold manner? manner
  rw [w.length?_eq_some dx across, w.length?_eq_some dy along, diagonal]
  cases piece.kind with
  | king => by_cases near : dx.natAbs ≤ 1 <;> simp [near, Manner.leapIf]
  | knight => rfl
  | queen => by_cases straight : isStraight [dx, dy] = true <;> simp [straight, Manner.slideIf]
  | bishop => rfl
  | rook => rfl
  | pawn => exact pawnManner?_eq_some w piece.colour rank dx dy captures across along

end

/-- The cells that are looked at on the way. If a piece may go to the target by sliding there, these
are the cells strictly between the two, up to the first that is not empty, and else there are
none. -/
def lookedAt (board : Board) (piece : Piece) (target : Position) : List Position :=
  match piece.position, target with
  | .flat file rank, .flat file' rank' =>
    let occupant := board.at? target
    if (piece.position.onFlatBoard && target.onFlatBoard &&
        (file' - file ≠ 0 || rank' - rank ≠ 0) &&
        occupant.all (·.colour ≠ piece.colour)) = true ∧
        manner piece rank (file' - file) (rank' - rank) occupant.isSome = .slide then
      (visited (isVacant board) (between [file, rank] [file', rank'])).map .ofCoordinates
    else []
  | _, _ => []

section

variable (file rank file' rank' : Int)
variable (first : (Position.flat file rank).onFlatBoard = true)
variable (last : (Position.flat file' rank').onFlatBoard = true)

include first last in
/-- No displacement on the board has an axis longer than seven cells. -/
theorem natAbs_le_seven : (file' - file).natAbs ≤ 7 ∧ (rank' - rank).natAbs ≤ 7 := by
  obtain ⟨_, _, _, _⟩ := (onFlatBoard_iff file rank).mp first
  obtain ⟨_, _, _, _⟩ := (onFlatBoard_iff file' rank').mp last
  omega

include first last in
theorem onFlatBoard_of_mem_between (aligned : Aligned (file' - file) (rank' - rank))
    (cell : List Int) (member : cell ∈ between [file, rank] [file', rank']) :
    (Position.ofCoordinates cell).onFlatBoard = true := by
  obtain ⟨k, _, inside, rfl⟩ := (mem_between_iff cell [file, rank] [file', rank']).mp member
  have delta : difference [file, rank] [file', rank'] = [file' - file, rank' - rank] := rfl
  rw [delta, steps_pair] at inside
  rw [← target_cell file rank file' rank'] at last
  exact passed_onFlatBoard file rank _ _ k aligned inside first last

theorem coordinates_within (cell : List Int)
    (board : (Position.ofCoordinates cell).onFlatBoard = true) (c : Int) (member : c ∈ cell) :
    0 ≤ c ∧ c < 8 := by
  match cell with
  | [] => cases member
  | [_] => cases board
  | [f, r] =>
    have inside := (onFlatBoard_iff f r).mp board
    simp only [List.mem_cons, List.not_mem_nil, or_false] at member
    omega
  | [_, _, _] => cases board
  | [_, _, _, _] => cases board
  | _ :: _ :: _ :: _ :: _ :: _ => cases board

end

/-- Integers that hold the longest displacement on the board. -/
def Wide (w : Width) : Prop := 7 ≤ w.most

theorem holds_of_natAbs_le (w : Width) (wide : Wide w) (d : Int) (short : d.natAbs ≤ 7) :
    w.Holds d ∧ w.Holds d.natAbs := by
  unfold Wide at wide
  unfold Width.Holds
  omega

section

variable (w : Width) (wide : Wide w) (board : Board) (piece : Piece)

include wide in
theorem slide?_eq_some (file rank file' rank' : Int)
    (first : (Position.flat file rank).onFlatBoard = true)
    (last : (Position.flat file' rank').onFlatBoard = true)
    (aligned : Aligned (file' - file) (rank' - rank)) :
    slide? w board [file, rank] [file', rank'] =
      some ⟨isClear board [file, rank] [file', rank'],
        (visited (isVacant board) (between [file, rank] [file', rank'])).map .ofCoordinates⟩ := by
  obtain ⟨across, along⟩ := natAbs_le_seven file rank file' rank' first last
  have delta : difference [file, rank] [file', rank'] = [file' - file, rank' - rank] := rfl
  have fits : ∀ d ∈ difference [file, rank] [file', rank'], w.Holds d ∧ w.Holds d.natAbs := by
    rw [delta]
    intro d member
    simp only [List.mem_cons, List.not_mem_nil, or_false] at member
    rcases member with rfl | rfl
    · exact holds_of_natAbs_le w wide _ across
    · exact holds_of_natAbs_le w wide _ along
  have walked := w.walkThrough?_eq [file, rank] [file', rank'] (fun d member => (fits d member).2)
    (fun d member => (fits d member).1) (isVacant board)
  rw [if_pos] at walked
  · unfold slide?
    rw [walked]
    exact congrArg (fun clear => some (Verdict.mk clear _)) (all_visited (isVacant board) _)
  · intro cell member c coordinate
    have inside := onFlatBoard_of_mem_between file rank file' rank' first last aligned cell
      (visited_subset (isVacant board) _ member)
    have bounds := coordinates_within cell inside c coordinate
    exact (holds_of_natAbs_le w wide c (by omega)).1

/-- Nothing that the target says against a move involves arithmetic. -/
theorem refused_eq_not_open (dx dy : Int) (occupant : Option Piece) :
    ((dx = 0 && dy = 0) || occupant.any (·.colour = piece.colour)) =
      !((dx ≠ 0 || dy ≠ 0) && occupant.all (·.colour ≠ piece.colour)) := by
  cases occupant <;> simp

include wide in
theorem canMove?_flat_eq_some (file rank file' rank' : Int)
    (stands : piece.position = .flat file rank) :
    canMove? w board piece (.flat file' rank') =
      some ⟨canMove board piece (.flat file' rank'),
        lookedAt board piece (.flat file' rank')⟩ := by
  unfold canMove? canMove lookedAt
  rw [stands]
  dsimp only
  cases first : (Position.flat file rank).onFlatBoard with
  | false => rfl
  | true =>
    cases last : (Position.flat file' rank').onFlatBoard with
    | false => rfl
    | true =>
      obtain ⟨across, along⟩ := natAbs_le_seven file rank file' rank' first last
      have files := holds_of_natAbs_le w wide _ across
      have ranks := holds_of_natAbs_le w wide _ along
      have manners := manner?_eq_some w piece rank _ _
        (board.at? (.flat file' rank')).isSome files.2 ranks.2
      rw [w.keep?_eq_some _ files.1, w.keep?_eq_some _ ranks.1]
      dsimp only [bind, Option.bind]
      rw [refused_eq_not_open, manners, Bool.true_and, Bool.true_and]
      cases (decide (file' - file ≠ 0) || decide (rank' - rank ≠ 0)) &&
          (board.at? (.flat file' rank')).all (·.colour ≠ piece.colour) with
      | false => rfl
      | true =>
        cases slides : manner piece rank (file' - file) (rank' - rank)
            (board.at? (.flat file' rank')).isSome with
        | impossible => rfl
        | leap => rfl
        | slide =>
          exact slide?_eq_some w wide board file rank file' rank' first last
            (aligned_of_manner piece rank _ _ _ slides)

include wide in
/-- A width that holds the longest displacement is enough to decide as in unbounded integers. -/
theorem canMove?_eq_some (target : Position) :
    canMove? w board piece target =
      some ⟨canMove board piece target, lookedAt board piece target⟩ := by
  by_cases cells : ∃ file rank file' rank',
      piece.position = .flat file rank ∧ target = .flat file' rank'
  · obtain ⟨file, rank, file', rank', stands, rfl⟩ := cells
    exact canMove?_flat_eq_some w wide board piece file rank file' rank' stands
  · have refused : canMove board piece target = false :=
      Bool.eq_false_iff.mpr fun allowed => cells (canMove_cells board piece target allowed)
    unfold canMove? lookedAt
    split
    · rename_i file rank file' rank' stands
      exact absurd ⟨file, rank, file', rank', stands, rfl⟩ cells
    · rw [refused]
      rfl

theorem lookedAt_onFlatBoard (target : Position) (p : Position)
    (looked : p ∈ lookedAt board piece target) : p.onFlatBoard = true := by
  unfold lookedAt at looked
  split at looked
  · rename_i file rank file' rank' stands
    rw [stands] at looked
    dsimp only at looked
    split at looked
    · rename_i slides
      simp only [Bool.and_eq_true] at slides
      obtain ⟨⟨⟨⟨first, last⟩, _⟩, _⟩, slides⟩ := slides
      obtain ⟨cell, seen, rfl⟩ := List.mem_map.mp looked
      exact onFlatBoard_of_mem_between file rank file' rank' first last
        (aligned_of_manner piece rank _ _ _ slides) cell (visited_subset (isVacant board) _ seen)
    · exact absurd looked List.not_mem_nil
  · exact absurd looked List.not_mem_nil

end

/-- The decision in a width that is wide enough. -/
theorem decides_decide? (w : Width) (wide : Wide w) : flat.Decides (decide? w) := by
  intro board piece target
  unfold decide?
  rw [canMove?_eq_some w wide board piece target]
  rfl

theorem wide_octet : Wide .octet := by
  unfold Wide
  decide

/-- Eight bits are enough to decide which moves are allowed, for every board, every piece and every
target, and for all that follows from the decisions. The cells that are visited for a decision are
those between the two ends up to the first that is not empty, and all of them are on the board.
Counts of lines are kept in integers of their own, and leave these only if the exact counts do. -/
theorem flat_fits_octets (board : Board) (piece : Piece) (target : Position) :
    canMove? .octet board piece target =
      some ⟨flat.canMove board piece target, lookedAt board piece target⟩ ∧
    (∀ p ∈ lookedAt board piece target, p.onFlatBoard = true) ∧
    flat.reachable? (decide? .octet) board piece = some (flat.reachable board piece) ∧
    (∀ time, flat.legalMoves? (decide? .octet) board time = some (flat.legalMoves board time)) ∧
    (∀ move, flat.applyMove? (decide? .octet) board move = some (flat.applyMove board move)) ∧
    (∀ most depth, flat.countNodes? (decide? .octet) most depth board =
      if (flat.countNodes depth board).Fits most then some (flat.countNodes depth board)
      else none) := by
  have decides := decides_decide? .octet wide_octet
  exact ⟨canMove?_eq_some .octet wide_octet board piece target,
    lookedAt_onFlatBoard board piece target,
    flat.reachable?_eq_some _ decides board piece, flat.legalMoves?_eq_some _ decides board,
    flat.applyMove?_eq_some _ decides board,
    fun most depth => flat.countNodes?_eq_keep? _ decides most depth board⟩

/-! ## Counts that do not fit -/

/-- The cells around the corner of a colour. -/
def corner : Colour → List Position
  | .white => [.flat 0 0, .flat 1 0, .flat 0 1, .flat 1 1]
  | .black => [.flat 6 6, .flat 7 6, .flat 6 7, .flat 7 7]

/-- Nothing but two kings. That of the colour to move is listed first, as it is after a move. -/
def kings (turn : Colour) (own other : Position) : Board :=
  ⟨[⟨.king, turn, own⟩, ⟨.king, turn.opposite, other⟩], turn⟩

/-- Both kings are in their corners. -/
def kingsInCorners : List Board :=
  [Colour.white, .black].flatMap fun turn =>
    (corner turn).flatMap fun own => (corner turn.opposite).map (kings turn own)

/-- A king has three moves within its corner. -/
theorem three_le_kings (board : Board) (inside : kingsInCorners.contains board = true) :
    3 ≤ (flat.legalMoves board .zero).countP (flat.staysIn kingsInCorners.contains board) := by
  have each : ∀ board ∈ kingsInCorners,
      3 ≤ (flat.legalMoves board .zero).countP (flat.staysIn kingsInCorners.contains board) := by
    decide +kernel
  exact each board (List.contains_iff_mem.mp inside)

/-- Two kings have more than 2^64 lines of 41 moves. -/
theorem count_of_kings_overflows :
    18446744073709551615 < (flat.countNodes 41 (kings .white (.flat 0 0) (.flat 7 7))).all ∧
      flat.countNodes? (decide? .octet) 18446744073709551615 41
        (kings .white (.flat 0 0) (.flat 7 7)) = none := by
  have grown := flat.pow_le_all_countNodes kingsInCorners.contains 3 three_le_kings 41
    (kings .white (.flat 0 0) (.flat 7 7)) (by decide)
  have many : 18446744073709551615 < Nat.pow 3 41 := by decide
  have overflows := Nat.lt_of_lt_of_le many grown
  refine ⟨overflows, ?_⟩
  rw [flat.countNodes?_eq_keep? _ (decides_decide? .octet wide_octet)]
  exact if_neg fun fits => Nat.not_le_of_lt overflows fits.1

/-- Off the board even the file of a rook would be too far away for eight bits. -/
example : canMove? .octet ⟨[], .white⟩ ⟨.rook, .white, .flat (-128) 0⟩ (.flat 7 0) =
    some (.plain false) ∧ Width.octet.difference? [-128, 0] [7, 0] = none := by
  decide

end GridChess.RuleSet.Flat
