import GridChess.Picture
import GridChess.Proofs.Board.Lookup
import GridChess.Proofs.Position.Text
import GridChess.Proofs.RuleSet.Geometry
import GridChess.Proofs.Text.Lines

/-!
# The grid

A flat board is drawn on twelve lines. Every piece on the board is found at the place of its cell,
and no glyph stands anywhere else (`drawsGrid_gridLines`): glyphs are not ASCII, and everything else
in a grid is.
-/

set_option autoImplicit false

namespace GridChess

open Text

/-! ## Searching by place -/

/-- The element at an index has a property. -/
def FoundAt {α : Type} (list : List α) (P : α → Prop) (i : Nat) : Prop :=
  ∃ a, list[i]? = some a ∧ P a

theorem foundAt_map {α β : Type} (list : List α) (f : α → β) (P : β → Prop) (i : Nat) :
    FoundAt (list.map f) P i ↔ FoundAt list (fun a => P (f a)) i := by
  simp [FoundAt]

theorem foundAt_singleton {α : Type} (a : α) (P : α → Prop) (i : Nat) :
    FoundAt [a] P i ↔ i = 0 ∧ P a := by
  cases i with
  | zero => simp [FoundAt]
  | succ i => simp [FoundAt]

/-- What occurs neither before nor after the middle is found in the middle. -/
theorem foundAt_framed {α : Type} (front middle back : List α) (P : α → Prop)
    (clear : ∀ a ∈ front, ¬P a) (clear' : ∀ a ∈ back, ¬P a) (i : Nat) :
    FoundAt (front ++ middle ++ back) P i ↔
      front.length ≤ i ∧ FoundAt middle P (i - front.length) := by
  unfold FoundAt
  rw [List.append_assoc]
  rcases Nat.lt_or_ge i front.length with before | behind
  · rw [List.getElem?_append_left before]
    refine iff_of_false ?_ (fun found => by omega)
    rintro ⟨a, found, holds⟩
    exact clear a (List.mem_of_getElem? found) holds
  · rw [List.getElem?_append_right behind, List.getElem?_append]
    split
    · exact (and_iff_right behind).symm
    · rename_i beyond
      rw [List.getElem?_eq_none (Nat.le_of_not_lt beyond)]
      refine iff_of_false ?_ (fun found => by simp at found)
      rintro ⟨a, found, holds⟩
      exact clear' a (List.mem_of_getElem? found) holds

/-- Among pieces of one width, the quotient tells the piece and the remainder the place in it. -/
theorem foundAt_flatMap {α β : Type} (list : List α) (f : α → List β) (width : Nat)
    (wide : ∀ a, (f a).length = width) (positive : 0 < width) (P : β → Prop) (i : Nat) :
    FoundAt (list.flatMap f) P i ↔
      FoundAt list (fun a => FoundAt (f a) P (i % width)) (i / width) := by
  induction list generalizing i with
  | nil => simp [FoundAt]
  | cons a list ih =>
    rcases Nat.lt_or_ge i width with first | later
    · rw [Nat.mod_eq_of_lt first, Nat.div_eq_of_lt first]
      simp only [FoundAt, List.flatMap_cons, List.getElem?_cons_zero, Option.some.injEq]
      rw [List.getElem?_append_left (by rw [wide]; exact first)]
      simp
    · obtain ⟨rest, rfl⟩ := Nat.exists_eq_add_of_le later
      have next := ih rest
      simp only [FoundAt] at next ⊢
      rw [List.flatMap_cons, List.getElem?_append_right (by rw [wide]; exact later), wide,
        Nat.add_sub_cancel_left, next, Nat.add_mod_left, Nat.add_div_left rest positive,
        List.getElem?_cons_succ]

namespace Position

theorem getElem?_axis_iff (size i : Nat) (c : Int) :
    (axis size)[i]? = some c ↔ within size c = true ∧ i = c.toNat := by
  unfold axis
  rw [List.getElem?_map, Option.map_eq_some_iff, within_iff]
  constructor
  · rintro ⟨n, found, rfl⟩
    obtain ⟨bound, rfl⟩ := List.getElem?_eq_some_iff.mp found
    rw [List.length_range] at bound
    rw [List.getElem_range]
    simp only [Int.ofNat_eq_natCast]
    omega
  · rintro ⟨inside, rfl⟩
    refine ⟨c.toNat, List.getElem?_range (by omega), ?_⟩
    exact Int.toNat_of_nonneg inside.1

theorem getElem?_reverse_axis_iff (size i : Nat) (c : Int) :
    (axis size).reverse[i]? = some c ↔ within size c = true ∧ i = (size - 1 - c).toNat := by
  have length : (axis size).length = size := by simp [axis]
  rcases Nat.lt_or_ge i size with inside | outside
  · rw [List.getElem?_reverse (by rw [length]; exact inside), length, getElem?_axis_iff, within_iff]
    omega
  · rw [List.getElem?_eq_none (by simpa [length] using outside), within_iff]
    simp only [reduceCtorEq, false_iff]
    omega

end Position

/-! ## Glyphs among ASCII characters -/

def Text.IsAscii (text : List Char) : Prop := ∀ c ∈ text, c.toNat < 128

instance (text : List Char) : Decidable (IsAscii text) := List.decidableBAll _ text

theorem Kind.glyph_ge (kind : Kind) (colour : Colour) : 128 ≤ (kind.glyph colour).toNat := by
  cases kind <;> cases colour <;> decide

theorem Text.IsAscii.glyph_notMem (text : List Char) (ascii : IsAscii text) (kind : Kind)
    (colour : Colour) : kind.glyph colour ∉ text := by
  intro member
  have near := ascii _ member
  have far := kind.glyph_ge colour
  omega

/-- A glyph is not found among ASCII characters before and after the middle. -/
theorem foundAt_glyph (front middle back : List Char) (ascii : IsAscii front)
    (ascii' : IsAscii back) (kind : Kind) (colour : Colour) (i : Nat) :
    FoundAt (front ++ middle ++ back) (· = kind.glyph colour) i ↔
      front.length ≤ i ∧ FoundAt middle (· = kind.glyph colour) (i - front.length) := by
  refine foundAt_framed front middle back _ ?_ ?_ i
  · rintro c member rfl
    exact ascii.glyph_notMem front kind colour member
  · rintro c member rfl
    exact ascii'.glyph_notMem back kind colour member

namespace Picture

/-- What stands in the middle of a cell. -/
def symbol (board : Board) (p : Position) : Char :=
  match board.at? p with
  | some piece => piece.kind.glyph piece.colour
  | none => ' '

theorem symbol_eq_glyph_iff (board : Board) (apart : board.Apart) (p : Position)
    (valid : p ≠ .invalid) (kind : Kind) (colour : Colour) :
    symbol board p = kind.glyph colour ↔ ⟨kind, colour, p⟩ ∈ board.pieces := by
  have lookup := board.at?_eq_some_iff p ⟨kind, colour, p⟩ apart
  simp only [valid, ne_eq, not_false_eq_true, and_self, and_true] at lookup
  rw [← lookup]
  unfold symbol
  cases found : board.at? p with
  | none =>
    have far := kind.glyph_ge colour
    refine iff_of_false (fun same => ?_) (by simp)
    rw [← same] at far
    exact absurd far (by decide)
  | some piece =>
    have stands := (board.mem_of_at? p piece found).2.1
    constructor
    · intro same
      obtain ⟨rfl, rfl⟩ := Kind.glyph_injective same
      rw [← stands]
    · intro same
      cases same
      rfl

/-- The characters of a cell before its middle. -/
def cellFront (p : Position) : List Char := (background p.cellColour).toList ++ [' ']

def cellBack : List Char := ' ' :: plain.toList

theorem cell_eq (board : Board) (p : Position) :
    cell board p = cellFront p ++ [symbol board p] ++ cellBack := by
  simp only [cell, cellFront, cellBack, List.append_assoc, List.cons_append, List.nil_append]
  rfl

theorem length_cellFront (p : Position) : (cellFront p).length = 21 := by
  unfold cellFront
  cases p.cellColour <;> decide

theorem length_cell (board : Board) (p : Position) : (cell board p).length = 27 := by
  rw [cell_eq, List.length_append, List.length_append, length_cellFront]
  rfl

/-- A glyph is found in the middle of a cell only. -/
theorem foundAt_cell (board : Board) (p : Position) (kind : Kind) (colour : Colour) (i : Nat) :
    FoundAt (cell board p) (· = kind.glyph colour) i ↔
      i = 21 ∧ symbol board p = kind.glyph colour := by
  have front : IsAscii (cellFront p) := by
    unfold cellFront
    cases p.cellColour <;> decide
  have back : IsAscii cellBack := by decide
  rw [cell_eq, foundAt_glyph _ _ _ front back, foundAt_singleton, length_cellFront, ← and_assoc]
  exact and_congr_left fun _ => by omega

/-! ## The twelve lines -/

def rowFront (rank : Int) : List Char := Numeral.integer (rank + 1) ++ " |".toList

def rowBack (rank : Int) : List Char := "| ".toList ++ Numeral.integer (rank + 1)

def rowCells (board : Board) (rank : Int) : List Char :=
  (Position.axis Position.flatSize).flatMap fun file => cell board (.flat file rank)

/-- The line of a rank without its line break. -/
def row (board : Board) (rank : Int) : List Char :=
  rowFront rank ++ rowCells board rank ++ rowBack rank

def filesRow : List Char :=
  "   ".toList ++ "abcdefgh".toList.flatMap fun file => [' ', file, ' ']

def borderRow : List Char := "  +------------------------+".toList

def gridLines (board : Board) : List (List Char) :=
  [filesRow, borderRow] ++ (Position.axis Position.flatSize).reverse.map (row board) ++
    [borderRow, filesRow]

theorem grid_eq (board : Board) : grid board = unlines (gridLines board) := by
  have rank : rankLine board = fun rank => row board rank ++ ['\n'] := by
    funext rank
    simp [rankLine, row, rowFront, rowBack, rowCells]
  have border : border = borderRow ++ ['\n'] := by decide
  simp only [grid, gridLines, unlines, List.flatMap_append, List.flatMap_map, rank, border,
    List.flatMap_cons, List.flatMap_nil, List.append_nil, List.append_assoc, fileLetters, filesRow]

theorem length_gridLines (board : Board) : (gridLines board).length = 12 := rfl

theorem ascii_label (rank : Int) (inside : Position.within Position.flatSize rank = true) :
    IsAscii (rowFront rank) ∧ IsAscii (rowBack rank) ∧ (rowFront rank).length = 3 := by
  have all : ∀ rank ∈ Position.axis Position.flatSize,
      IsAscii (rowFront rank) ∧ IsAscii (rowBack rank) ∧ (rowFront rank).length = 3 := by decide
  exact all rank ((Position.mem_axis_iff _ _).mpr inside)

/-- The columns of a row in which a glyph is found. -/
theorem foundAt_row (board : Board) (rank : Int)
    (inside : Position.within Position.flatSize rank = true) (kind : Kind) (colour : Colour)
    (column : Nat) :
    FoundAt (row board rank) (· = kind.glyph colour) column ↔
      ∃ file, Position.within Position.flatSize file = true ∧ column = (24 + 27 * file).toNat ∧
        symbol board (.flat file rank) = kind.glyph colour := by
  obtain ⟨front, back, width⟩ := ascii_label rank inside
  rw [row, foundAt_glyph _ _ _ front back, width, rowCells,
    foundAt_flatMap _ _ 27 (fun file => length_cell board _) (by decide)]
  simp only [foundAt_cell]
  simp only [FoundAt, Position.getElem?_axis_iff, Position.within_iff]
  constructor
  · rintro ⟨low, file, ⟨wide, quotient⟩, remainder, shown⟩
    exact ⟨file, wide, by omega, shown⟩
  · rintro ⟨file, wide, rfl, shown⟩
    exact ⟨by omega, file, ⟨wide, by omega⟩, by omega, shown⟩

/-! ## Places of glyphs -/

/-- The character on a line, both counted from zero. -/
def charAt (lines : List (List Char)) (place : Nat × Nat) : Option Char :=
  lines[place.1]?.bind (·[place.2]?)

/-- The line and the column of the middle of a cell of the flat board. The sequences that colour a
cell count like other characters, so it is 27 columns wide. -/
def place? : Position → Option (Nat × Nat)
  | .flat file rank =>
    if (Position.flat file rank).onFlatBoard then
      some ((9 - rank).toNat, (24 + 27 * file).toNat)
    else none
  | _ => none

theorem place?_eq_some_iff (p : Position) (place : Nat × Nat) :
    place? p = some place ↔ ∃ file rank, p = .flat file rank ∧
      Position.within Position.flatSize file = true ∧
      Position.within Position.flatSize rank = true ∧
      place = ((9 - rank).toNat, (24 + 27 * file).toNat) := by
  cases p with
  | flat file rank =>
    simp only [place?, Position.onFlatBoard, Bool.and_eq_true, Option.ite_none_right_eq_some,
      Option.some.injEq, Position.flat.injEq]
    constructor
    · rintro ⟨⟨wide, high⟩, rfl⟩
      exact ⟨file, rank, ⟨rfl, rfl⟩, wide, high, rfl⟩
    · rintro ⟨_, _, ⟨rfl, rfl⟩, wide, high, rfl⟩
      exact ⟨⟨wide, high⟩, rfl⟩
  | hyper x y z w => simp [place?]
  | invalid => simp [place?]

/-- Cells are drawn at different places. -/
theorem place?_injective (p q : Position) (place : Nat × Nat) (first : place? p = some place)
    (second : place? q = some place) : p = q := by
  obtain ⟨file, rank, rfl, wide, high, rfl⟩ := (place?_eq_some_iff p place).mp first
  obtain ⟨file', rank', rfl, wide', high', same⟩ := (place?_eq_some_iff q _).mp second
  obtain ⟨lines, columns⟩ := Prod.mk.inj same
  rw [Position.within_iff] at wide high wide' high'
  have size : (Position.flatSize : Int) = 8 := rfl
  rw [show file = file' by omega, show rank = rank' by omega]

theorem exists_place (p : Position) (inside : p.onFlatBoard = true) :
    ∃ place, place? p = some place := by
  cases p with
  | flat file rank => exact ⟨_, if_pos inside⟩
  | hyper x y z w => cases inside
  | invalid => cases inside

/-- These lines show a flat board: there are twelve, and a glyph is found among them exactly at the
place of a piece on the board that has it. -/
structure DrawsGrid (board : Board) (lines : List (List Char)) : Prop where
  height : lines.length = 12
  glyphs : ∀ place kind colour, charAt lines place = some (kind.glyph colour) ↔
    ∃ p, place? p = some place ∧ ⟨kind, colour, p⟩ ∈ board.pieces

theorem charAt_eq_some_iff (lines : List (List Char)) (place : Nat × Nat) (c : Char) :
    charAt lines place = some c ↔ FoundAt lines (FoundAt · (· = c) place.2) place.1 := by
  simp [charAt, FoundAt, Option.bind_eq_some_iff]

theorem notFound_frame (text : List Char) (frame : text ∈ [filesRow, borderRow]) (kind : Kind)
    (colour : Colour) (column : Nat) : ¬FoundAt text (· = kind.glyph colour) column := by
  have ascii : ∀ text ∈ [filesRow, borderRow], IsAscii text := by decide
  rintro ⟨_, found, rfl⟩
  exact (ascii text frame).glyph_notMem text kind colour (List.mem_of_getElem? found)

/-- The rows of the ranks, from the highest on, in which a glyph is found in a column. -/
theorem foundAt_rows (board : Board) (kind : Kind) (colour : Colour) (column i : Nat) :
    FoundAt ((Position.axis Position.flatSize).reverse.map (row board))
        (FoundAt · (· = kind.glyph colour) column) i ↔
      ∃ file rank, Position.within Position.flatSize file = true ∧
        Position.within Position.flatSize rank = true ∧ i = (7 - rank).toNat ∧
        column = (24 + 27 * file).toNat ∧
        symbol board (.flat file rank) = kind.glyph colour := by
  rw [foundAt_map]
  constructor
  · rintro ⟨rank, found, shown⟩
    obtain ⟨high, rfl⟩ := (Position.getElem?_reverse_axis_iff _ _ _).mp found
    obtain ⟨file, wide, rfl, drawn⟩ := (foundAt_row board rank high kind colour _).mp shown
    exact ⟨file, rank, wide, high, rfl, rfl, drawn⟩
  · rintro ⟨file, rank, wide, high, rfl, rfl, drawn⟩
    exact ⟨rank, (Position.getElem?_reverse_axis_iff _ _ _).mpr ⟨high, rfl⟩,
      (foundAt_row board rank high kind colour _).mpr ⟨file, wide, rfl, drawn⟩⟩

theorem charAt_gridLines (board : Board) (place : Nat × Nat) (kind : Kind) (colour : Colour) :
    charAt (gridLines board) place = some (kind.glyph colour) ↔
      ∃ p, place? p = some place ∧ symbol board p = kind.glyph colour := by
  have top : ∀ text ∈ [filesRow, borderRow], ¬FoundAt text (· = kind.glyph colour) place.2 :=
    fun text member => notFound_frame text member kind colour place.2
  have bottom : ∀ text ∈ [borderRow, filesRow], ¬FoundAt text (· = kind.glyph colour) place.2 :=
    fun text member => top text (List.mem_reverse.mp member)
  rw [charAt_eq_some_iff, gridLines, foundAt_framed _ _ _ _ top bottom, foundAt_rows]
  simp only [place?_eq_some_iff, List.length_cons, List.length_nil]
  have size : (Position.flatSize : Int) = 8 := rfl
  constructor
  · rintro ⟨low, file, rank, wide, high, line, column, drawn⟩
    refine ⟨.flat file rank, ⟨file, rank, rfl, wide, high, Prod.ext ?_ column⟩, drawn⟩
    have bounds := Position.within_iff.mp high
    change place.1 = (9 - rank).toNat
    omega
  · rintro ⟨p, ⟨file, rank, rfl, wide, high, rfl⟩, drawn⟩
    have bounds := Position.within_iff.mp high
    refine ⟨?_, file, rank, wide, high, ?_, rfl, drawn⟩
    · change 2 ≤ (9 - rank).toNat
      omega
    · change (9 - rank).toNat - 2 = (7 - rank).toNat
      omega

theorem drawsGrid_gridLines (board : Board) (apart : board.Apart) :
    DrawsGrid board (gridLines board) where
  height := length_gridLines board
  glyphs := by
    intro place kind colour
    rw [charAt_gridLines]
    refine exists_congr fun p => and_congr_right fun placed => ?_
    obtain ⟨file, rank, rfl, _⟩ := (place?_eq_some_iff p place).mp placed
    exact symbol_eq_glyph_iff board apart _ (by simp) kind colour

/-- A grid tells what stands on each cell. -/
theorem DrawsGrid.mem_iff (board : Board) (lines : List (List Char)) (draws : DrawsGrid board lines)
    (p : Position) (place : Nat × Nat) (placed : place? p = some place) (kind : Kind)
    (colour : Colour) :
    ⟨kind, colour, p⟩ ∈ board.pieces ↔ charAt lines place = some (kind.glyph colour) := by
  rw [draws.glyphs]
  constructor
  · intro member
    exact ⟨p, placed, member⟩
  · rintro ⟨q, same, member⟩
    rw [place?_injective p q place placed same]
    exact member

theorem gridLines_congr (board board' : Board)
    (same : ∀ p ∈ RuleSet.Flat.cells, board.at? p = board'.at? p) :
    gridLines board = gridLines board' := by
  have rows : ∀ rank ∈ Position.axis Position.flatSize, row board rank = row board' rank := by
    intro rank high
    unfold row rowCells
    rw [List.flatMap_congr fun file wide => ?_]
    have inside : Position.flat file rank ∈ RuleSet.Flat.cells :=
      List.mem_flatMap.mpr ⟨rank, high, List.mem_map.mpr ⟨file, wide, rfl⟩⟩
    unfold cell
    rw [same _ inside]
  unfold gridLines
  rw [List.map_congr_left fun rank high => rows rank (List.mem_reverse.mp high)]

/-! ## Lines without breaks -/

theorem symbol_ne_break (board : Board) (p : Position) : symbol board p ≠ '\n' := by
  unfold symbol
  split
  · rename_i piece found
    intro same
    have far := piece.kind.glyph_ge piece.colour
    rw [same] at far
    exact absurd far (by decide)
  · decide

theorem unbroken_cell (board : Board) (p : Position) : IsUnbroken (cell board p) := by
  have front : IsUnbroken (cellFront p) := by
    unfold cellFront
    cases p.cellColour <;> decide
  have back : IsUnbroken cellBack := by decide
  rw [cell_eq]
  exact (front.append _ _ (.singleton _ (symbol_ne_break board p))).append _ _ back

theorem unbroken_row (board : Board) (rank : Int)
    (inside : Position.within Position.flatSize rank = true) : IsUnbroken (row board rank) := by
  have labels : ∀ rank ∈ Position.axis Position.flatSize,
      IsUnbroken (rowFront rank) ∧ IsUnbroken (rowBack rank) := by decide
  obtain ⟨front, back⟩ := labels rank ((Position.mem_axis_iff _ _).mpr inside)
  have cells : IsUnbroken (rowCells board rank) := by
    intro member
    obtain ⟨file, _, broken⟩ := List.mem_flatMap.mp member
    exact unbroken_cell board _ broken
  exact (front.append _ _ cells).append _ _ back

theorem unbroken_gridLines (board : Board) : ∀ line ∈ gridLines board, IsUnbroken line := by
  have frame : ∀ line ∈ [filesRow, borderRow], IsUnbroken line := by decide
  intro line member
  simp only [gridLines, List.mem_append, List.mem_map, List.mem_reverse,
    Position.mem_axis_iff] at member
  rcases member with (top | ⟨rank, inside, rfl⟩) | bottom
  · exact frame line top
  · exact unbroken_row board rank inside
  · exact frame line (by simpa [or_comm] using bottom)

end Picture

end GridChess
