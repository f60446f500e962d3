import GridChess.Proofs.Duration.Text
import GridChess.Proofs.Picture.Grid
import GridChess.Proofs.Picture.Listing

/-!
# Faithful pictures

A picture is read line by line: first the board, then the log. The lines of the board tell what
stands on each of its cells, and the lines of the log tell the text of each move, so two matches
have one picture exactly if they agree on both (`picture_eq_iff`).
-/

set_option autoImplicit false

namespace GridChess

open Text

/-! ## Texts of moves -/

theorem Text.unbroken_natural (n : Nat) : IsUnbroken (Numeral.natural n) :=
  fun member => absurd (Numeral.isDigit_of_mem_natural member) (by decide)

theorem Duration.unbroken_chars (d : Duration) : IsUnbroken d.chars := by
  rw [chars_eq]
  refine unbroken_intercalate _ fun text member => ?_
  obtain ⟨part, shown, rfl⟩ := List.mem_map.mp member
  obtain ⟨unit, readable⟩ := d.shown_spec.1 part shown
  have name : IsUnbroken part.2 :=
    fun broken => absurd (readable.named.letter _ _ broken).1 (by decide)
  exact (unbroken_natural part.1).append _ _ name

theorem Move.unbroken_chars (move : Move) (origin : move.origin.onBoard = true)
    (target : move.target.onBoard = true) : IsUnbroken move.chars := by
  have glyph : IsUnbroken [move.kind.blackGlyph, ' '] := by cases move.kind <;> decide
  have path : IsUnbroken
      (move.kind.blackGlyph :: ' ' :: move.origin.chars ++ ' ' :: move.target.chars) :=
    (glyph.append _ _ (move.origin.unbroken_chars origin)).append _ _
      ((by decide : IsUnbroken [' ']).append _ _ (move.target.unbroken_chars target))
  unfold chars
  dsimp only
  split
  · exact path
  · exact (path.append _ _ (by decide)).append _ _ (Duration.unbroken_chars _)

theorem Move.toList_toString (move : Move) : (toString move).toList = move.chars :=
  String.toList_ofList

namespace Picture

/-! ## The log -/

/-- What a line of the log begins with. The first move of each pair carries the number of the
pair. -/
def moveLabel (index : Nat) : List Char :=
  if index % 2 = 0 then
    ' ' :: numberLayout.apply (Numeral.natural (index / 2 + 1)) ++ ": ".toList
  else "      ".toList

/-- These lines show a log: every move has one line, in order, and there are no other lines. -/
def LogsMoves (moves : List Move) (lines : List (List Char)) : Prop :=
  ∀ index, lines[index]? =
    moves[index]?.map fun move => moveLabel index ++ (toString move).toList

def logLines (moves : List Move) : List (List Char) :=
  (moves.map toString).mapIdx fun index text => moveLabel index ++ text.toList

theorem logsMoves_logLines (moves : List Move) : LogsMoves moves (logLines moves) := by
  intro index
  rw [logLines, List.getElem?_mapIdx, List.getElem?_map, Option.map_map]
  rfl

theorem log_eq (moves : List Move) :
    (moves.zipIdx.flatMap fun (move, index) => moveLine move index) =
      unlines (logLines moves) := by
  have line : ∀ move index, moveLine move index =
      moveLabel index ++ (toString move).toList ++ ['\n'] := by
    intro move index
    rw [Move.toList_toString]
    rfl
  simp only [logLines, unlines, List.mapIdx_eq_zipIdx_map, List.zipIdx_map, List.map_map,
    List.flatMap_map, line]
  rfl

/-- The lines of a log tell the texts of its moves. -/
theorem LogsMoves.texts_eq (moves moves' : List Move) (lines : List (List Char))
    (logs : LogsMoves moves lines) (logs' : LogsMoves moves' lines) :
    moves.map toString = moves'.map toString := by
  apply List.ext_getElem?
  intro index
  have injective : Function.Injective fun text : String => moveLabel index ++ text.toList :=
    fun text text' same => String.toList_inj.mp (List.append_cancel_left same)
  apply Option.map_injective injective
  rw [List.getElem?_map, List.getElem?_map, Option.map_map, Option.map_map]
  exact (logs index).symm.trans (logs' index)

theorem head?_moveLabel (index : Nat) (text : List Char) :
    (moveLabel index ++ text).head? = some ' ' := by
  unfold moveLabel
  split <;> rfl

theorem LogsMoves.head? (moves : List Move) (lines : List (List Char))
    (logs : LogsMoves moves lines) : ∀ line ∈ lines, line.head? = some ' ' := by
  intro line member
  obtain ⟨index, found⟩ := List.getElem?_of_mem member
  rw [logs index] at found
  obtain ⟨move, _, rfl⟩ := Option.map_eq_some_iff.mp found
  exact head?_moveLabel index _

theorem unbroken_moveLabel (index : Nat) : IsUnbroken (moveLabel index) := by
  have number : IsUnbroken (numberLayout.apply (Numeral.natural (index / 2 + 1))) := by
    have filled : IsUnbroken (spaces (3 - (Numeral.natural (index / 2 + 1)).length)) :=
      fun member => absurd (List.eq_of_mem_replicate member) (by decide)
    exact filled.append _ _ (unbroken_natural _)
  have start : IsUnbroken [' '] := by decide
  unfold moveLabel
  split
  · exact (start.append _ _ number).append _ _ (by decide)
  · decide

/-! ## What a picture shows -/

/-- A match whose picture can be told apart from others: no two pieces share a cell, and moves lead
from cells of a board to cells of a board. -/
structure Drawable (game : Match) : Prop where
  shipped : game.rules.Shipped
  apart : game.board.Apart
  onBoard : ∀ move ∈ game.moves, move.origin.onBoard = true ∧ move.target.onBoard = true

/-- The picture of a match consists of these lines for the board and for the log. -/
structure Shows (game : Match) (board log : List (List Char)) : Prop where
  text : (ofMatch game).toList = unlines (board ++ log)
  unbroken : ∀ line ∈ board ++ log, IsUnbroken line
  grid : game.rules = .flat → DrawsGrid game.board board
  listing : game.rules = .hyper → ListsPieces game.board board
  log : LogsMoves game.moves log

def boardLines (game : Match) : List (List Char) :=
  if game.rules.name = RuleSet.Flat.name then gridLines game.board else listingLines game.board

theorem boardLines_flat (game : Match) (rules : game.rules = .flat) :
    boardLines game = gridLines game.board := by
  rw [boardLines, rules]
  exact if_pos rfl

theorem boardLines_hyper (game : Match) (rules : game.rules = .hyper) :
    boardLines game = listingLines game.board := by
  rw [boardLines, rules]
  exact if_neg (by decide)

theorem flat_or_hyper (rules : RuleSet) (shipped : rules.Shipped) :
    rules = .flat ∨ rules = .hyper := by
  cases shipped with
  | flat => exact Or.inl rfl
  | hyper => exact Or.inr rfl

theorem boardChars_eq (game : Match) (shipped : game.rules.Shipped) :
    boardChars game = unlines (boardLines game) := by
  rcases flat_or_hyper game.rules shipped with rules | rules
  · rw [boardLines_flat game rules, boardChars, rules, ← grid_eq]
    exact if_pos rfl
  · rw [boardLines_hyper game rules, boardChars, rules]
    exact (if_neg (by decide)).trans (listing_eq _ game.board)

theorem toList_ofMatch (game : Match) (shipped : game.rules.Shipped) :
    (ofMatch game).toList = unlines (boardLines game ++ logLines game.moves) := by
  rw [unlines_append, ← boardChars_eq game shipped, ← log_eq]
  exact String.toList_ofList

theorem unbroken_boardLines (game : Match) : ∀ line ∈ boardLines game, IsUnbroken line := by
  unfold boardLines
  split
  · exact unbroken_gridLines game.board
  · exact unbroken_listingLines game.board

theorem unbroken_logLines (moves : List Move)
    (onBoard : ∀ move ∈ moves, move.origin.onBoard = true ∧ move.target.onBoard = true) :
    ∀ line ∈ logLines moves, IsUnbroken line := by
  intro line member
  obtain ⟨index, found⟩ := List.getElem?_of_mem member
  rw [logsMoves_logLines moves index] at found
  obtain ⟨move, logged, rfl⟩ := Option.map_eq_some_iff.mp found
  obtain ⟨origin, target⟩ := onBoard move (List.mem_of_getElem? logged)
  rw [Move.toList_toString]
  exact (unbroken_moveLabel index).append _ _ (move.unbroken_chars origin target)

theorem Drawable.shows (game : Match) (drawable : Drawable game) :
    Shows game (boardLines game) (logLines game.moves) where
  text := toList_ofMatch game drawable.shipped
  unbroken := by
    intro line member
    rcases List.mem_append.mp member with board | log
    · exact unbroken_boardLines game line board
    · exact unbroken_logLines game.moves drawable.onBoard line log
  grid := by
    intro rules
    rw [boardLines_flat game rules]
    exact drawsGrid_gridLines game.board drawable.apart
  listing := by
    intro rules
    rw [boardLines_hyper game rules]
    exact listsPieces_listingLines game.board drawable.apart
  log := logsMoves_logLines game.moves

/-! ## Reading a picture -/

/-- A list is cut where a property ends that the first part has and the second has not. -/
theorem append_inj_of_property {α : Type} (P : α → Prop) (first second first' second' : List α)
    (all : ∀ a ∈ first, P a) (none : ∀ a ∈ second, ¬P a) (all' : ∀ a ∈ first', P a)
    (none' : ∀ a ∈ second', ¬P a) (same : first ++ second = first' ++ second') :
    first = first' ∧ second = second' := by
  classical
  have kept : ∀ list rest : List α, (∀ a ∈ list, P a) → (∀ a ∈ rest, ¬P a) →
      (list ++ rest).filter (P ·) = list := by
    intro list rest all none
    rw [List.filter_append, List.filter_eq_self.mpr (by simpa using all),
      List.filter_eq_nil_iff.mpr (by simpa using none), List.append_nil]
  have board : first = first' := by
    rw [← kept first second all none, same, kept first' second' all' none']
  subst board
  exact ⟨rfl, List.append_cancel_left same⟩

theorem ListsPieces.head? (board : Board) (lines : List (List Char))
    (lists : ListsPieces board lines) : ∀ line ∈ lines, line.head? = some 'P' := by
  obtain ⟨shown, rfl, _⟩ := lists
  intro line member
  obtain ⟨piece, _, rfl⟩ := List.mem_map.mp member
  rfl

variable {game game' : Match} {board board' log log' : List (List Char)}

/-- The lines of the board can be told from those of the log. -/
theorem Shows.lines_eq (shipped : game.rules.Shipped) (rules : game'.rules = game.rules)
    (shows : Shows game board log) (shows' : Shows game' board' log')
    (same : ofMatch game = ofMatch game') : board = board' ∧ log = log' := by
  have lines : board ++ log = board' ++ log' := by
    refine unlines_injective _ _ shows.unbroken shows'.unbroken ?_
    rw [← shows.text, same, shows'.text]
  rcases flat_or_hyper game.rules shipped with flat | hyper
  · refine List.append_inj lines ?_
    rw [(shows.grid flat).height, (shows'.grid (rules.trans flat)).height]
  · have logged : ∀ (moves : List Move) (log : List (List Char)), LogsMoves moves log →
        ∀ line ∈ log, ¬line.head? = some 'P' := by
      intro moves log logs line member listed
      rw [logs.head? moves log line member] at listed
      cases listed
    exact append_inj_of_property (·.head? = some 'P') board log board' log'
      ((shows.listing hyper).head? _ _) (logged _ _ shows.log)
      ((shows'.listing (rules.trans hyper)).head? _ _) (logged _ _ shows'.log) lines

/-! ## Equal pictures -/

/-- Each of the cells is empty on both boards, or holds the same kind and colour on both. -/
def SameOn (cells : List Position) (board board' : Board) : Prop :=
  ∀ p ∈ cells, ∀ kind colour, ⟨kind, colour, p⟩ ∈ board.pieces ↔ ⟨kind, colour, p⟩ ∈ board'.pieces

theorem DrawsGrid.sameOn (first second : Board) (lines : List (List Char))
    (draws : DrawsGrid first lines) (draws' : DrawsGrid second lines) :
    SameOn RuleSet.Flat.cells first second := by
  intro p listed kind colour
  obtain ⟨place, placed⟩ := exists_place p ((RuleSet.Flat.mem_cells_iff p).mp listed)
  rw [draws.mem_iff first lines p place placed, draws'.mem_iff second lines p place placed]

theorem ListsPieces.sameOn (first second : Board) (lines : List (List Char))
    (lists : ListsPieces first lines) (lists' : ListsPieces second lines) :
    SameOn RuleSet.Hyper.cells first second := by
  intro p listed kind colour
  rw [lists.mem_iff first lines ⟨kind, colour, p⟩ listed,
    lists'.mem_iff second lines ⟨kind, colour, p⟩ listed]

theorem Shows.sameOn (shipped : game.rules.Shipped) (rules : game'.rules = game.rules)
    (shows : Shows game board log) (shows' : Shows game' board log) :
    SameOn game.rules.cells game.board game'.board := by
  rcases flat_or_hyper game.rules shipped with flat | hyper
  · rw [flat]
    exact (shows.grid flat).sameOn _ _ _ (shows'.grid (rules.trans flat))
  · rw [hyper]
    exact (shows.listing hyper).sameOn _ _ _ (shows'.listing (rules.trans hyper))

theorem boardLines_congr (drawable : Drawable game) (drawable' : Drawable game')
    (rules : game'.rules = game.rules)
    (same : SameOn game.rules.cells game.board game'.board) :
    boardLines game = boardLines game' := by
  have found : ∀ p ∈ game.rules.cells, game.board.at? p = game'.board.at? p := by
    intro p listed
    apply Option.ext
    intro piece
    rw [Board.at?_eq_some_iff _ p piece drawable.apart,
      Board.at?_eq_some_iff _ p piece drawable'.apart]
    refine and_congr_left ?_
    rintro ⟨rfl, _⟩
    exact same _ listed piece.kind piece.colour
  rcases flat_or_hyper game.rules drawable.shipped with flat | hyper
  · rw [boardLines_flat game flat, boardLines_flat game' (rules.trans flat)]
    rw [flat] at found
    exact gridLines_congr _ _ found
  · rw [boardLines_hyper game hyper, boardLines_hyper game' (rules.trans hyper)]
    rw [hyper] at found
    exact listingLines_congr _ _ found

/-- Two matches under the same rules have the same picture exactly if the same kinds and colours
stand on the same cells and the moves have the same texts, whatever the order of the pieces,
whatever stands off the board, and whoever is to move. For in every picture, each glyph of a grid is
at the place of the piece on the board that has it, each line of a listing belongs to one piece on
the board, and each line of the log to one move, all of them in order. -/
theorem picture_eq_iff (game game' : Match) (drawable : Drawable game)
    (drawable' : Drawable game') (rules : game'.rules = game.rules) :
    (ofMatch game = ofMatch game' ↔
      SameOn game.rules.cells game.board game'.board ∧
        game.moves.map toString = game'.moves.map toString) ∧
    ∃ board log, Shows game board log := by
  refine ⟨⟨?_, ?_⟩, _, _, drawable.shows⟩
  · intro same
    have shows := drawable.shows
    have shows' := drawable'.shows
    obtain ⟨board, log⟩ := shows.lines_eq drawable.shipped rules shows' same
    rw [← board, ← log] at shows'
    exact ⟨shows.sameOn drawable.shipped rules shows', shows.log.texts_eq _ _ _ shows'.log⟩
  · rintro ⟨pieces, texts⟩
    apply String.toList_inj.mp
    rw [toList_ofMatch game drawable.shipped, toList_ofMatch game' drawable'.shipped,
      boardLines_congr drawable drawable' rules pieces, logLines, texts, ← logLines]

/-- A king and a queen stand on the board and a pawn off it, and a knight has moved. -/
def kingFirst : Match where
  rules := .flat
  board := ⟨[⟨.king, .white, .flat 4 0⟩, ⟨.queen, .black, .flat 3 7⟩, ⟨.pawn, .white, .flat 4 40⟩],
    .white⟩
  start := none
  moves := [⟨.knight, .flat 1 0, .flat 2 2, .ofMilliseconds 3000⟩]

/-- The queen is the first piece of the list, there is no pawn, black is to move, and the knight has
moved a little later. -/
def queenFirst : Match where
  rules := .flat
  board := ⟨[⟨.queen, .black, .flat 3 7⟩, ⟨.king, .white, .flat 4 0⟩], .black⟩
  start := none
  moves := [⟨.knight, .flat 1 0, .flat 2 2, .ofMilliseconds 3040⟩]

theorem picture_kingFirst_eq :
    Drawable kingFirst ∧ Drawable queenFirst ∧ ofMatch kingFirst = ofMatch queenFirst := by
  have drawable : Drawable kingFirst := ⟨.flat, by decide, by decide⟩
  have drawable' : Drawable queenFirst := ⟨.flat, by decide, by decide⟩
  have pieces : SameOn kingFirst.rules.cells kingFirst.board queenFirst.board := by
    intro p listed kind colour
    have inside : p ≠ .flat 4 40 := by
      rintro rfl
      exact absurd ((RuleSet.Flat.mem_cells_iff _).mp listed) (by decide)
    simp [kingFirst, queenFirst, inside, or_comm]
  exact ⟨drawable, drawable',
    (picture_eq_iff kingFirst queenFirst drawable drawable' rfl).1.mpr ⟨pieces, by decide⟩⟩

end Picture

end GridChess
