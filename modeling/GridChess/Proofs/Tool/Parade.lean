import GridChess.Proofs.Flat.Mailbox
import GridChess.Proofs.Tool.Playout

/-!
# Playouts of any length

On the flat board a game can go on for as long as one likes: the queen's knights leave home and come
back by turns, and the board looks as before (`Match.Parades.step`). So some choice of legal moves
fills the clock of a playout if the delays of all moves together do not fit into a duration
(`exists_overflow`).
-/

set_option autoImplicit false

namespace GridChess

/-- Where a game has come to in which nothing but the queen's knights has moved: whether each of
them is out, and whose turn it is. -/
structure Parade where
  whiteOut : Bool
  blackOut : Bool
  turn : Colour
  deriving DecidableEq, Repr

namespace Parade

/-- The cell of the queen's knight of a colour. -/
def knightCell : Colour → (out : Bool) → Position
  | .white, false => .flat 1 0
  | .white, true => .flat 2 2
  | .black, false => .flat 1 7
  | .black, true => .flat 2 5

def isOut (parade : Parade) : Colour → Bool
  | .white => parade.whiteOut
  | .black => parade.blackOut

/-- Where the piece stands that begins the game on a cell. -/
def place (parade : Parade) (p : Position) : Position :=
  if p = knightCell .white false then knightCell .white parade.whiteOut
  else if p = knightCell .black false then knightCell .black parade.blackOut
  else p

def board (parade : Parade) : Board where
  pieces := RuleSet.Flat.defaultBoard.pieces.map fun piece =>
    { piece with position := parade.place piece.position }
  turn := parade.turn

/-- The knight of the colour to move goes out or comes back. -/
def next (parade : Parade) : Parade :=
  match parade.turn with
  | .white => { parade with whiteOut := !parade.whiteOut, turn := .black }
  | .black => { parade with blackOut := !parade.blackOut, turn := .white }

def origin (parade : Parade) : Position := knightCell parade.turn (parade.isOut parade.turn)

def target (parade : Parade) : Position := knightCell parade.turn !parade.isOut parade.turn

def knight (parade : Parade) : Piece := ⟨.knight, parade.turn, parade.origin⟩

def move (parade : Parade) (time : Duration) : Move :=
  ⟨.knight, parade.origin, parade.target, time⟩

theorem knight_at_origin (parade : Parade) :
    parade.board.at? parade.origin = some parade.knight := by
  obtain ⟨whiteOut, blackOut, turn⟩ := parade
  cases whiteOut <;> cases blackOut <;> cases turn <;> decide

theorem allowed (parade : Parade) :
    RuleSet.Flat.canMove parade.board parade.knight parade.target = true := by
  obtain ⟨whiteOut, blackOut, turn⟩ := parade
  cases whiteOut <;> cases blackOut <;> cases turn <;> decide

/-- Once the knight has moved, the board looks like the next one. -/
theorem mailbox_next (parade : Parade) :
    (parade.board.relocate parade.origin parade.target parade.next.turn).mailbox =
      parade.next.board.mailbox := by
  have cells : ∀ p ∈ RuleSet.Flat.cells,
      (parade.board.relocate parade.origin parade.target parade.next.turn).at? p =
        parade.next.board.at? p := by
    obtain ⟨whiteOut, blackOut, turn⟩ := parade
    cases whiteOut <;> cases blackOut <;> cases turn <;> decide +kernel
  refine (Board.mailbox_eq_iff _ _).mpr ⟨rfl, fun p inside => ?_⟩
  exact cells p ((RuleSet.Flat.mem_cells_iff p).mpr inside)

theorem nextPlayer_turn (parade : Parade) :
    nextPlayer RuleSet.flat.colours parade.turn = parade.next.turn := by
  obtain ⟨whiteOut, blackOut, turn⟩ := parade
  cases turn <;> rfl

end Parade

namespace Match

/-- A match on the flat board that looks like a parade. -/
structure Parades (game : Match) (parade : Parade) : Prop where
  rules : game.rules = .flat
  apart : game.board.Apart
  looks : game.board.mailbox = parade.board.mailbox

theorem parades_new (start : Option Instant) :
    (new .flat start).Parades ⟨false, false, .white⟩ where
  rules := rfl
  apart := RuleSet.Flat.hosts_defaultBoard.apart
  looks := by
    have same : Parade.board ⟨false, false, .white⟩ = RuleSet.Flat.defaultBoard := by decide
    rw [same]
    rfl

/-- The next move of the parade is legal at any time, it is accepted, and the parade goes on. -/
theorem Parades.step (game : Match) (parade : Parade) (parades : game.Parades parade)
    (time : Duration) :
    parade.move time ∈ game.rules.legalMoves game.board time ∧
      game.Accepts (parade.move time) parade.knight ∧
      (game.after (parade.move time)).Parades parade.next := by
  have turn := ((game.board.mailbox_eq_iff parade.board).mp parades.looks).1
  obtain ⟨found, allowed⟩ := RuleSet.Flat.allowed_of_mailbox parade.board game.board
    parades.looks.symm parade.knight parade.origin parade.target parade.knight_at_origin
    parade.allowed
  have accepts : game.Accepts (parade.move time) parade.knight :=
    ⟨found, turn.symm, by rw [parades.rules]; exact allowed⟩
  have bounded : game.rules.Bounded := parades.rules ▸ RuleSet.bounded_flat
  refine ⟨?_, accepts, ⟨parades.rules, ?_, ?_⟩⟩
  · exact (game.rules.mem_legalMoves_iff bounded game.board parades.apart time _).mpr
      ⟨rfl, parade.knight, found, rfl, accepts.own, accepts.allowed⟩
  · exact game.rules.apart_boardAfter game.board parades.apart _
  · have moved := RuleSet.Flat.boardAfter_of_mailbox RuleSet.flat.colours game.board parade.board
      parades.looks parade.knight (parade.move time) found allowed
    have handed := parade.nextPlayer_turn
    have next := parade.mailbox_next
    rw [← handed] at next
    unfold after
    rw [parades.rules]
    exact moved.trans next

end Match

namespace Tool

/-- While the knights parade, the clock is filled by any number of moves whose delays do not fit
into a duration together with the time that has elapsed. -/
theorem plays_overflow (delay : Duration) (plies : Nat) (elapsed : Duration) (game : Match)
    (parade : Parade) (parades : game.Parades parade)
    (long : 18446744073709551616 * 1000000000 ≤
      elapsed.nanoseconds + plies * delay.nanoseconds) :
    Plays delay plies elapsed game (.error .clockOverflow) := by
  induction plies generalizing elapsed game parade with
  | zero =>
    have limit := elapsed.lt_limit
    omega
  | succ plies ih =>
    cases ticks : elapsed.add? delay with
    | none => exact .overflow plies elapsed game ticks
    | some later =>
      have clock : later.nanoseconds = elapsed.nanoseconds + delay.nanoseconds :=
        Duration.ofNanoseconds?_eq_some.mp ticks
      have remaining : 18446744073709551616 * 1000000000 ≤
          later.nanoseconds + plies * delay.nanoseconds := by
        rw [Nat.add_mul, Nat.one_mul] at long
        omega
      obtain ⟨legal, accepts, next⟩ := parades.step game parade later
      have rest := ih later (game.after (parade.move later)) parade.next next remaining
      exact .made plies elapsed later game _ _ _ ticks legal
        (game.apply_of_accepts _ parade.knight accepts) rest

theorem exists_overflow (start : Option Instant) (delay : Duration) (plies : Nat)
    (long : 18446744073709551616 * 1000000000 ≤ plies * delay.nanoseconds) :
    ∃ picks, playout picks delay plies 0 .zero (.new .flat start) = .error .clockOverflow := by
  refine (plays_iff _ _ _ _ _).mp (plays_overflow _ _ _ _ _ (Match.parades_new start) ?_)
  exact Nat.le_trans long (Nat.le_add_left _ _)

end Tool

end GridChess
