import GridChess.Proofs.Match.Call
import GridChess.Proofs.MoveTree.Step
import GridChess.Proofs.Record.Restore
import GridChess.Tool.Playout

/-!
# How playouts end

The picks of a playout stand for any way of choosing among the legal moves (`plays_iff`). However
they are chosen, no move is refused, every move is logged with the next multiple of the delay, and
the playout ends with all of its moves, or at a board without legal moves, or when the next
multiple does not fit into a duration (`Plays.ends`).
-/

set_option autoImplicit false

namespace GridChess

namespace Tool

/-! ## Any choice of moves -/

/-- How a playout goes on that has `plies` moves to make, if every legal move may be chosen. -/
inductive Plays (delay : Duration) :
    (plies : Nat) → (elapsed : Duration) → Match → Except PlayoutFault Match → Prop
  | finished (elapsed : Duration) (game : Match) : Plays delay 0 elapsed game (.ok game)
  | overflow (plies : Nat) (elapsed : Duration) (game : Match)
      (full : elapsed.add? delay = none) :
      Plays delay (plies + 1) elapsed game (.error .clockOverflow)
  | stuck (plies : Nat) (elapsed later : Duration) (game : Match)
      (ticks : elapsed.add? delay = some later)
      (none : game.rules.legalMoves game.board later = []) :
      Plays delay (plies + 1) elapsed game (.ok game)
  | refused (plies : Nat) (elapsed later : Duration) (game : Match) (move : Move) (error : Error)
      (ticks : elapsed.add? delay = some later)
      (legal : move ∈ game.rules.legalMoves game.board later)
      (refuses : game.apply move = .error error) :
      Plays delay (plies + 1) elapsed game (.error (.refused error))
  | made (plies : Nat) (elapsed later : Duration) (game next : Match) (move : Move)
      (result : Except PlayoutFault Match)
      (ticks : elapsed.add? delay = some later)
      (legal : move ∈ game.rules.legalMoves game.board later)
      (accepts : game.apply move = .ok next) (rest : Plays delay plies later next result) :
      Plays delay (plies + 1) elapsed game result

/-- Counting round and round finds every element, and nothing only in the empty list. -/
theorem pick?_cases (moves : List Move) (number : Nat) :
    moves = [] ∧ pick? moves number = none ∨ ∃ move ∈ moves, pick? moves number = some move := by
  cases moves with
  | nil => exact Or.inl ⟨rfl, rfl⟩
  | cons first rest =>
    have inside : number % (first :: rest).length < (first :: rest).length :=
      Nat.mod_lt _ (Nat.succ_pos _)
    exact Or.inr ⟨_, List.getElem_mem inside, List.getElem?_eq_getElem inside⟩

theorem exists_pick? (moves : List Move) (move : Move) (member : move ∈ moves) :
    ∃ number, pick? moves number = some move := by
  obtain ⟨number, inside, same⟩ := List.mem_iff_getElem.mp member
  refine ⟨number, ?_⟩
  unfold pick?
  rw [Nat.mod_eq_of_lt inside, List.getElem?_eq_getElem inside, same]

theorem plays_playout (picks : Nat → Nat) (delay : Duration) (plies index : Nat)
    (elapsed : Duration) (game : Match) :
    Plays delay plies elapsed game (playout picks delay plies index elapsed game) := by
  induction plies generalizing index elapsed game with
  | zero => exact .finished elapsed game
  | succ plies ih =>
    unfold playout
    cases ticks : elapsed.add? delay with
    | none => exact .overflow plies elapsed game ticks
    | some later =>
      dsimp only
      rcases pick?_cases (game.rules.legalMoves game.board later) (picks index) with
        ⟨none, picked⟩ | ⟨move, legal, picked⟩
      · rw [picked]
        exact .stuck plies elapsed later game ticks none
      · rw [picked]
        dsimp only
        cases outcome : game.apply move with
        | error error => exact .refused plies elapsed later game move error ticks legal outcome
        | ok next =>
          exact .made plies elapsed later game next move _ ticks legal outcome
            (ih (index + 1) later next)

/-- Earlier picks have no part in what is played. -/
theorem playout_congr (picks picks' : Nat → Nat) (delay : Duration) (plies index : Nat)
    (elapsed : Duration) (game : Match) (same : ∀ i, index ≤ i → picks i = picks' i) :
    playout picks delay plies index elapsed game =
      playout picks' delay plies index elapsed game := by
  induction plies generalizing index elapsed game with
  | zero => rfl
  | succ plies ih =>
    have rest : ∀ later next, playout picks delay plies (index + 1) later next =
        playout picks' delay plies (index + 1) later next := by
      intro later next
      exact ih (index + 1) later next fun i after => same i (Nat.le_of_succ_le after)
    simp only [playout, same index (Nat.le_refl index), rest]

/-- Whatever moves are chosen, some picks choose them. -/
theorem Plays.exists_picks (delay : Duration) (plies index : Nat) (elapsed : Duration)
    (game : Match) (result : Except PlayoutFault Match)
    (plays : Plays delay plies elapsed game result) :
    ∃ picks, playout picks delay plies index elapsed game = result := by
  induction plays generalizing index with
  | finished elapsed game => exact ⟨fun _ => 0, rfl⟩
  | overflow plies elapsed game full =>
    refine ⟨fun _ => 0, ?_⟩
    rw [playout, full]
  | stuck plies elapsed later game ticks none =>
    refine ⟨fun _ => 0, ?_⟩
    rw [playout, ticks]
    dsimp only
    rw [none]
    rfl
  | refused plies elapsed later game move error ticks legal refuses =>
    obtain ⟨number, picked⟩ := exists_pick? _ move legal
    refine ⟨fun _ => number, ?_⟩
    rw [playout, ticks]
    dsimp only
    rw [picked]
    dsimp only
    rw [refuses]
  | made plies elapsed later game next move result ticks legal accepts rest ih =>
    obtain ⟨number, picked⟩ := exists_pick? _ move legal
    obtain ⟨picks, played⟩ := ih (index + 1)
    -- The rest of the playout does not look at the pick at the index, so it can be replaced.
    refine ⟨fun i => if i = index then number else picks i, ?_⟩
    rw [playout, ticks]
    dsimp only
    rw [if_pos rfl, picked]
    dsimp only
    rw [accepts, ← played]
    dsimp only
    refine playout_congr _ _ delay plies (index + 1) later next fun i after => ?_
    exact if_neg (Nat.ne_of_gt after)

/-- The playouts with all picks are the playouts with all choices of legal moves. -/
theorem plays_iff (delay : Duration) (plies : Nat) (elapsed : Duration) (game : Match)
    (result : Except PlayoutFault Match) :
    Plays delay plies elapsed game result ↔
      ∃ picks, playout picks delay plies 0 elapsed game = result := by
  constructor
  · exact Plays.exists_picks delay plies 0 elapsed game result
  · rintro ⟨picks, rfl⟩
    exact plays_playout picks delay plies 0 elapsed game

end Tool

/-! ## Legal moves in a sound match -/

/-- Whether there are legal moves does not depend on the time. -/
theorem RuleSet.legalMoves_eq_nil (rules : RuleSet) (board : Board) (time time' : Duration)
    (none : rules.legalMoves board time = []) : rules.legalMoves board time' = [] := by
  have same := rules.map_legalMoves board (fun _ => ()) (fun _ _ => rfl) time' time
  rw [none] at same
  exact List.map_eq_nil_iff.mp same

namespace Match

/-- A legal move is accepted, and it carries the time that it was listed for. -/
theorem accepts_of_legal (game : Match) (shipped : game.rules.Shipped) (apart : game.board.Apart)
    (time : Duration) (move : Move) (legal : move ∈ game.rules.legalMoves game.board time) :
    move.time = time ∧ ∃ piece, game.Accepts move piece := by
  have bounded := RuleSet.Shipped.bounded game.rules shipped
  obtain ⟨stamped, piece, found, _, own, allowed⟩ :=
    (game.rules.mem_legalMoves_iff bounded game.board apart time move).mp legal
  exact ⟨stamped, piece, found, own, allowed⟩

theorem Sound.after (game : Match) (shipped : game.rules.Shipped) (sound : game.Sound)
    (move : Move) (piece : Piece) (accepts : game.Accepts move piece) :
    (game.after move).Sound where
  board := RuleSet.Hosts.boardAfter game.rules (RuleSet.Shipped.bounded game.rules shipped)
    game.board sound.board piece move accepts.allowed
  moves := by
    have bounded := RuleSet.Shipped.bounded game.rules shipped
    intro other listed p cell
    rcases List.mem_append.mp listed with earlier | last
    · exact sound.moves other earlier p cell
    · rw [List.mem_singleton.mp last] at cell
      obtain ⟨_, stands, _⟩ := game.board.mem_of_at? move.origin piece accepts.found
      rcases List.mem_cons.mp cell with rfl | cell
      · rw [← stands]
        exact bounded.origin_mem game.board piece move.target accepts.allowed
      · rw [List.mem_singleton.mp cell]
        exact bounded.target_mem game.board piece move.target accepts.allowed

theorem sound_new (rules : RuleSet) (shipped : rules.Shipped) (start : Option Instant) :
    (new rules start).Sound where
  board := RuleSet.Shipped.hosts_defaultBoard rules shipped
  moves := fun _ listed => nomatch listed

end Match

namespace Tool

/-! ## What a playout keeps -/

/-- A playout has come to this match, with the clock at this time. -/
structure Underway (rules : RuleSet) (start : Option Instant) (delay elapsed : Duration)
    (game : Match) : Prop where
  rules : game.rules = rules
  start : game.start = start
  sound : game.Sound
  clock : elapsed.nanoseconds = game.moves.length * delay.nanoseconds
  times : ∀ k move, game.moves[k]? = some move →
    move.time.nanoseconds = (k + 1) * delay.nanoseconds

/-- A match that a playout of so many moves ends with: all of them were made, or there is no legal
move any more. -/
structure Played (rules : RuleSet) (start : Option Instant) (delay : Duration) (plies : Nat)
    (game : Match) : Prop where
  underway : ∃ elapsed, Underway rules start delay elapsed game
  complete : game.moves.length = plies ∨
    game.moves.length < plies ∧ ∀ time, game.rules.legalMoves game.board time = []

/-- How a playout of so many moves can end. -/
inductive Ends (rules : RuleSet) (start : Option Instant) (delay : Duration) (plies : Nat) :
    Except PlayoutFault Match → Prop
  | played (game : Match) (played : Played rules start delay plies game) :
      Ends rules start delay plies (.ok game)
  /-- The time of the next move would not fit into a duration. -/
  | overflow (elapsed : Duration) (game : Match)
      (underway : Underway rules start delay elapsed game) (short : game.moves.length < plies)
      (full : Duration.ofNanoseconds? ((game.moves.length + 1) * delay.nanoseconds) = none) :
      Ends rules start delay plies (.error .clockOverflow)

theorem underway_new (rules : RuleSet) (shipped : rules.Shipped) (start : Option Instant)
    (delay : Duration) : Underway rules start delay .zero (Match.new rules start) where
  rules := rfl
  start := rfl
  sound := Match.sound_new rules shipped start
  clock := (Nat.zero_mul _).symm
  times := fun _ _ listed => nomatch listed

section

variable (rules : RuleSet) (shipped : rules.Shipped) (start : Option Instant)
  (delay elapsed : Duration) (game : Match)

theorem Underway.next_time (underway : Underway rules start delay elapsed game) :
    elapsed.add? delay =
      Duration.ofNanoseconds? ((game.moves.length + 1) * delay.nanoseconds) := by
  unfold Duration.add?
  rw [underway.clock, Nat.succ_mul]

include shipped in
theorem Underway.accepts (underway : Underway rules start delay elapsed game) (time : Duration)
    (move : Move) (legal : move ∈ game.rules.legalMoves game.board time) :
    move.time = time ∧ ∃ piece, game.Accepts move piece :=
  game.accepts_of_legal (underway.rules ▸ shipped) underway.sound.board.apart time move legal

include shipped in
theorem Underway.after (underway : Underway rules start delay elapsed game) (later : Duration)
    (ticks : elapsed.add? delay = some later) (move : Move) (stamped : move.time = later)
    (piece : Piece) (accepts : game.Accepts move piece) :
    Underway rules start delay later (game.after move) where
  rules := underway.rules
  start := underway.start
  sound := underway.sound.after game (underway.rules ▸ shipped) move piece accepts
  clock := by
    rw [underway.next_time] at ticks
    change later.nanoseconds = (game.moves ++ [move]).length * delay.nanoseconds
    rw [Duration.ofNanoseconds?_eq_some.mp ticks, List.length_append, List.length_singleton]
  times := by
    intro k other listed
    change (game.moves ++ [move])[k]? = some other at listed
    rw [List.getElem?_append] at listed
    split at listed
    · exact underway.times k other listed
    · rename_i past
      obtain ⟨inside, rfl⟩ := List.getElem?_eq_some_iff.mp listed
      rw [List.length_singleton] at inside
      rw [underway.next_time] at ticks
      have last : k = game.moves.length := by omega
      subst last
      rw [List.getElem_singleton, stamped]
      exact Duration.ofNanoseconds?_eq_some.mp ticks

end

/-- However moves are chosen, the playout ends as described after those moves that it has yet to
make. -/
theorem Plays.ends (rules : RuleSet) (shipped : rules.Shipped) (start : Option Instant)
    (delay : Duration) (plies : Nat) (elapsed : Duration) (game : Match)
    (result : Except PlayoutFault Match) (plays : Plays delay plies elapsed game result)
    (underway : Underway rules start delay elapsed game) :
    Ends rules start delay (game.moves.length + plies) result := by
  induction plays with
  | finished elapsed game => exact .played game ⟨⟨elapsed, underway⟩, Or.inl rfl⟩
  | overflow plies elapsed game full =>
    rw [underway.next_time] at full
    exact .overflow elapsed game underway (by omega) full
  | stuck plies elapsed later game ticks none =>
    refine .played game ⟨⟨elapsed, underway⟩, Or.inr ⟨by omega, fun time => ?_⟩⟩
    exact game.rules.legalMoves_eq_nil game.board later time none
  | refused plies elapsed later game move error ticks legal refuses =>
    obtain ⟨_, piece, accepts⟩ := underway.accepts rules shipped _ _ _ _ later move legal
    rw [game.apply_of_accepts move piece accepts] at refuses
    cases refuses
  | made plies elapsed later game next move result ticks legal accepted rest ih =>
    obtain ⟨stamped, piece, accepts⟩ := underway.accepts rules shipped _ _ _ _ later move legal
    rw [game.apply_of_accepts move piece accepts] at accepted
    cases accepted
    have ends := ih (underway.after rules shipped _ _ _ _ later ticks move stamped piece accepts)
    have length : (game.after move).moves.length + plies = game.moves.length + (plies + 1) := by
      unfold Match.after
      rw [List.length_append, List.length_singleton]
      omega
    rw [length] at ends
    exact ends

end Tool

end GridChess
