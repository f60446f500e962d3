import GridChess.Proofs.Json.Consumed

/-!
# Reading and passing over

Where a reader succeeds in reading a text, a number or null, the value ends where it would end if
nobody asked for it and it were passed over (`TakesScalar`). Passing over a text asks for less, for
halves of pairs may stand alone, so the states of the two differ (`TextState.passing`).
-/

set_option autoImplicit false

namespace GridChess.Json

/-- Where the value that is read ends, it ends for whoever passes over it. -/
def TakesValue {α : Type} (read : Reader α) : Prop :=
  ∀ s value rest, read s = .ok (value, rest) → skipValue s = .ok rest

/-- The same of a value that is in no brackets. -/
def TakesScalar {α : Type} (read : Reader α) : Prop :=
  ∀ s value rest, read s = .ok (value, rest) → skipScalar (skipSpace s) = .ok rest

/-- No value in brackets is a scalar, so a single step passes over it. -/
theorem skipValue_of_skipScalar (s rest : List Char)
    (scalar : skipScalar (skipSpace s) = .ok rest) : skipValue s = .ok rest := by
  have step : Expected.value.step [] s = .ok ([], .follower, rest) := by
    unfold Expected.step
    dsimp only
    split
    · rename_i opened
      rw [opened] at scalar
      cases scalar
    · rename_i opened
      rw [opened] at scalar
      cases scalar
    · rw [scalar]
      rfl
  unfold skipValue
  rw [skipExpected, step, ok_bind]
  · rfl
  · intro opened
    cases opened

/-! ## Texts -/

/-- Where somebody who passes over a text stands while it is read. For him the two halves of a pair
are two code units. -/
def TextState.passing : TextState → TextState
  | .plain => .plain
  | .escape => .escape
  | .unit _ digits => .unit none digits
  | .pairSlash _ => .plain
  | .pairLetter _ => .escape

/-- Outside of code units, passing over takes the steps of reading. -/
theorem skipQuoted_step (state : TextState) (c : Char) (s : List Char)
    (stays : ¬(state = .plain ∧ c = '"')) (outside : ∀ first digits, state ≠ .unit first digits) :
    skipQuoted state (c :: s) =
      (state.next c s >>= fun (_, state) => skipQuoted state s) := by
  rw [skipQuoted]
  · intro plain quote
    exact stays ⟨plain, quote⟩
  · exact outside

/-- A unit that is complete leaves the text behind it, whether or not it is half of a pair. -/
theorem passing_finishUnit (first : Option Nat) (unit : Nat) (meant : Option Char)
    (next : TextState) (finished : finishUnit first unit = .ok (meant, next)) :
    next.passing = .plain := by
  unfold finishUnit at finished
  split at finished
  · split at finished
    · cases finished
      rfl
    · cases finished
  · split at finished
    · cases finished
      rfl
    · split at finished
      · cases finished
      · cases finished
        rfl

theorem passing_next_plain (c : Char) (s : List Char) (meant : Option Char) (next : TextState)
    (stepped : TextState.plain.next c s = .ok (meant, next)) : next.passing = next := by
  unfold TextState.next at stepped
  dsimp only at stepped
  split at stepped
  · cases stepped
    rfl
  · split at stepped
    · cases stepped
    · cases stepped
      rfl

theorem passing_next_escape (c : Char) (s : List Char) (meant : Option Char) (next : TextState)
    (stepped : TextState.escape.next c s = .ok (meant, next)) : next.passing = next := by
  unfold TextState.next at stepped
  dsimp only at stepped
  split at stepped
  · cases stepped
    rfl
  · split at stepped
    · cases stepped
      rfl
    · cases stepped

/-- A step of reading is a step of passing over. -/
theorem skipQuoted_of_next (state next : TextState) (c : Char) (s : List Char)
    (meant : Option Char) (stays : ¬(state = .plain ∧ c = '"'))
    (stepped : state.next c s = .ok (meant, next)) :
    skipQuoted state.passing (c :: s) = skipQuoted next.passing s := by
  cases state with
  | plain =>
    rw [TextState.passing, skipQuoted_step .plain c s stays (by simp), stepped,
      passing_next_plain c s meant next stepped]
    rfl
  | escape =>
    rw [TextState.passing, skipQuoted_step .escape c s (by simp) (by simp), stepped,
      passing_next_escape c s meant next stepped]
    rfl
  | unit first digits =>
    unfold TextState.next at stepped
    dsimp only at stepped
    change skipQuoted (.unit none digits) (c :: s) = _
    rw [skipQuoted]
    split at stepped
    · cases stepped
    · split at stepped
      · rename_i last
        rw [if_pos last, passing_finishUnit _ _ _ _ stepped]
      · rename_i more
        cases stepped
        rw [if_neg more]
        rfl
  | pairSlash first =>
    unfold TextState.next at stepped
    dsimp only at stepped
    split at stepped
    · rename_i slash
      cases stepped
      subst slash
      rfl
    · cases stepped
  | pairLetter first =>
    unfold TextState.next at stepped
    dsimp only at stepped
    split at stepped
    · rename_i letter
      cases stepped
      subst letter
      rfl
    · cases stepped

theorem skipQuoted_of_readQuoted (state : TextState) (s text rest : List Char)
    (read : readQuoted state s = .ok (text, rest)) : skipQuoted state.passing s = .ok rest := by
  induction s generalizing state text with
  | nil => cases read
  | cons c s ih =>
    unfold readQuoted at read
    split at read
    · rename_i closing
      obtain ⟨rfl, rfl⟩ := closing
      cases read
      rfl
    · rename_i stays
      obtain ⟨⟨meant, next⟩, stepped, read⟩ := bind_eq_ok _ _ _ read
      obtain ⟨⟨later, left⟩, others, read⟩ := bind_eq_ok _ _ _ read
      cases read
      rw [skipQuoted_of_next state next c s meant stays stepped]
      exact ih next later others

theorem takes_text : TakesScalar readText := by
  intro s value rest read
  unfold readText at read
  split at read
  · rename_i body found
    obtain ⟨⟨text, left⟩, quoted, read⟩ := bind_eq_ok _ _ _ read
    cases read
    rw [found]
    exact skipQuoted_of_readQuoted .plain body text _ quoted
  · exact absurd read (unexpected_ne_ok _ _ _)

/-! ## Numbers and null -/

theorem skipSpace_skipSpace (s : List Char) : skipSpace (skipSpace s) = skipSpace s := by
  induction s with
  | nil => rfl
  | cons c s ih =>
    unfold skipSpace at ih ⊢
    rw [List.dropWhile_cons]
    split
    · exact ih
    · rename_i mark
      rw [List.dropWhile_cons_of_neg mark]

/-- What starts like a number is passed over as one. -/
theorem skipScalar_number (c : Char) (tail : List Char)
    (starts : c = '-' ∨ Text.Numeral.isDigit c = true) :
    skipScalar (c :: tail) = skipNumber (c :: tail) := by
  have other : ∀ letter, letter ≠ '-' → Text.Numeral.isDigit letter = false → c ≠ letter := by
    rintro letter sign digit rfl
    rw [digit] at starts
    exact starts.elim sign Bool.false_ne_true
  unfold skipScalar
  split
  · rename_i empty
    cases empty
  · rename_i same
    exact absurd (List.cons.inj same).1 (other 'n' (by decide) (by decide))
  · rename_i same
    exact absurd (List.cons.inj same).1 (other 't' (by decide) (by decide))
  · rename_i same
    exact absurd (List.cons.inj same).1 (other 'f' (by decide) (by decide))
  · rename_i same
    exact absurd (List.cons.inj same).1 (other '"' (by decide) (by decide))
  · rename_i same
    cases same
    rw [if_pos starts]

theorem skipNumber_of_readNumber (s rest : List Char) (number : Number)
    (read : readNumber s = .ok (number, rest)) : skipNumber s = .ok rest := by
  unfold readNumber at read
  obtain ⟨⟨literal, left⟩, written, read⟩ := bind_eq_ok _ _ _ read
  dsimp only at read
  unfold skipNumber
  rw [written]
  split at read
  · cases read
    rfl
  · cases read

theorem takes_unsigned (expected : String) : TakesScalar (readUnsigned expected) := by
  intro s value rest read
  unfold readUnsigned at read
  dsimp only at read
  split at read
  · rename_i c tail found
    split at read
    · rename_i starts
      obtain ⟨⟨number, left⟩, numbered, read⟩ := bind_eq_ok _ _ _ read
      rw [found] at numbered ⊢
      rw [skipScalar_number c tail starts, skipNumber_of_readNumber _ _ _ numbered]
      cases number with
      | natural n =>
        cases read
        rfl
      | negative n => cases read
      | decimal isNegative magnitude => cases read
    · exact absurd read (unexpected_ne_ok _ _ _)
  · cases read

/-- Null is passed over as a word. -/
theorem takes_option {α : Type} (item : Reader α) (takes : TakesScalar item) :
    TakesScalar (readOption item) := by
  intro s value rest read
  unfold readOption at read
  split at read
  · rename_i word found
    obtain ⟨left, null, read⟩ := bind_eq_ok _ _ _ read
    cases read
    rw [found]
    exact null
  · obtain ⟨⟨given, left⟩, item', read⟩ := bind_eq_ok _ _ _ read
    cases read
    have taken := takes _ _ _ item'
    rwa [skipSpace_skipSpace] at taken

theorem takesValue_of {α β : Type} (name : String) (required : Bool) (item : Reader β)
    (store : α → β → α) (takes : TakesScalar item) (record : α) :
    TakesValue ((Field.of name required item store).read record) := by
  intro s stored rest read
  obtain ⟨value, given, _⟩ := Field.of_eq_ok name required item store record stored s rest read
  exact skipValue_of_skipScalar s rest (takes s value rest given)

end GridChess.Json
