import GridChess.Position.Text
import GridChess.Proofs.Text.Integer

/-!
# Reading position texts

A text is read as a cell exactly when it is the text of that cell and the cell is on the board
asked for. No two positions of which one is on a board share their text, so the text of a
position off the board, or of another board, is never read as some cell.
-/

set_option autoImplicit false

namespace GridChess.Position

open GridChess.Text

theorem axisIndex?_eq_some_iff (size : Nat) (base c : Char) (i : Int) :
    axisIndex? size base c = some i ↔ within size i = true ∧ (c.toNat : Int) = base.toNat + i := by
  unfold axisIndex?
  rw [within_iff]
  split
  · simp only [Option.some.injEq]
    omega
  · simp only [reduceCtorEq, false_iff]
    omega

theorem toNat_ofNat (n : Nat) (valid : n.isValidChar) : (Char.ofNat n).toNat = n := by
  rw [Char.ofNat, dif_pos valid]
  rfl

/-- The code of a letter, which is the question mark if the coordinate has none. -/
theorem toNat_axisLetter (base : Char) (c : Int) :
    axisLetter base c = '?' ∨ ((axisLetter base c).toNat : Int) = base.toNat + c := by
  unfold axisLetter
  dsimp only
  split
  · rename_i shown
    right
    rw [toNat_ofNat _ shown.2]
    omega
  · exact Or.inl rfl

theorem axisLetter_of_within (base : Char) (size : Nat) (c : Int) (inside : within size c = true)
    (ascii : base.toNat + size ≤ 128) :
    ((axisLetter base c).toNat : Int) = base.toNat + c := by
  obtain ⟨low, high⟩ := within_iff.mp inside
  unfold axisLetter
  dsimp only
  have valid : ((base.toNat : Int) + c).toNat.isValidChar := Or.inl (by omega)
  rw [if_pos ⟨by omega, valid⟩, toNat_ofNat _ valid]
  omega

/-- A character read as a coordinate is the letter of that coordinate. -/
theorem eq_axisLetter (size : Nat) (base c : Char) (i : Int)
    (read : axisIndex? size base c = some i) (ascii : base.toNat + size ≤ 128) :
    c = axisLetter base i := by
  obtain ⟨inside, code⟩ := (axisIndex?_eq_some_iff size base c i).mp read
  have letter := axisLetter_of_within base size i inside ascii
  apply Char.toNat_inj.mp
  omega

/-- No letter of the board is the question mark, so it belongs to one coordinate only. -/
theorem axisLetter_injective (base : Char) (size : Nat) (c c' : Int)
    (inside : within size c = true) (ascii : base.toNat + size ≤ 128) (shown : 63 < base.toNat)
    (same : axisLetter base c = axisLetter base c') : c = c' := by
  have letter := axisLetter_of_within base size c inside ascii
  obtain ⟨low, high⟩ := within_iff.mp inside
  rw [same] at letter
  rcases toNat_axisLetter base c' with unknown | letter'
  · rw [unknown] at letter
    have code : ('?' : Char).toNat = 63 := rfl
    omega
  · omega

/-- On a board, ranks are numbered by one digit each, which is a letter counted from one. -/
theorem integer_of_within (size : Nat) (c : Int) (inside : within size c = true)
    (small : size < 10) : Numeral.integer (c + 1) = [axisLetter '1' c] := by
  obtain ⟨low, high⟩ := within_iff.mp inside
  have one : ('1' : Char).toNat = 49 := rfl
  have letter := axisLetter_of_within '1' size c inside (by omega)
  have code := Nat.toNat_digitChar_of_lt_ten (n := (c + 1).toNat) (by omega)
  have digit : Nat.digitChar (c + 1).toNat = axisLetter '1' c := by
    apply Char.toNat_inj.mp
    omega
  rw [Numeral.integer_of_small (c + 1) (by omega) (by omega), digit]

theorem axisIndex?_axisLetter (size : Nat) (base : Char) (c : Int)
    (inside : within size c = true) (ascii : base.toNat + size ≤ 128) :
    axisIndex? size base (axisLetter base c) = some c :=
  (axisIndex?_eq_some_iff size base _ c).mpr
    ⟨inside, axisLetter_of_within base size c inside ascii⟩

theorem toList_toString (p : Position) : (toString p).toList = p.chars := String.toList_ofList

theorem chars_eq_of_toString_eq (p q : Position) (same : toString p = toString q) :
    p.chars = q.chars := by
  rw [← toList_toString p, same, toList_toString q]

theorem toString_eq_of_chars (p : Position) (text : String) (same : p.chars = text.toList) :
    toString p = text :=
  String.toList_inj.mp ((toList_toString p).trans same)

/-! ## The flat board -/

theorem chars_flat (file rank : Int) (inside : (flat file rank).onFlatBoard = true) :
    (flat file rank).chars = [axisLetter 'a' file, axisLetter '1' rank] := by
  obtain ⟨_, high⟩ := Bool.and_eq_true_iff.mp inside
  change axisLetter 'a' file :: Numeral.integer (rank + 1) = _
  rw [integer_of_within flatSize rank high (by decide)]

/-- A text that is read is the text of the cell it is read as. -/
theorem toString_of_readFlat? (text : String) (p : Position) (read : readFlat? text = some p) :
    p.onFlatBoard = true ∧ toString p = text := by
  unfold readFlat? at read
  split at read
  · rename_i f r shape
    simp only [Option.bind_eq_bind, Option.bind_eq_some_iff, Option.pure_def,
      Option.some.injEq] at read
    obtain ⟨file, first, rank, second, rfl⟩ := read
    have inside : (flat file rank).onFlatBoard = true := Bool.and_eq_true_iff.mpr
      ⟨((axisIndex?_eq_some_iff _ _ _ _).mp first).1,
        ((axisIndex?_eq_some_iff _ _ _ _).mp second).1⟩
    refine ⟨inside, toString_eq_of_chars _ text ?_⟩
    rw [chars_flat file rank inside, shape, eq_axisLetter flatSize 'a' f file first (by decide),
      eq_axisLetter flatSize '1' r rank second (by decide)]
  · cases read

theorem readFlat?_of_onFlatBoard (p : Position) (inside : p.onFlatBoard = true) :
    readFlat? (toString p) = some p := by
  cases p with
  | flat file rank =>
    obtain ⟨wide, high⟩ := Bool.and_eq_true_iff.mp inside
    unfold readFlat?
    rw [toList_toString, chars_flat file rank inside]
    simp only [axisIndex?_axisLetter flatSize 'a' file wide (by decide),
      axisIndex?_axisLetter flatSize '1' rank high (by decide), Option.bind_eq_bind,
      Option.bind_some, Option.pure_def]
  | hyper x y z w => cases inside
  | invalid => cases inside

theorem length_integer_pos (z : Int) : 0 < (Numeral.integer z).length :=
  List.length_pos_iff.mpr (Numeral.integer_ne_nil z)

theorem length_chars_invalid : invalid.chars.length = 16 := by decide

/-- No other position is written like a cell of the flat board. -/
theorem eq_of_chars_flat (p q : Position) (inside : q.onFlatBoard = true)
    (same : p.chars = q.chars) : p = q := by
  cases q with
  | flat file rank =>
    have two := congrArg List.length (same.trans (chars_flat file rank inside))
    cases p with
    | flat file' rank' =>
      obtain ⟨wide, _⟩ := Bool.and_eq_true_iff.mp inside
      obtain ⟨letter, number⟩ := List.cons.inj same
      have files := axisLetter_injective 'a' flatSize file file' wide (by decide) (by decide)
        letter.symm
      have ranks := Numeral.integer_injective _ _ number
      rw [files, show rank' = rank by omega]
    | hyper x y z w =>
      have first := length_integer_pos (y + 1)
      have second := length_integer_pos (w + 1)
      change (axisLetter 'a' x :: Numeral.integer (y + 1) ++
        axisLetter 'm' z :: Numeral.integer (w + 1)).length = 2 at two
      simp only [List.length_append, List.length_cons] at two
      omega
    | invalid =>
      rw [length_chars_invalid] at two
      cases two
  | hyper x y z w => cases inside
  | invalid => cases inside

/-- The flat board reads back its own cells and nothing else. -/
theorem readFlat?_toString (p : Position) :
    readFlat? (toString p) = if p.onFlatBoard = true then some p else none := by
  split
  · rename_i inside
    exact readFlat?_of_onFlatBoard p inside
  · rename_i outside
    cases read : readFlat? (toString p) with
    | none => rfl
    | some q =>
      obtain ⟨inside, written⟩ := toString_of_readFlat? _ q read
      have same := eq_of_chars_flat p q inside (chars_eq_of_toString_eq p q written.symm)
      exact absurd (same ▸ inside) outside

/-! ## The hyper-board -/

theorem chars_hyper (x y z w : Int) (inside : (hyper x y z w).onHyperBoard = true) :
    (hyper x y z w).chars =
      [axisLetter 'a' x, axisLetter '1' y, axisLetter 'm' z, axisLetter '1' w] := by
  simp only [onHyperBoard, Bool.and_eq_true, and_assoc] at inside
  obtain ⟨_, hy, _, hw⟩ := inside
  change axisLetter 'a' x :: Numeral.integer (y + 1) ++
    axisLetter 'm' z :: Numeral.integer (w + 1) = _
  rw [integer_of_within hyperSize y hy (by decide), integer_of_within hyperSize w hw (by decide)]
  rfl

theorem toString_of_readHyper? (text : String) (p : Position) (read : readHyper? text = some p) :
    p.onHyperBoard = true ∧ toString p = text := by
  unfold readHyper? at read
  split at read
  · rename_i a b c d shape
    simp only [Option.bind_eq_bind, Option.bind_eq_some_iff, Option.pure_def,
      Option.some.injEq] at read
    obtain ⟨x, hx, y, hy, z, hz, w, hw, rfl⟩ := read
    have inside : (hyper x y z w).onHyperBoard = true := by
      simp only [onHyperBoard, Bool.and_eq_true, ((axisIndex?_eq_some_iff _ _ _ _).mp hx).1,
        ((axisIndex?_eq_some_iff _ _ _ _).mp hy).1, ((axisIndex?_eq_some_iff _ _ _ _).mp hz).1,
        ((axisIndex?_eq_some_iff _ _ _ _).mp hw).1, and_self]
    refine ⟨inside, toString_eq_of_chars _ text ?_⟩
    rw [chars_hyper x y z w inside, shape, eq_axisLetter hyperSize 'a' a x hx (by decide),
      eq_axisLetter hyperSize '1' b y hy (by decide),
      eq_axisLetter hyperSize 'm' c z hz (by decide),
      eq_axisLetter hyperSize '1' d w hw (by decide)]
  · cases read

theorem readHyper?_of_onHyperBoard (p : Position) (inside : p.onHyperBoard = true) :
    readHyper? (toString p) = some p := by
  cases p with
  | hyper x y z w =>
    have shape := chars_hyper x y z w inside
    simp only [onHyperBoard, Bool.and_eq_true, and_assoc] at inside
    obtain ⟨hx, hy, hz, hw⟩ := inside
    unfold readHyper?
    rw [toList_toString, shape]
    simp only [axisIndex?_axisLetter hyperSize 'a' x hx (by decide),
      axisIndex?_axisLetter hyperSize '1' y hy (by decide),
      axisIndex?_axisLetter hyperSize 'm' z hz (by decide),
      axisIndex?_axisLetter hyperSize '1' w hw (by decide), Option.bind_eq_bind,
      Option.bind_some, Option.pure_def]
  | flat file rank => cases inside
  | invalid => cases inside

/-- No numeral holds a letter of the third axis. -/
theorem third_letter_notMem (z n : Int) (inside : within hyperSize z = true) :
    axisLetter 'm' z ∉ Numeral.integer n := by
  intro member
  have letter := axisLetter_of_within 'm' hyperSize z inside (by decide)
  have bounds := within_iff.mp inside
  have base : ('m' : Char).toNat = 109 := rfl
  rcases Numeral.mem_integer n _ member with digit | sign
  · simp only [Numeral.isDigit, Bool.and_eq_true, decide_eq_true_eq, Char.le_def,
      UInt32.le_iff_toNat_le] at digit
    have nine : ('9' : Char).val.toNat = 57 := rfl
    have code : (axisLetter 'm' z).toNat = (axisLetter 'm' z).val.toNat := rfl
    omega
  · have minus : ('-' : Char).toNat = 45 := rfl
    rw [sign] at letter
    omega

theorem eq_of_chars_hyper (p q : Position) (inside : q.onHyperBoard = true)
    (same : p.chars = q.chars) : p = q := by
  cases q with
  | hyper x y z w =>
    have letters := chars_hyper x y z w inside
    have four := congrArg List.length (same.trans letters)
    simp only [onHyperBoard, Bool.and_eq_true, and_assoc] at inside
    obtain ⟨hx, hy, hz, hw⟩ := inside
    cases p with
    | flat file rank =>
      obtain ⟨_, number⟩ := List.cons.inj (same.trans letters)
      have member : axisLetter 'm' z ∈ Numeral.integer (rank + 1) := by simp [number]
      exact absurd member (third_letter_notMem z (rank + 1) hz)
    | hyper x' y' z' w' =>
      have first := length_integer_pos (y' + 1)
      have second := length_integer_pos (w' + 1)
      change (axisLetter 'a' x' :: Numeral.integer (y' + 1) ++
        axisLetter 'm' z' :: Numeral.integer (w' + 1)).length = 4 at four
      simp only [List.length_append, List.length_cons] at four
      obtain ⟨letter, rest⟩ := List.cons.inj same
      have width : (Numeral.integer (y' + 1)).length = (Numeral.integer (y + 1)).length := by
        rw [integer_of_within hyperSize y hy (by decide), List.length_singleton]
        omega
      obtain ⟨number, rest⟩ := List.append_inj rest width
      obtain ⟨letter', number'⟩ := List.cons.inj rest
      rw [axisLetter_injective 'a' hyperSize x x' hx (by decide) (by decide) letter.symm,
        axisLetter_injective 'm' hyperSize z z' hz (by decide) (by decide) letter'.symm]
      have ys := Numeral.integer_injective _ _ number
      have ws := Numeral.integer_injective _ _ number'
      rw [show y' = y by omega, show w' = w by omega]
    | invalid =>
      rw [length_chars_invalid] at four
      cases four
  | flat file rank => cases inside
  | invalid => cases inside

/-- The hyper-board reads back its own cells and nothing else. -/
theorem readHyper?_toString (p : Position) :
    readHyper? (toString p) = if p.onHyperBoard = true then some p else none := by
  split
  · rename_i inside
    exact readHyper?_of_onHyperBoard p inside
  · rename_i outside
    cases read : readHyper? (toString p) with
    | none => rfl
    | some q =>
      obtain ⟨inside, written⟩ := toString_of_readHyper? _ q read
      have same := eq_of_chars_hyper p q inside (chars_eq_of_toString_eq p q written.symm)
      exact absurd (same ▸ inside) outside

end GridChess.Position
