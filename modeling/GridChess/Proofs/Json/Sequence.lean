import GridChess.Proofs.Json.Reads

/-!
# Reading sequences

A sequence is read back element by element. After the first element the reader stands in front
of a comma or the closing bracket, and the induction is on the elements that are left.
-/

set_option autoImplicit false

namespace GridChess.Json

/-! ## Between elements -/

/-- Values after the first one, each behind a comma. -/
def followers (items : List Writer) (style : Style) (depth : Nat) : List Char :=
  items.flatMap fun item => ',' :: style.newline depth ++ item style depth

theorem followers_cons_append (item : Writer) (items : List Writer) (style : Style) (depth : Nat)
    (rest : List Char) :
    followers (item :: items) style depth ++ rest =
      ',' :: (style.newline depth ++
        (item style depth ++ (followers items style depth ++ rest))) := by
  unfold followers
  rw [List.flatMap_cons, List.append_assoc, List.append_assoc, List.cons_append]

theorem separated_cons_append (item : Writer) (items : List Writer) (style : Style) (depth : Nat)
    (rest : List Char) :
    Writer.separated (item :: items) style depth ++ rest =
      style.newline depth ++ (item style depth ++ (followers items style depth ++ rest)) := by
  unfold Writer.separated followers
  rw [List.append_assoc, List.append_assoc]

theorem closes_followers (items : List Writer) (style : Style) (depth : Nat) (rest : List Char)
    (closes : Closes rest) : Closes (followers items style depth ++ rest) := by
  cases items with
  | nil => exact closes
  | cons item items =>
    rw [followers_cons_append]
    exact closes_cons _ _ (Or.inl rfl)

theorem bracketed_nil_append (opening closing : Char) (style : Style) (depth : Nat)
    (rest : List Char) :
    Writer.bracketed opening closing [] style depth ++ rest = opening :: closing :: rest := rfl

theorem bracketed_cons_append (opening closing : Char) (item : Writer) (items : List Writer)
    (style : Style) (depth : Nat) (rest : List Char) :
    Writer.bracketed opening closing (item :: items) style depth ++ rest =
      opening :: (style.newline (depth + 1) ++ (item style (depth + 1) ++
        (followers items style (depth + 1) ++ (style.newline depth ++ closing :: rest)))) := by
  unfold Writer.bracketed
  rw [if_neg (by simp), List.cons_append, List.cons_append, List.cons_append, List.append_assoc,
    List.append_assoc, separated_cons_append, List.singleton_append]

theorem startsBut_bracketed (other opening closing : Char) (items : List Writer)
    (mark : isSpace opening = false) (opens : opening ≠ other) :
    StartsBut other (Writer.bracketed opening closing items) := by
  intro style depth
  unfold Writer.bracketed
  split
  · exact ⟨opening, _, rfl, mark, opens⟩
  · exact ⟨opening, _, rfl, mark, opens⟩

/-! ## Elements -/

theorem nextElement_end (isFirst : Bool) (space rest : List Char) (blank : IsBlank space) :
    nextElement isFirst (space ++ ']' :: rest) = .ok none := by
  unfold nextElement
  rw [skipSpace_mark space _ _ blank (by decide)]
  rfl

theorem closeSequence_end (space rest : List Char) (blank : IsBlank space) :
    closeSequence (space ++ ']' :: rest) = .ok rest := by
  unfold closeSequence
  rw [skipSpace_mark space _ _ blank (by decide)]
  rfl

theorem nextElement_first (space : List Char) (c : Char) (rest : List Char)
    (blank : IsBlank space) (mark : isSpace c = false) (opens : c ≠ ']') :
    nextElement true (space ++ c :: rest) = .ok (some (c :: rest)) := by
  unfold nextElement
  rw [skipSpace_mark space _ _ blank mark]
  split
  · rename_i none
    cases none
  · rename_i close
    cases close
    exact absurd rfl opens
  · rename_i same
    cases same
    rfl

theorem nextElement_comma (space : List Char) (c : Char) (rest : List Char)
    (blank : IsBlank space) (mark : isSpace c = false) (opens : c ≠ ']') :
    nextElement false (',' :: (space ++ c :: rest)) = .ok (some (c :: rest)) := by
  unfold nextElement
  rw [skipSpace_cons ',' _ (by decide)]
  split
  · rename_i none
    cases none
  · rename_i close
    exact absurd (List.cons.inj close).1 (by decide)
  · rename_i same
    cases same
    rw [if_neg (by decide), if_pos rfl, skipSpace_mark space _ _ blank mark]
    split
    · rename_i none
      cases none
    · rename_i close
      cases close
      exact absurd rfl opens
    · rfl

theorem readElements_end {α : Type} (item : Reader α) (isFirst : Bool) (space rest : List Char)
    (blank : IsBlank space) :
    readElements item isFirst (space ++ ']' :: rest) = .ok ([], rest) := by
  rw [readElements, nextElement_end isFirst space rest blank, ok_bind]
  simp only [closeSequence_end space rest blank, ok_bind]
  rfl

theorem readElements_step {α : Type} (item : Reader α) (isFirst : Bool)
    (s start later rest : List Char) (value : α) (values : List α)
    (next : nextElement isFirst s = .ok (some start)) (first : item start = .ok (value, later))
    (shorter : later.length < s.length)
    (others : readElements item false later = .ok (values, rest)) :
    readElements item isFirst s = .ok (value :: values, rest) := by
  rw [readElements, next, ok_bind]
  simp only [first, ok_bind, shorter, if_true, others]
  rfl

/-- The elements that are left are read, up to the closing bracket. -/
theorem readElements_followers {α : Type} (item : Reader α) (write : α → Writer)
    (values : List α) (reads : ∀ value ∈ values, Reads item (write value) value) (style : Style)
    (depth : Nat) (space rest : List Char) (blank : IsBlank space)
    (closes : Closes (space ++ ']' :: rest)) :
    readElements item false
        (followers (values.map write) style depth ++ (space ++ ']' :: rest)) =
      .ok (values, rest) := by
  induction values with
  | nil => exact readElements_end item false space rest blank
  | cons value values ih =>
    have others := ih fun other member => reads other (by simp [member])
    have first := reads value (by simp)
    obtain ⟨c, tail, written, mark, opens⟩ := first.starts style depth
    have back := first.back style depth [] _ isBlank_nil
      (closes_followers (values.map write) style depth _ closes)
    rw [List.map_cons, followers_cons_append]
    rw [List.nil_append] at back
    refine readElements_step item false _ _ _ rest value values ?_ back ?_ others
    · rw [written, List.cons_append]
      exact nextElement_comma _ c _ (isBlank_newline style depth) mark opens
    · simp only [List.length_cons, List.length_append]
      omega

/-- A sequence is read back if its elements are. -/
theorem reads_sequence {α : Type} (item : Reader α) (write : α → Writer) (values : List α)
    (reads : ∀ value ∈ values, Reads item (write value) value) :
    Reads (readSequence item) (Writer.sequence (values.map write)) values where
  back := by
    intro style depth space rest blank closes
    unfold readSequence Writer.sequence
    cases values with
    | nil =>
      rw [List.map_nil, bracketed_nil_append, skipSpace_mark space _ _ blank (by decide)]
      exact readElements_end item true [] rest isBlank_nil
    | cons value values =>
      have first := reads value (by simp)
      obtain ⟨c, tail, written, mark, opens⟩ := first.starts style (depth + 1)
      have closing := closes_newline style depth (']' :: rest) (closes_cons _ _ (by simp))
      have others := readElements_followers item write values
        (fun other member => reads other (by simp [member])) style (depth + 1)
        (style.newline depth) rest (isBlank_newline style depth) closing
      have back := first.back style (depth + 1) [] _ isBlank_nil
        (closes_followers (values.map write) style (depth + 1) _ closing)
      rw [List.nil_append] at back
      rw [List.map_cons, bracketed_cons_append, skipSpace_mark space _ _ blank (by decide)]
      refine readElements_step item true _ _ _ rest value values ?_ back ?_ others
      · rw [written, List.cons_append]
        exact nextElement_first _ c _ (isBlank_newline style (depth + 1)) mark opens
      · rw [written]
        simp only [List.length_cons, List.length_append]
        omega
  starts := startsBut_bracketed ']' '[' ']' _ (by decide) (by decide)

end GridChess.Json
