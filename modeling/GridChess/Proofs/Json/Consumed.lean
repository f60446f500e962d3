import GridChess.Json.Schema
import GridChess.Proofs.Outcome

/-!
# What readers take from a text

A reader never hands back more than it was given. Hence what it reads is bounded by the length of
the text: a sequence has no more elements than there are characters. The bounds carry over from
the fields of a record to the record (`readsWithin_schema`), in both of its forms.
-/

set_option autoImplicit false

namespace GridChess.Json

/-- Given at most `limit` characters, the reader hands back no more than those, and only values
that have the property. -/
def ReadsWithin {α : Type} (limit : Nat) (read : Reader α) (P : α → Prop) : Prop :=
  ∀ s value rest, s.length ≤ limit → read s = .ok (value, rest) →
    rest.length ≤ s.length ∧ P value

/-! ## Parts of values -/

theorem length_skipSpace_le (s : List Char) : (skipSpace s).length ≤ s.length :=
  (List.dropWhile_suffix isSpace).length_le

theorem length_lt_of_skipSpace (s rest : List Char) (c : Char) (found : skipSpace s = c :: rest) :
    rest.length < s.length := by
  have space := length_skipSpace_le s
  rwa [found, List.length_cons] at space

theorem unexpected_ne_ok {α : Type} (expected : String) (s : List Char) (value : α) :
    (unexpected expected s : Except Fault α) ≠ .ok value := by
  intro succeeds
  obtain ⟨found, _, impossible⟩ := bind_eq_ok _ _ _ succeeds
  cases impossible

theorem length_readWord_le (word s rest : List Char) (read : readWord word s = .ok rest) :
    rest.length ≤ s.length := by
  induction word generalizing s with
  | nil =>
    cases read
    exact Nat.le_refl _
  | cons w word ih =>
    cases s with
    | nil => cases read
    | cons c s =>
      unfold readWord at read
      split at read
      · exact Nat.le_succ_of_le (ih s read)
      · cases read

theorem length_readQuoted_lt (state : TextState) (s text rest : List Char)
    (read : readQuoted state s = .ok (text, rest)) : rest.length < s.length := by
  induction s generalizing state text with
  | nil => cases read
  | cons c s ih =>
    unfold readQuoted at read
    split at read
    · cases read
      exact Nat.lt_succ_self _
    · obtain ⟨⟨meant, next⟩, _, read⟩ := bind_eq_ok _ _ _ read
      obtain ⟨⟨later, left⟩, others, read⟩ := bind_eq_ok _ _ _ read
      cases read
      exact Nat.lt_succ_of_lt (ih next later others)

theorem length_readColon_lt (s rest : List Char) (read : readColon s = .ok rest) :
    rest.length < s.length := by
  unfold readColon at read
  split at read
  · rename_i found
    cases read
    exact length_lt_of_skipSpace _ _ _ found
  · cases read
  · cases read

theorem length_closeSequence_lt (s rest : List Char) (read : closeSequence s = .ok rest) :
    rest.length < s.length := by
  unfold closeSequence at read
  split at read
  · rename_i found
    cases read
    exact length_lt_of_skipSpace _ _ _ found
  · cases read
  · cases read

theorem length_nextElement_le (isFirst : Bool) (s start : List Char)
    (next : nextElement isFirst s = .ok (some start)) : start.length ≤ s.length := by
  unfold nextElement at next
  split at next
  · cases next
  · cases next
  · rename_i c rest _ found
    have begins := length_lt_of_skipSpace _ _ _ found
    split at next
    · cases next
      exact begins
    · split at next
      · have later := length_skipSpace_le rest
        split at next
        · cases next
        · cases next
        · cases next
          omega
      · cases next

/-- The name of a member is read from where it begins. -/
theorem length_name_lt (start rest : List Char) (name : Option String)
    (read : (match start with
      | '"' :: body => do
        let (name, rest) ← readQuoted .plain body
        return (some (String.ofList name), rest)
      | [] => throw .truncated
      | _ => throw .malformed : Except Fault (Option String × List Char)) = .ok (name, rest)) :
    rest.length < start.length := by
  split at read
  · obtain ⟨⟨text, left⟩, quoted, read⟩ := bind_eq_ok _ _ _ read
    cases read
    exact Nat.lt_succ_of_lt (length_readQuoted_lt _ _ _ _ quoted)
  · cases read
  · cases read

theorem length_nextMember_le (isFirst : Bool) (s rest : List Char) (name : Option String)
    (next : nextMember isFirst s = .ok (name, rest)) : rest.length ≤ s.length := by
  unfold nextMember at next
  dsimp only at next
  split at next
  · cases next
  · rename_i found
    cases next
    exact Nat.le_of_lt (length_lt_of_skipSpace _ _ _ found)
  · rename_i c tail _ found
    have begins := length_lt_of_skipSpace _ _ _ found
    split at next
    · have space := length_skipSpace_le s
      have named := length_name_lt _ _ _ next
      omega
    · split at next
      · have later := length_skipSpace_le tail
        have named := length_name_lt _ _ _ next
        omega
      · cases next

/-! ## Values -/

theorem readsWithin_text (limit : Nat) : ReadsWithin limit readText fun _ => True := by
  intro s value rest _ read
  unfold readText at read
  split at read
  · rename_i found
    have begins := length_lt_of_skipSpace _ _ _ found
    obtain ⟨⟨text, left⟩, quoted, read⟩ := bind_eq_ok _ _ _ read
    cases read
    have shorter := length_readQuoted_lt _ _ _ _ quoted
    exact ⟨by omega, trivial⟩
  · exact absurd read (unexpected_ne_ok _ _ _)

theorem readsWithin_parsed {α ε : Type} (limit : Nat) (parse : String → Except ε α)
    (reason : ε → String) : ReadsWithin limit (readParsed parse reason) fun _ => True := by
  intro s value rest short read
  unfold readParsed at read
  obtain ⟨⟨text, left⟩, quoted, read⟩ := bind_eq_ok _ _ _ read
  have bound := readsWithin_text limit s text left short quoted
  dsimp only at read
  split at read
  · cases read
    exact bound
  · cases read

theorem readsWithin_option {α : Type} (limit : Nat) (item : Reader α) (P : α → Prop)
    (reads : ReadsWithin limit item P) : ReadsWithin limit (readOption item) fun _ => True := by
  intro s value rest short read
  unfold readOption at read
  split at read
  · rename_i found
    have begins := length_lt_of_skipSpace _ _ _ found
    obtain ⟨left, word, read⟩ := bind_eq_ok _ _ _ read
    cases read
    have shorter := length_readWord_le _ _ _ word
    exact ⟨by omega, trivial⟩
  · have space := length_skipSpace_le s
    obtain ⟨⟨inner, left⟩, first, read⟩ := bind_eq_ok _ _ _ read
    cases read
    have bound := reads _ inner rest (by omega) first
    exact ⟨by omega, trivial⟩

theorem readsWithin_null (limit : Nat) : ReadsWithin limit readNull fun _ => True := by
  intro s value rest _ read
  unfold readNull at read
  split at read
  · rename_i found
    have begins := length_lt_of_skipSpace _ _ _ found
    obtain ⟨left, word, read⟩ := bind_eq_ok _ _ _ read
    cases read
    have shorter := length_readWord_le _ _ _ word
    exact ⟨by omega, trivial⟩
  · exact absurd read (unexpected_ne_ok _ _ _)

theorem readsWithin_variant {α : Type} (limit : Nat) (name : α → String) (all : List α) :
    ReadsWithin limit (readVariant name all) fun _ => True := by
  intro s value rest short read
  unfold readVariant at read
  split at read
  · cases read
  · obtain ⟨⟨text, left⟩, quoted, read⟩ := bind_eq_ok _ _ _ read
    obtain ⟨known, _, read⟩ := bind_eq_ok _ _ _ read
    cases read
    exact readsWithin_text limit s text rest short quoted
  · rename_i inner found
    have begins := length_lt_of_skipSpace _ _ _ found
    obtain ⟨⟨text, left⟩, member, read⟩ := bind_eq_ok _ _ _ read
    have named := length_nextMember_le _ _ _ _ member
    dsimp only at read
    split at read
    · cases read
    · rename_i same
      cases same
      obtain ⟨known, _, read⟩ := bind_eq_ok _ _ _ read
      obtain ⟨after, colon, read⟩ := bind_eq_ok _ _ _ read
      obtain ⟨⟨_, left⟩, null, read⟩ := bind_eq_ok _ _ _ read
      have passed := length_readColon_lt _ _ colon
      have nothing := (readsWithin_null limit _ _ _ (by omega) null).1
      dsimp only at read
      split at read
      · rename_i brace
        cases read
        have ends := length_lt_of_skipSpace _ _ _ brace
        exact ⟨by omega, trivial⟩
      · cases read
      · cases read
  · cases read

/-! ## Sequences -/

/-- Every element takes a character at least. -/
theorem length_readElements_le {α : Type} (item : Reader α) (isFirst : Bool) (s rest : List Char)
    (values : List α) (read : readElements item isFirst s = .ok (values, rest)) :
    rest.length ≤ s.length ∧ values.length ≤ s.length := by
  induction size : s.length using Nat.strongRecOn generalizing isFirst s values with
  | ind size ih =>
    rw [readElements] at read
    obtain ⟨start?, _, read⟩ := bind_eq_ok _ _ _ read
    cases start? with
    | none =>
      obtain ⟨left, closed, read⟩ := bind_eq_ok _ _ _ read
      cases read
      have shorter := length_closeSequence_lt _ _ closed
      exact ⟨by omega, Nat.zero_le _⟩
    | some start =>
      obtain ⟨⟨value, left⟩, _, read⟩ := bind_eq_ok _ _ _ read
      dsimp only at read
      split at read
      · rename_i shorter
        obtain ⟨⟨later, left'⟩, others, read⟩ := bind_eq_ok _ _ _ read
        cases read
        have bounds := ih left.length (by omega) false left later others rfl
        dsimp only at bounds ⊢
        rw [List.length_cons]
        exact ⟨by omega, by omega⟩
      · cases read

theorem readsWithin_sequence {α : Type} (limit : Nat) (item : Reader α) :
    ReadsWithin limit (readSequence item) fun values => values.length ≤ limit := by
  intro s values rest short read
  unfold readSequence at read
  split at read
  · rename_i found
    have begins := length_lt_of_skipSpace _ _ _ found
    have bounds := length_readElements_le item true _ rest values read
    exact ⟨by omega, by omega⟩
  · exact absurd read (unexpected_ne_ok _ _ _)

/-! ## Records -/

/-- Reading a field is reading its value, which is then stored. -/
theorem Field.of_eq_ok {α β : Type} (name : String) (required : Bool) (item : Reader β)
    (store : α → β → α) (record stored : α) (s rest : List Char)
    (read : (Field.of name required item store).read record s = .ok (stored, rest)) :
    ∃ value, item s = .ok (value, rest) ∧ store record value = stored := by
  obtain ⟨⟨value, left⟩, given, read⟩ := bind_eq_ok _ _ _ read
  cases read
  exact ⟨value, given, rfl⟩

section
variable {α : Type} (limit : Nat) (schema : Schema α) (P : α → Prop)

/-- Each of the fields keeps the property of the record. -/
def FieldsWithin (fields : List (Field α)) : Prop :=
  ∀ field ∈ fields, ∀ record, P record → ReadsWithin limit (field.read record) P

theorem fieldsWithin_nil : FieldsWithin limit P [] := fun _ member => nomatch member

theorem fieldsWithin_cons {β : Type} (name : String) (required : Bool) (item : Reader β)
    (store : α → β → α) (Q : β → Prop) (fields : List (Field α))
    (reads : ReadsWithin limit item Q)
    (stores : ∀ record value, P record → Q value → P (store record value))
    (others : FieldsWithin limit P fields) :
    FieldsWithin limit P (.of name required item store :: fields) := by
  refine List.forall_mem_cons.mpr ⟨?_, others⟩
  intro record holds s next rest short read
  obtain ⟨value, first, rfl⟩ := Field.of_eq_ok name required item store record next s rest read
  have bound := reads s value rest short first
  exact ⟨bound.1, stores record value holds bound.2⟩

theorem readsWithin_positions (fields : List (Field α)) (within : FieldsWithin limit P fields)
    (index : Nat) (isFirst : Bool) (record : α) (holds : P record) :
    ReadsWithin limit (schema.readPositions fields index isFirst record) P := by
  induction fields generalizing index isFirst record with
  | nil =>
    intro s next rest short read
    obtain ⟨left, closed, read⟩ := bind_eq_ok _ _ _ read
    cases read
    exact ⟨Nat.le_of_lt (length_closeSequence_lt _ _ closed), holds⟩
  | cons field fields ih =>
    have others : FieldsWithin limit P fields :=
      fun other member => within other (List.mem_cons_of_mem _ member)
    intro s next rest short read
    unfold Schema.readPositions at read
    obtain ⟨start?, element, read⟩ := bind_eq_ok _ _ _ read
    cases start? with
    | some start =>
      have begins := length_nextElement_le _ _ _ element
      obtain ⟨⟨stored, left⟩, first, read⟩ := bind_eq_ok _ _ _ read
      have bound := within field List.mem_cons_self record holds start stored left
        (by omega) first
      have later := ih others (index + 1) false stored bound.2 left next rest (by omega) read
      exact ⟨by omega, later.2⟩
    | none =>
      dsimp only at read
      split at read
      · cases read
      · exact ih others (index + 1) isFirst record holds s next rest short read

theorem readsWithin_members (within : FieldsWithin limit P schema.fields) (seen : List String)
    (isFirst : Bool) (record : α) (holds : P record) :
    ReadsWithin limit (schema.readMembers seen record isFirst) P := by
  intro s next rest short read
  induction size : s.length using Nat.strongRecOn generalizing seen isFirst record s with
  | ind size ih =>
    rw [Schema.readMembers] at read
    obtain ⟨⟨name?, member⟩, named, read⟩ := bind_eq_ok _ _ _ read
    have begins := length_nextMember_le _ _ _ _ named
    cases name? with
    | none =>
      dsimp only at read
      split at read
      · cases read
      · cases read
        exact ⟨by omega, holds⟩
    | some name =>
      obtain ⟨⟨stored, left⟩, value, read⟩ := bind_eq_ok _ _ _ read
      dsimp only at read
      have kept : P stored := by
        unfold Schema.readMember at value
        split at value
        · obtain ⟨after, _, value⟩ := bind_eq_ok _ _ _ value
          obtain ⟨skipped, _, value⟩ := bind_eq_ok _ _ _ value
          cases value
          exact holds
        · rename_i field found
          split at value
          · cases value
          · obtain ⟨after, colon, value⟩ := bind_eq_ok _ _ _ value
            have passed := length_readColon_lt _ _ colon
            exact (within field (List.mem_of_find?_eq_some found) record holds after stored left
              (by omega) value).2
      split at read
      · rename_i shorter
        have later := ih left.length (by omega) (name :: seen) false stored kept left (by omega)
          read rfl
        exact ⟨by omega, later.2⟩
      · cases read

theorem readsWithin_schema (blank : P schema.blank)
    (within : FieldsWithin limit P schema.fields) : ReadsWithin limit schema.read P := by
  intro s value rest short read
  unfold Schema.read at read
  split at read
  · rename_i found
    have begins := length_lt_of_skipSpace _ _ _ found
    have bound := readsWithin_positions limit schema P schema.fields within 0 true schema.blank
      blank _ value rest (by omega) read
    exact ⟨by omega, bound.2⟩
  · rename_i found
    have begins := length_lt_of_skipSpace _ _ _ found
    have bound := readsWithin_members limit schema P within [] true schema.blank blank _ value
      rest (by omega) read
    exact ⟨by omega, bound.2⟩
  · exact absurd read (unexpected_ne_ok _ _ _)

end

end GridChess.Json
