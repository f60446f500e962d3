import GridChess.Json.Reader
import GridChess.Json.Writer
import GridChess.Proofs.Outcome

/-!
# Reading what was written

A reader reads a writer if it takes the written value from the front of a text, whatever the
style, the depth and the text that follows. Space before the value is passed over. What follows
is the end of the text or whatever stands between values: numbers end nowhere else.
-/

set_option autoImplicit false

namespace GridChess.Json

/-! ## Space -/

/-- Texts of nothing but space. -/
def IsBlank (space : List Char) : Prop := ∀ c ∈ space, isSpace c = true

theorem isBlank_nil : IsBlank [] := by
  intro c member
  cases member

theorem isBlank_newline (style : Style) (depth : Nat) : IsBlank (style.newline depth) := by
  intro c member
  cases style with
  | compact => cases member
  | indented =>
    rcases List.mem_cons.mp member with line | indent
    · rw [line]
      rfl
    · rw [List.eq_of_mem_replicate indent]
      rfl

theorem skipSpace_append (space rest : List Char) (blank : IsBlank space) :
    skipSpace (space ++ rest) = skipSpace rest := by
  unfold skipSpace
  exact List.dropWhile_append_of_pos blank

theorem skipSpace_cons (c : Char) (rest : List Char) (mark : isSpace c = false) :
    skipSpace (c :: rest) = c :: rest := by
  unfold skipSpace
  exact List.dropWhile_cons_of_neg (by simp [mark])

/-- Space in front of a character that is none is passed over. -/
theorem skipSpace_mark (space : List Char) (c : Char) (rest : List Char) (blank : IsBlank space)
    (mark : isSpace c = false) : skipSpace (space ++ c :: rest) = c :: rest := by
  rw [skipSpace_append space _ blank, skipSpace_cons c rest mark]

/-! ## Values in context -/

/-- What may follow a value. -/
def Closes (rest : List Char) : Prop :=
  ∀ c ∈ rest.head?, c = ',' ∨ c = ']' ∨ c = '\x7d' ∨ c = '\n'

theorem closes_nil : Closes [] := by
  intro c member
  cases member

theorem closes_cons (c : Char) (rest : List Char)
    (closing : c = ',' ∨ c = ']' ∨ c = '\x7d' ∨ c = '\n') : Closes (c :: rest) := by
  intro other member
  cases member
  exact closing

/-- A closing bracket may stand on a line of its own. -/
theorem closes_newline (style : Style) (depth : Nat) (rest : List Char) (closes : Closes rest) :
    Closes (style.newline depth ++ rest) := by
  cases style with
  | compact => exact closes
  | indented => exact closes_cons _ _ (Or.inr (Or.inr (Or.inr rfl)))

/-- The value is read back wherever it is written. -/
def ReadsBack {α : Type} (read : Reader α) (write : Writer) (value : α) : Prop :=
  ∀ (style : Style) (depth : Nat) (space rest : List Char), IsBlank space → Closes rest →
    read (space ++ (write style depth ++ rest)) = .ok (value, rest)

/-- The first character is neither space nor the mark. -/
def StartsBut (mark : Char) (write : Writer) : Prop :=
  ∀ (style : Style) (depth : Nat),
    ∃ c tail, write style depth = c :: tail ∧ isSpace c = false ∧ c ≠ mark

/-- The value is read back, and cannot be taken for the end of a sequence. -/
structure Reads {α : Type} (read : Reader α) (write : Writer) (value : α) : Prop where
  back : ReadsBack read write value
  starts : StartsBut ']' write

/-! ## Texts -/

theorem startsBut_text (mark : Char) (text : String) (other : '"' ≠ mark) :
    StartsBut mark (Writer.text text) := by
  intro style depth
  exact ⟨'"', text.toList.flatMap escapedChar ++ ['"'], rfl, by decide, other⟩

theorem writeText_append (text : String) (rest : List Char) :
    writeText text ++ rest = '"' :: (text.toList.flatMap escapedChar ++ '"' :: rest) := by
  unfold writeText
  rw [List.cons_append, List.cons_append, List.append_assoc, List.singleton_append]

theorem readText_writeText (text : String) (space rest : List Char) (blank : IsBlank space) :
    readText (space ++ (writeText text ++ rest)) = .ok (text, rest) := by
  rw [writeText_append]
  unfold readText
  rw [skipSpace_mark space _ _ blank (by decide)]
  simp only [readQuoted_escaped, ok_bind, String.ofList_toList]
  rfl

theorem reads_text (text : String) : Reads readText (Writer.text text) text where
  back := by
    intro style depth space rest blank _
    exact readText_writeText text space rest blank
  starts := startsBut_text ']' text (by decide)

/-- A value whose text can be read is read from that text. -/
theorem reads_parsed {α ε : Type} (parse : String → Except ε α) (reason : ε → String)
    (text : String) (value : α) (parsed : parse text = .ok value) :
    Reads (readParsed parse reason) (Writer.text text) value where
  back := by
    intro style depth space rest blank _
    have read := readText_writeText text space rest blank
    unfold readParsed Writer.text
    simp only [read, ok_bind, parsed]
    rfl
  starts := startsBut_text ']' text (by decide)

theorem variantOf_name {α : Type} [DecidableEq α] (name : α → String) (all : List α) (value : α)
    (listed : value ∈ all) (distinct : ∀ a ∈ all, name a = name value → a = value) :
    variantOf name all (name value) = .ok value := by
  unfold variantOf
  cases found : all.find? (fun other => name other = name value) with
  | none =>
    have unequal := List.find?_eq_none.mp found value listed
    simp at unequal
  | some other =>
    have same := List.find?_some found
    have member := List.mem_of_find?_eq_some found
    rw [distinct other member (by simpa using same)]

/-- A value of a listed type is read from its name, if no other value has that name. -/
theorem reads_variant {α : Type} [DecidableEq α] (name : α → String) (all : List α) (value : α)
    (listed : value ∈ all) (distinct : ∀ a ∈ all, name a = name value → a = value) :
    Reads (readVariant name all) (Writer.text (name value)) value where
  back := by
    intro style depth space rest blank _
    have read := readText_writeText (name value) space rest blank
    have known := variantOf_name name all value listed distinct
    unfold readVariant Writer.text
    rw [writeText_append] at read ⊢
    rw [skipSpace_mark space _ _ blank (by decide)]
    simp only [read, ok_bind, known]
    rfl
  starts := startsBut_text ']' (name value) (by decide)

/-! ## Values that may be missing -/

theorem null_eq : "null".toList = 'n' :: "ull".toList := by decide

theorem reads_none {α : Type} (read : Reader α) : Reads (readOption read) Writer.null none where
  back := by
    intro style depth space rest blank _
    have written : Writer.null style depth ++ rest = 'n' :: ("ull".toList ++ rest) := by
      unfold Writer.null
      rw [null_eq, List.cons_append]
    have word : readWord "ull".toList ("ull".toList ++ rest) = .ok rest := by
      rfl
    unfold readOption
    rw [written, skipSpace_mark space _ _ blank (by decide)]
    simp only [word, ok_bind]
    rfl
  starts := by
    intro style depth
    exact ⟨'n', "ull".toList, null_eq, by decide, by decide⟩

/-- A value that does not start like null is read where one may be missing. -/
theorem reads_some {α : Type} (read : Reader α) (write : Writer) (value : α)
    (item : Reads read write value) (starts : StartsBut 'n' write) :
    Reads (readOption read) write (some value) where
  back := by
    intro style depth space rest blank closes
    obtain ⟨c, tail, written, mark, notNull⟩ := starts style depth
    have back := item.back style depth [] rest isBlank_nil closes
    rw [List.nil_append, written, List.cons_append] at back
    unfold readOption
    rw [written, List.cons_append, skipSpace_mark space _ _ blank mark]
    split
    · rename_i same
      cases same
      exact absurd rfl notNull
    · rename_i other same
      rw [back]
      rfl
  starts := item.starts

/-- Whether or not there is a value, it is read back as what it is read back as on its own. -/
theorem reads_option {α : Type} (read : Reader α) (write : α → Writer) (back : α → α)
    (item : ∀ value, Reads read (write value) (back value))
    (starts : ∀ value, StartsBut 'n' (write value)) (value? : Option α) :
    Reads (readOption read) (Writer.option write value?) (value?.map back) := by
  cases value? with
  | none => exact reads_none read
  | some value => exact reads_some read (write value) (back value) (item value) (starts value)

/-! ## Documents -/

theorem readAll_document {α : Type} (read : Reader α) (write : Writer) (value : α)
    (reads : Reads read write value) (style : Style) :
    readAll read (write.document style) = .ok value := by
  have back := reads.back style 0 [] [] isBlank_nil closes_nil
  rw [List.nil_append, List.append_nil] at back
  unfold readAll Writer.document
  rw [String.toList_ofList, back]
  rfl

end GridChess.Json
