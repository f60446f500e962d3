import GridChess.Json.Schema
import GridChess.Proofs.Json.Sequence

/-!
# Reading records

A record is written as an object with all of its fields in order. Reading stores the value of
each member and remembers its name. The induction is on the members that are left: none of their
names has been seen, and no required field is missing once all of them are.
-/

set_option autoImplicit false

namespace GridChess.Json

/-! ## Members -/

theorem readColon_colon (style : Style) (s : List Char) :
    ∃ space, IsBlank space ∧ readColon (style.colon ++ s) = .ok (space ++ s) := by
  cases style with
  | compact => exact ⟨[], isBlank_nil, rfl⟩
  | indented =>
    refine ⟨[' '], ?_, rfl⟩
    intro c member
    rw [List.mem_singleton.mp member]
    rfl

theorem nextMember_end (isFirst : Bool) (space rest : List Char) (blank : IsBlank space) :
    nextMember isFirst (space ++ '\x7d' :: rest) = .ok (none, rest) := by
  unfold nextMember
  rw [skipSpace_mark space _ _ blank (by decide)]
  rfl

theorem readQuoted_name (name : String) (rest : List Char) :
    (do
      let (name, rest) ← readQuoted .plain (name.toList.flatMap escapedChar ++ '"' :: rest)
      return (some (String.ofList name), rest)) = Except.ok (some name, rest) := by
  simp only [readQuoted_escaped, ok_bind, String.ofList_toList]
  rfl

theorem nextMember_first (name : String) (space rest : List Char) (blank : IsBlank space) :
    nextMember true (space ++ (writeText name ++ rest)) = .ok (some name, rest) := by
  rw [writeText_append]
  unfold nextMember
  rw [skipSpace_mark space _ _ blank (by decide)]
  exact readQuoted_name name rest

theorem nextMember_comma (name : String) (space rest : List Char) (blank : IsBlank space) :
    nextMember false (',' :: (space ++ (writeText name ++ rest))) = .ok (some name, rest) := by
  rw [writeText_append]
  unfold nextMember
  rw [skipSpace_cons ',' _ (by decide)]
  dsimp only
  split
  · rename_i none
    cases none
  · rename_i close
    exact absurd (List.cons.inj close).1 (by decide)
  · rename_i same
    cases same
    rw [if_neg (by decide), if_pos rfl, pure_bind, skipSpace_mark space _ _ blank (by decide)]
    exact readQuoted_name name rest

/-! ## Records -/

/-- A field of a record as it is written, and what reading it does to the record. -/
structure Entry (α : Type) where
  field : Field α
  write : Writer
  store : α → α
  back : ∀ record : α, ReadsBack (field.read record) write (store record)

namespace Entry

/-- The entry of a field that holds the value. -/
def of {α β : Type} (name : String) (required : Bool) (item : Reader β) (put : α → β → α)
    (write : Writer) (value : β) (reads : Reads item write value) : Entry α where
  field := Field.of name required item put
  write := write
  store := fun record => put record value
  back := by
    intro record style depth space rest blank closes
    have read := reads.back style depth space rest blank closes
    unfold Field.of
    simp only [read, ok_bind]
    rfl

def name {α : Type} (entry : Entry α) : String := entry.field.name

def member {α : Type} (entry : Entry α) : Writer := Writer.member entry.name entry.write

theorem member_append {α : Type} (entry : Entry α) (style : Style) (depth : Nat)
    (rest : List Char) :
    entry.member style depth ++ rest =
      writeText entry.name ++ (style.colon ++ (entry.write style depth ++ rest)) := by
  unfold member Writer.member
  rw [List.append_assoc, List.append_assoc]

/-- The record after all of the entries have been stored. -/
def storeAll {α : Type} (entries : List (Entry α)) (record : α) : α :=
  entries.foldl (fun record entry => entry.store record) record

end Entry

theorem readMember_entry {α : Type} (schema : Schema α) (entry : Entry α) (seen : List String)
    (known : schema.fields.find? (·.name = entry.name) = some entry.field)
    (fresh : entry.name ∉ seen) (record : α) (style : Style) (depth : Nat) (rest : List Char)
    (closes : Closes rest) :
    schema.readMember seen record entry.name
        (style.colon ++ (entry.write style depth ++ rest)) =
      .ok (entry.store record, rest) := by
  obtain ⟨space, blank, colon⟩ := readColon_colon style (entry.write style depth ++ rest)
  have unseen : seen.contains entry.name = false := by
    simpa using fresh
  unfold Schema.readMember
  rw [known]
  simp only [unseen, Bool.false_eq_true, if_false, colon, ok_bind]
  exact entry.back record style depth space rest blank closes

theorem readMembers_step {α : Type} (schema : Schema α) (seen : List String) (isFirst : Bool)
    (record next : α) (name : String) (s member later : List Char)
    (start : nextMember isFirst s = .ok (some name, member))
    (first : schema.readMember seen record name member = .ok (next, later))
    (shorter : later.length < s.length) :
    schema.readMembers seen record isFirst s =
      schema.readMembers (name :: seen) next false later := by
  rw [Schema.readMembers, start, ok_bind]
  simp only [first, ok_bind, shorter, if_true]

theorem readMembers_end {α : Type} (schema : Schema α) (seen : List String) (isFirst : Bool)
    (record : α) (space rest : List Char) (blank : IsBlank space)
    (complete : schema.missing? seen = none) :
    schema.readMembers seen record isFirst (space ++ '\x7d' :: rest) = .ok (record, rest) := by
  rw [Schema.readMembers, nextMember_end isFirst space rest blank, ok_bind]
  simp only [complete]
  rfl

/-- What holds while members are read: the entries that are left are fields of the record that
have not been seen, and once they have been read no required field is missing. -/
structure Awaits {α : Type} (schema : Schema α) (seen : List String)
    (entries : List (Entry α)) : Prop where
  known : ∀ entry ∈ entries, schema.fields.find? (·.name = entry.name) = some entry.field
  fresh : ∀ entry ∈ entries, entry.name ∉ seen
  distinct : (entries.map Entry.name).Nodup
  complete : schema.missing? ((entries.map Entry.name).reverse ++ seen) = none

theorem Awaits.tail {α : Type} (schema : Schema α) (seen : List String) (entry : Entry α)
    (entries : List (Entry α)) (awaits : Awaits schema seen (entry :: entries)) :
    Awaits schema (entry.name :: seen) entries where
  known := fun other member => awaits.known other (by simp [member])
  fresh := by
    intro other member again
    rcases List.mem_cons.mp again with same | before
    · exact (List.nodup_cons.mp awaits.distinct).1 (same ▸ List.mem_map_of_mem member)
    · exact awaits.fresh other (by simp [member]) before
  distinct := (List.nodup_cons.mp awaits.distinct).2
  complete := by
    have complete := awaits.complete
    rwa [List.map_cons, List.reverse_cons, List.append_assoc, List.singleton_append] at complete

theorem Awaits.head {α : Type} (schema : Schema α) (seen : List String) (entry : Entry α)
    (entries : List (Entry α)) (awaits : Awaits schema seen (entry :: entries)) (record : α)
    (style : Style) (depth : Nat) (rest : List Char) (closes : Closes rest) :
    schema.readMember seen record entry.name
        (style.colon ++ (entry.write style depth ++ rest)) =
      .ok (entry.store record, rest) :=
  readMember_entry schema entry seen (awaits.known entry (by simp))
    (awaits.fresh entry (by simp)) record style depth rest closes

/-- The members that are left are read and stored, up to the closing brace. -/
theorem readMembers_followers {α : Type} (schema : Schema α) (entries : List (Entry α))
    (seen : List String) (awaits : Awaits schema seen entries) (record : α) (style : Style)
    (depth : Nat) (space rest : List Char) (blank : IsBlank space)
    (closes : Closes (space ++ '\x7d' :: rest)) :
    schema.readMembers seen record false
        (followers (entries.map Entry.member) style depth ++ (space ++ '\x7d' :: rest)) =
      .ok (Entry.storeAll entries record, rest) := by
  induction entries generalizing seen record with
  | nil => exact readMembers_end schema seen false record space rest blank awaits.complete
  | cons entry entries ih =>
    have first := awaits.head schema seen entry entries record style depth _
      (closes_followers (entries.map Entry.member) style depth _ closes)
    have others := ih (entry.name :: seen) awaits.tail (entry.store record)
    rw [List.map_cons, followers_cons_append, Entry.member_append]
    rw [readMembers_step schema seen false record (entry.store record) entry.name _ _ _
      (nextMember_comma entry.name _ _ (isBlank_newline style depth)) first
      (by simp only [List.length_cons, List.length_append]; omega)]
    exact others

theorem find?_name {α : Type} (fields : List (Field α)) (field : Field α)
    (distinct : (fields.map Field.name).Nodup) (member : field ∈ fields) :
    fields.find? (·.name = field.name) = some field := by
  induction fields with
  | nil => cases member
  | cons first fields ih =>
    rw [List.map_cons, List.nodup_cons] at distinct
    rcases List.mem_cons.mp member with same | later
    · rw [same, List.find?_cons_of_pos (by simp)]
    · have other : first.name ≠ field.name := fun same =>
        distinct.1 (same ▸ List.mem_map_of_mem later)
      rw [List.find?_cons_of_neg (by simpa using other), ih distinct.2 later]

theorem missing?_all {α : Type} (schema : Schema α) (seen : List String)
    (all : ∀ field ∈ schema.fields, field.name ∈ seen) : schema.missing? seen = none := by
  unfold Schema.missing?
  rw [List.find?_eq_none]
  intro field member
  simp [all field member]

/-- Before the first member all of the fields are awaited. -/
theorem awaits_all {α : Type} (schema : Schema α) (entries : List (Entry α))
    (fields : schema.fields = entries.map Entry.field)
    (distinct : (schema.fields.map Field.name).Nodup) : Awaits schema [] entries := by
  have names : schema.fields.map Field.name = entries.map Entry.name := by
    rw [fields, List.map_map]
    rfl
  refine ⟨?_, fun entry _ => List.not_mem_nil, names ▸ distinct, ?_⟩
  · intro entry member
    refine find?_name schema.fields entry.field distinct ?_
    rw [fields]
    exact List.mem_map_of_mem member
  · refine missing?_all schema _ fun field member => ?_
    rw [List.append_nil, List.mem_reverse, ← names]
    exact List.mem_map_of_mem member

theorem object_entries {α : Type} (entries : List (Entry α)) :
    Writer.object (entries.map fun entry => (entry.name, entry.write)) =
      Writer.bracketed '\x7b' '\x7d' (entries.map Entry.member) := by
  unfold Writer.object
  rw [List.map_map]
  rfl

/-- A record is read back from the object of all of its fields. -/
theorem reads_record {α : Type} (schema : Schema α) (entries : List (Entry α)) (value : α)
    (fields : schema.fields = entries.map Entry.field)
    (distinct : (schema.fields.map Field.name).Nodup)
    (stored : Entry.storeAll entries schema.blank = value) :
    Reads schema.read (Writer.object (entries.map fun entry => (entry.name, entry.write)))
      value where
  back := by
    have awaits := awaits_all schema entries fields distinct
    intro style depth space rest blank closes
    unfold Schema.read
    rw [object_entries, ← stored]
    cases entries with
    | nil =>
      rw [List.map_nil, bracketed_nil_append, skipSpace_mark space _ _ blank (by decide)]
      exact readMembers_end schema [] true schema.blank [] rest isBlank_nil awaits.complete
    | cons entry entries =>
      have closing := closes_newline style depth ('\x7d' :: rest) (closes_cons _ _ (by simp))
      have first := awaits.head schema [] entry entries schema.blank style (depth + 1) _
        (closes_followers (entries.map Entry.member) style (depth + 1) _ closing)
      have others := readMembers_followers schema entries [entry.name] awaits.tail
        (entry.store schema.blank) style (depth + 1) (style.newline depth) rest
        (isBlank_newline style depth) closing
      rw [List.map_cons, bracketed_cons_append, skipSpace_mark space _ _ blank (by decide),
        Entry.member_append]
      change schema.readMembers [] schema.blank true _ = _
      rw [readMembers_step schema [] true schema.blank (entry.store schema.blank) entry.name _ _ _
        (nextMember_first entry.name _ _ (isBlank_newline style (depth + 1))) first
        (by rw [writeText_append]; simp only [List.length_cons, List.length_append]; omega)]
      exact others
  starts := startsBut_bracketed ']' '\x7b' '\x7d' _ (by decide) (by decide)

end GridChess.Json
