import GridChess.Proofs.Json.Object
import GridChess.Proofs.Json.Scalar

/-!
# What the text of a record says

The text of a record is an object, whose members start at certain places under their names, or a
sequence, whose elements have the names of the fields in order (`Gives`). This is told by passing
over the values, whatever they are. A record that is read is filled from there (`Fills`), and so
each field has the value at the place of its name, or keeps its value in the blank record if there
is no such place (`Says`).
-/

set_option autoImplicit false

namespace GridChess.Json

/-- The members of an object from `s` on: their names, and where their values start. -/
inductive Members : Bool → List Char → List (String × List Char) → List Char → Prop
  | done (isFirst : Bool) (s rest : List Char) (ends : nextMember isFirst s = .ok (none, rest)) :
    Members isFirst s [] rest
  | next (isFirst : Bool) (s : List Char) (name : String) (named start left : List Char)
      (members : List (String × List Char)) (rest : List Char)
      (begins : nextMember isFirst s = .ok (some name, named))
      (colon : readColon named = .ok start) (value : skipValue start = .ok left)
      (others : Members false left members rest) :
    Members isFirst s ((name, start) :: members) rest

/-- The elements of a sequence from `s` on. -/
inductive Elements : Bool → List Char → List (List Char) → List Char → Prop
  | done (isFirst : Bool) (s rest : List Char) (ends : nextElement isFirst s = .ok none)
      (closes : closeSequence s = .ok rest) : Elements isFirst s [] rest
  | next (isFirst : Bool) (s start left : List Char) (starts : List (List Char)) (rest : List Char)
      (begins : nextElement isFirst s = .ok (some start)) (value : skipValue start = .ok left)
      (others : Elements false left starts rest) : Elements isFirst s (start :: starts) rest

/-- The places under their names, for a record whose fields have these names. -/
inductive Gives (names : List String) (s : List Char) :
    List (String × List Char) → List Char → Prop
  | object (body : List Char) (members : List (String × List Char)) (rest : List Char)
      (opens : skipSpace s = '\x7b' :: body) (listed : Members true body members rest) :
    Gives names s members rest
  | sequence (body : List Char) (starts : List (List Char)) (rest : List Char)
      (opens : skipSpace s = '[' :: body) (listed : Elements true body starts rest)
      (fits : starts.length ≤ names.length) : Gives names s (names.zip starts) rest

/-- The value of a name: what is read at its only place, or the one that is left as it was. -/
def Says {β : Type} (members : List (String × List Char)) (name : String) (item : Reader β)
    (left value : β) : Prop :=
  match members.filter (·.1 = name) with
  | [] => value = left
  | [(_, start)] => ∃ rest, item start = .ok (value, rest)
  | _ => False

/-! ## Only one way to pass over -/

theorem Members.unique (isFirst : Bool) (s : List Char)
    (members members' : List (String × List Char)) (rest rest' : List Char)
    (listed : Members isFirst s members rest)
    (listed' : Members isFirst s members' rest') : members = members' := by
  induction listed generalizing members' with
  | done isFirst s rest ends =>
    cases listed' with
    | done _ _ _ _ => rfl
    | next _ _ name' named' _ _ _ _ begins' _ _ _ =>
      rw [ends] at begins'
      cases begins'
  | next isFirst s name named start left members rest begins colon value _ ih =>
    cases listed' with
    | done _ _ _ ends' =>
      rw [begins] at ends'
      cases ends'
    | next _ _ name' named' start' left' others' _ begins' colon' value' listed' =>
      cases begins.symm.trans begins'
      cases colon.symm.trans colon'
      cases value.symm.trans value'
      rw [ih others' listed']

theorem Elements.unique (isFirst : Bool) (s : List Char) (starts starts' : List (List Char))
    (rest rest' : List Char) (listed : Elements isFirst s starts rest)
    (listed' : Elements isFirst s starts' rest') : starts = starts' := by
  induction listed generalizing starts' with
  | done isFirst s rest ends _ =>
    cases listed' with
    | done _ _ _ _ _ => rfl
    | next _ _ start' _ _ _ begins' _ _ =>
      rw [ends] at begins'
      cases begins'
  | next isFirst s start left starts rest begins value _ ih =>
    cases listed' with
    | done _ _ _ ends' _ =>
      rw [begins] at ends'
      cases ends'
    | next _ _ start' left' others' _ begins' value' listed' =>
      cases begins.symm.trans begins'
      cases value.symm.trans value'
      rw [ih others' listed']

/-- A text gives one list of places. -/
theorem Gives.unique (names : List String) (s : List Char)
    (members members' : List (String × List Char)) (rest rest' : List Char)
    (gives : Gives names s members rest) (gives' : Gives names s members' rest') :
    members = members' := by
  cases gives with
  | object body _ _ opens listed =>
    cases gives' with
    | object body' _ _ opens' listed' =>
      cases opens.symm.trans opens'
      exact Members.unique true body members members' rest rest' listed listed'
    | sequence body' _ _ opens' _ _ => cases opens.symm.trans opens'
  | sequence body starts _ opens listed _ =>
    cases gives' with
    | object body' _ _ opens' _ => cases opens.symm.trans opens'
    | sequence body' starts' _ opens' listed' _ =>
      cases opens.symm.trans opens'
      rw [Elements.unique true body starts starts' rest rest' listed listed']

/-! ## Filling a record -/

/-- Values of known names are stored, each name once, and others are left aside. -/
inductive Fills {α : Type} (schema : Schema α) :
    List String → α → List (String × List Char) → α → Prop
  | done (seen : List String) (record : α) : Fills schema seen record [] record
  | stored (seen : List String) (record stored last : α) (field : Field α) (name : String)
      (start left : List Char) (members : List (String × List Char))
      (known : schema.fields.find? (·.name = name) = some field) (fresh : name ∉ seen)
      (read : field.read record start = .ok (stored, left))
      (others : Fills schema (name :: seen) stored members last) :
    Fills schema seen record ((name, start) :: members) last
  | ignored (seen : List String) (record last : α) (name : String) (start : List Char)
      (members : List (String × List Char))
      (unknown : schema.fields.find? (·.name = name) = none)
      (others : Fills schema (name :: seen) record members last) :
    Fills schema seen record ((name, start) :: members) last

/-- One field alone, seen in the whole record. -/
structure Views {α β : Type} (schema : Schema α) (name : String) (item : Reader β)
    (get : α → β) : Prop where
  known : ∃ field ∈ schema.fields, field.name = name
  own : ∀ field ∈ schema.fields, field.name = name → ∀ record s stored rest,
    field.read record s = .ok (stored, rest) → item s = .ok (get stored, rest)
  other : ∀ field ∈ schema.fields, field.name ≠ name → ∀ record s stored rest,
    field.read record s = .ok (stored, rest) → get stored = get record

/-- Storing a field leaves what is seen of the record as it was. -/
def Keeps {α β : Type} (get : α → β) (field : Field α) : Prop :=
  ∀ record s stored rest, field.read record s = .ok (stored, rest) → get stored = get record

theorem keeps_of {α β γ : Type} (get : α → β) (name : String) (required : Bool) (item : Reader γ)
    (store : α → γ → α) (apart : ∀ record value, get (store record value) = get record) :
    Keeps get (Field.of name required item store) := by
  intro record s stored rest read
  obtain ⟨value, _, rfl⟩ := Field.of_eq_ok name required item store record stored s rest read
  exact apart record value

/-- A field among others that are stored elsewhere. -/
theorem views_of {α β : Type} (schema : Schema α) (before after : List (Field α)) (name : String)
    (required : Bool) (item : Reader β) (store : α → β → α) (get : α → β)
    (fields : schema.fields = before ++ Field.of name required item store :: after)
    (distinct : (schema.fields.map Field.name).Nodup)
    (stores : ∀ record value, get (store record value) = value)
    (keeps : ∀ field ∈ before ++ after, Keeps get field) : Views schema name item get := by
  have middle : schema.fields.Perm (Field.of name required item store :: (before ++ after)) := by
    rw [fields]
    exact List.perm_middle
  obtain ⟨absent, _⟩ := List.nodup_cons.mp ((middle.map Field.name).nodup distinct)
  have cases : ∀ field ∈ schema.fields, field = Field.of name required item store ∨
      field ∈ before ++ after := fun field member => List.mem_cons.mp (middle.mem_iff.mp member)
  refine ⟨⟨_, middle.mem_iff.mpr List.mem_cons_self, rfl⟩, ?_, ?_⟩
  · intro field member named record s stored rest read
    rcases cases field member with rfl | elsewhere
    · obtain ⟨value, given, rfl⟩ :=
        Field.of_eq_ok name required item store record stored s rest read
      rw [given, stores]
    · exact absurd (List.mem_map.mpr ⟨field, elsewhere, named⟩) absent
  · intro field member differ
    rcases cases field member with rfl | elsewhere
    · exact absurd rfl differ
    · exact keeps field elsewhere

section

variable {α β : Type} (schema : Schema α) (name : String) (item : Reader β) (get : α → β)
variable (views : Views schema name item get)

include views in
theorem Views.find?_ne_none : schema.fields.find? (·.name = name) ≠ none := by
  obtain ⟨field, member, same⟩ := views.known
  intro unknown
  exact List.find?_eq_none.mp unknown field member (by simpa using same)

theorem says_cons_of_ne (members : List (String × List Char)) (other : String)
    (start : List Char) (left value : β) (differ : other ≠ name) :
    Says ((other, start) :: members) name item left value ↔ Says members name item left value := by
  unfold Says
  rw [List.filter_cons_of_neg (by simpa using differ)]

include views in
/-- What has been seen does not come again, and the rest is as it says. -/
theorem Fills.tells (seen : List String) (record last : α) (members : List (String × List Char))
    (fills : Fills schema seen record members last) :
    (name ∈ seen → members.filter (·.1 = name) = [] ∧ get last = get record) ∧
      (name ∉ seen → Says members name item (get record) (get last)) := by
  -- A field is settled once its name has been seen, and nothing changes it before.
  induction fills with
  | done seen record => exact ⟨fun _ => ⟨rfl, rfl⟩, fun _ => rfl⟩
  | stored seen record stored last field other start left members known fresh read _ ih =>
    have member := List.mem_of_find?_eq_some known
    have named : field.name = other := by simpa using List.find?_some known
    by_cases same : other = name
    · subst same
      obtain ⟨gone, kept⟩ := ih.1 List.mem_cons_self
      refine ⟨fun again => absurd again fresh, fun _ => ?_⟩
      unfold Says
      rw [List.filter_cons_of_pos (by simp), gone]
      exact ⟨left, kept ▸ views.own field member named record start stored left read⟩
    · have kept := views.other field member (named ▸ same) record start stored left read
      refine ⟨fun before => ?_, fun unseen => ?_⟩
      · obtain ⟨gone, later⟩ := ih.1 (List.mem_cons_of_mem _ before)
        exact ⟨(List.filter_cons_of_neg (by simpa using same)).trans gone, later.trans kept⟩
      · rw [says_cons_of_ne _ _ _ _ _ _ _ same, ← kept]
        exact ih.2 (by simp [unseen, Ne.symm same])
  | ignored seen record last other start members unknown _ ih =>
    have differ : other ≠ name := by
      rintro rfl
      exact views.find?_ne_none _ _ _ _ unknown
    refine ⟨fun before => ?_, fun unseen => ?_⟩
    · obtain ⟨gone, later⟩ := ih.1 (List.mem_cons_of_mem _ before)
      exact ⟨(List.filter_cons_of_neg (by simpa using differ)).trans gone, later⟩
    · rw [says_cons_of_ne _ _ _ _ _ _ _ differ]
      exact ih.2 (by simp [unseen, Ne.symm differ])

end

/-! ## Reading a record -/

section

variable {α : Type} (schema : Schema α)
variable (takes : ∀ field ∈ schema.fields, ∀ record, TakesValue (field.read record))

include takes in
theorem readMembers_fills (seen : List String) (isFirst : Bool) (record last : α)
    (s rest : List Char) (read : schema.readMembers seen record isFirst s = .ok (last, rest)) :
    ∃ members, Members isFirst s members rest ∧ Fills schema seen record members last := by
  induction size : s.length using Nat.strongRecOn generalizing seen isFirst record s with
  | ind size ih =>
    rw [Schema.readMembers] at read
    obtain ⟨⟨name?, named⟩, begins, read⟩ := bind_eq_ok _ _ _ read
    cases name? with
    | none =>
      dsimp only at read
      split at read
      · cases read
      · cases read
        exact ⟨[], .done isFirst s _ begins, .done seen _⟩
    | some name =>
      obtain ⟨⟨stored, left⟩, value, read⟩ := bind_eq_ok _ _ _ read
      dsimp only at read value
      split at read
      · rename_i shorter
        obtain ⟨members, listed, fills⟩ :=
          ih left.length (by omega) (name :: seen) false stored left read rfl
        unfold Schema.readMember at value
        split at value
        · rename_i unknown
          obtain ⟨start, colon, value⟩ := bind_eq_ok _ _ _ value
          obtain ⟨skipped, skips, value⟩ := bind_eq_ok _ _ _ value
          cases value
          exact ⟨(name, start) :: members,
            .next isFirst s name named start _ members rest begins colon skips listed,
            .ignored seen record last name start members unknown fills⟩
        · rename_i field known
          split at value
          · cases value
          · rename_i fresh
            obtain ⟨start, colon, value⟩ := bind_eq_ok _ _ _ value
            have skips := takes field (List.mem_of_find?_eq_some known) record start stored left
              value
            exact ⟨(name, start) :: members,
              .next isFirst s name named start left members rest begins colon skips listed,
              .stored seen record stored last field name start left members known
                (by simpa using fresh) value fills⟩
      · cases read

/-- At the end of a sequence nothing is left of it. -/
theorem nextElement_of_closeSequence (isFirst : Bool) (s rest : List Char)
    (closed : closeSequence s = .ok rest) : nextElement isFirst s = .ok none := by
  unfold closeSequence at closed
  split at closed
  · rename_i found
    unfold nextElement
    rw [found]
    rfl
  · cases closed
  · cases closed

include takes in
theorem readPositions_fills (fields : List (Field α))
    (known : ∀ field ∈ fields, schema.fields.find? (·.name = field.name) = some field)
    (distinct : (fields.map Field.name).Nodup) (seen : List String)
    (fresh : ∀ field ∈ fields, field.name ∉ seen) (index : Nat) (isFirst : Bool)
    (record last : α) (s rest : List Char)
    (read : schema.readPositions fields index isFirst record s = .ok (last, rest)) :
    ∃ starts, Elements isFirst s starts rest ∧ starts.length ≤ fields.length ∧
      Fills schema seen record ((fields.map Field.name).zip starts) last := by
  induction fields generalizing seen index isFirst record s with
  | nil =>
    obtain ⟨left, closed, read⟩ := bind_eq_ok _ _ _ read
    cases read
    exact ⟨[], .done isFirst s _ (nextElement_of_closeSequence isFirst s _ closed) closed,
      Nat.le_refl _, .done seen _⟩
  | cons field fields ih =>
    obtain ⟨first, others⟩ := List.forall_mem_cons.mp known
    obtain ⟨absent, distinct⟩ := List.nodup_cons.mp distinct
    have unseen : ∀ other ∈ fields, other.name ∉ field.name :: seen := by
      intro other member again
      rcases List.mem_cons.mp again with same | before
      · exact absent (same ▸ List.mem_map_of_mem member)
      · exact fresh other (List.mem_cons_of_mem _ member) before
    unfold Schema.readPositions at read
    obtain ⟨start?, begins, read⟩ := bind_eq_ok _ _ _ read
    cases start? with
    | some start =>
      obtain ⟨⟨stored, left⟩, value, read⟩ := bind_eq_ok _ _ _ read
      obtain ⟨starts, listed, short, fills⟩ :=
        ih others distinct (field.name :: seen) unseen (index + 1) false stored left read
      have skips := takes field (List.mem_of_find?_eq_some first) record start stored left value
      exact ⟨start :: starts, .next isFirst s start left starts rest begins skips listed,
        Nat.succ_le_succ short,
        .stored seen record stored last field field.name start left _ first
          (fresh field List.mem_cons_self) value fills⟩
    | none =>
      dsimp only at read
      split at read
      · cases read
      · -- The sequence has ended, so the fields that are left get nothing either.
        obtain ⟨starts, listed, _, fills⟩ :=
          ih others distinct (field.name :: seen) unseen (index + 1) isFirst record s read
        cases listed with
        | done _ _ _ ends closes =>
          rw [List.zip_nil_right] at fills
          cases fills
          exact ⟨[], .done isFirst s rest ends closes, Nat.zero_le _, .done seen _⟩
        | next _ _ start left starts _ begins' _ _ =>
          rw [begins] at begins'
          cases begins'

include takes in
/-- A record that is read is filled with what its text gives. -/
theorem read_fills (distinct : (schema.fields.map Field.name).Nodup) (last : α)
    (s rest : List Char) (read : schema.read s = .ok (last, rest)) :
    ∃ members, Gives (schema.fields.map Field.name) s members rest ∧
      Fills schema [] schema.blank members last := by
  unfold Schema.read at read
  split at read
  · rename_i body opens
    obtain ⟨starts, listed, fits, fills⟩ := readPositions_fills schema takes schema.fields
      (fun field => find?_name schema.fields field distinct) distinct []
      (fun _ _ => List.not_mem_nil) 0 true schema.blank last body rest read
    exact ⟨_, .sequence body starts rest opens listed (by rwa [List.length_map]), fills⟩
  · rename_i body opens
    obtain ⟨members, listed, fills⟩ :=
      readMembers_fills schema takes [] true schema.blank last body rest read
    exact ⟨members, .object body members rest opens listed, fills⟩
  · exact absurd read (unexpected_ne_ok _ _ _)

end

end GridChess.Json
