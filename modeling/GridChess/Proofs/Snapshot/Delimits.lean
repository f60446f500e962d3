import GridChess.Proofs.Outcome
import GridChess.Snapshot.Item

/-!
# Items that end by themselves

A reader delimits an item if it takes the item from the front of any octets, and runs out of
octets when it is given less than the item. Both properties carry over from the parts of an item
to the whole, however the parts follow each other, so a snapshot cannot be cut without notice.
-/

set_option autoImplicit false

namespace GridChess.Snapshot

structure Delimits {α : Type} (read : Reader α) (bytes : List UInt8) (value : α) : Prop where
  whole : ∀ rest : List UInt8, read (bytes ++ rest) = .ok (value, rest)
  cut : ∀ n : Nat, n < bytes.length → read (bytes.take n) = .error .truncated

/-! ## Parts one after the other -/

/-- Reads a value, then another one that depends on it. -/
def andThen {α β : Type} (first : Reader α) (next : α → Reader β) : Reader β := fun bytes => do
  let (value, bytes) ← first bytes
  next value bytes

/-- Reads nothing. -/
def done {α : Type} (value : α) : Reader α := fun bytes => .ok (value, bytes)

theorem delimits_done {α : Type} (value : α) : Delimits (done value) [] value where
  whole := fun _ => rfl
  cut := fun n short => absurd short (Nat.not_lt_zero n)

theorem delimits_andThen {α β : Type} (first : Reader α) (next : α → Reader β)
    (front back : List UInt8) (a : α) (b : β) (begins : Delimits first front a)
    (ends : Delimits (next a) back b) : Delimits (andThen first next) (front ++ back) b where
  whole := by
    intro rest
    unfold andThen
    rw [List.append_assoc, begins.whole, ok_bind]
    exact ends.whole rest
  cut := by
    intro n short
    unfold andThen
    rw [List.length_append] at short
    rw [List.take_append]
    by_cases within : n < front.length
    · -- The cut lies in the first part.
      rw [Nat.sub_eq_zero_of_le (Nat.le_of_lt within), List.take_zero, List.append_nil,
        begins.cut n within, error_bind]
    · rw [List.take_of_length_le (by omega), begins.whole, ok_bind]
      exact ends.cut (n - front.length) (by omega)

/-- What is made of a value takes no more octets. -/
theorem delimits_last {α β : Type} (first : Reader α) (next : α → Reader β) (bytes : List UInt8)
    (a : α) (b : β) (delimits : Delimits first bytes a) (ends : next a = done b) :
    Delimits (andThen first next) bytes b := by
  have nothing : Delimits (next a) [] b := by
    rw [ends]
    exact delimits_done b
  rw [← List.append_nil bytes]
  exact delimits_andThen first next bytes [] a b delimits nothing

/-! ## Numbers -/

theorem readVarint_take (most width n : Nat) (fits : n < (most + 1) <<< (7 * width))
    (small : most < 128) (k : Nat) (short : k < (varint n).length) :
    readVarint most (width + 1) ((varint n).take k) = .error .truncated := by
  induction width generalizing n k with
  | zero =>
    have last : n < 128 := by omega
    rw [varint, if_pos last] at short ⊢
    rw [List.length_singleton] at short
    rw [show k = 0 by omega]
    rfl
  | succ width ih =>
    rw [varint] at short ⊢
    split at short
    · rename_i last
      rw [List.length_singleton] at short
      rw [if_pos last, show k = 0 by omega]
      rfl
    · rename_i more
      rw [if_neg more]
      cases k with
      | zero => rfl
      | succ k =>
        have octet : (n % 128 + 128).toUInt8.toNat = n % 128 + 128 := by
          simp
          omega
        have later := ih (n / 128) (shiftLeft_quotient fits) k (by simpa using short)
        rw [List.take_succ_cons, readVarint, octet, if_neg (by omega), later]
        rfl

theorem delimits_length (n : Nat) (fits : n < Text.Numeral.wordLimit) :
    Delimits readLength (varint n) n where
  whole := readLength_varint fits
  cut := readVarint_take 1 9 n fits (by decide)

theorem delimits_index (n : Nat) (fits : n < indexLimit) : Delimits readIndex (varint n) n where
  whole := readIndex_varint fits
  cut := readVarint_take 15 4 n fits (by decide)

/-- A number that has been read leaves room in its last octet. -/
theorem readVarint_lt (most width n : Nat) (bytes rest : List UInt8)
    (read : readVarint most (width + 1) bytes = .ok (n, rest)) :
    n < (most + 1) <<< (7 * width) := by
  induction width generalizing n bytes with
  | zero =>
    cases bytes with
    | nil => cases read
    | cons b bytes =>
      rw [readVarint] at read
      split at read
      · split at read
        · cases read
        · cases read
          change b.toNat < most + 1
          omega
      · cases read
  | succ width ih =>
    cases bytes with
    | nil => cases read
    | cons b bytes =>
      rw [readVarint] at read
      have room : (most + 1) <<< (7 * (width + 1)) = 128 * (most + 1) <<< (7 * width) := by
        rw [Nat.mul_comm 128, ← Nat.shiftLeft_eq _ 7, ← Nat.shiftLeft_add]
        rfl
      have least : 1 ≤ (most + 1) <<< (7 * width) := by
        rw [Nat.shiftLeft_eq]
        exact Nat.mul_pos (Nat.succ_pos most) (Nat.two_pow_pos _)
      have octet := b.toNat_lt
      split at read
      · rw [if_neg (by omega)] at read
        cases read
        omega
      · obtain ⟨⟨later, left⟩, others, read⟩ := bind_eq_ok _ _ _ read
        cases read
        have bound := ih later bytes others
        omega

theorem readLength_lt (n : Nat) (bytes rest : List UInt8)
    (read : readLength bytes = .ok (n, rest)) : n < Text.Numeral.wordLimit :=
  readVarint_lt 1 9 n bytes rest read

/-! ## Texts -/

/-- Reads a text of so many octets. -/
def readOctets (length : Nat) : Reader String := fun bytes => do
  if bytes.length < length then throw .truncated
  match Text.ofOctets? (bytes.take length) with
  | some text => return (text, bytes.drop length)
  | none => throw .badText

theorem readTextItem_eq : readTextItem = andThen readLength readOctets := rfl

theorem delimits_octets (text : String) :
    Delimits (readOctets (Text.octets text).length) (Text.octets text) text where
  whole := by
    intro rest
    unfold readOctets
    rw [if_neg (by simp), List.take_left, List.drop_left, Text.ofOctets?_octets]
    rfl
  cut := by
    intro n short
    unfold readOctets
    rw [if_pos (by simp; omega)]
    rfl

theorem delimits_text (text : String)
    (fits : (Text.octets text).length < Text.Numeral.wordLimit) :
    Delimits readTextItem (textItem text) text := by
  rw [readTextItem_eq]
  exact delimits_andThen readLength readOctets _ _ _ text (delimits_length _ fits)
    (delimits_octets text)

/-- Hands on the value that a text stands for. -/
def doneParsed {α ε : Type} (parse : String → Except ε α) (text : String) : Reader α :=
  fun bytes =>
    match parse text with
    | .ok value => return (value, bytes)
    | .error _ => throw .badItem

theorem readParsedItem_eq {α ε : Type} (parse : String → Except ε α) :
    readParsedItem parse = andThen readTextItem (doneParsed parse) := rfl

theorem delimits_parsed {α ε : Type} (parse : String → Except ε α) (text : String) (value : α)
    (fits : (Text.octets text).length < Text.Numeral.wordLimit) (parsed : parse text = .ok value) :
    Delimits (readParsedItem parse) (textItem text) value := by
  have known : doneParsed parse text = done value := by
    unfold doneParsed
    rw [parsed]
    rfl
  rw [readParsedItem_eq]
  exact delimits_last readTextItem (doneParsed parse) _ text value (delimits_text text fits) known

/-! ## Values of listed types -/

/-- Hands on the value with the index. -/
def doneListed {α : Type} (all : List α) (index : Nat) : Reader α := fun bytes =>
  match all[index]? with
  | some value => return (value, bytes)
  | none => throw .badItem

theorem readVariantItem_eq {α : Type} (all : List α) :
    readVariantItem all = andThen readIndex (doneListed all) := rfl

theorem delimits_variant {α : Type} [DecidableEq α] (all : List α) (value : α)
    (listed : value ∈ all) (few : all.length ≤ indexLimit) :
    Delimits (readVariantItem all) (variantItem all value) value := by
  have index := List.idxOf_lt_length_iff.mpr listed
  have found : doneListed all (all.idxOf value) = done value := by
    unfold doneListed
    rw [List.getElem?_eq_getElem index, List.getElem_idxOf index]
    rfl
  rw [readVariantItem_eq, variantItem]
  exact delimits_last readIndex (doneListed all) _ (all.idxOf value) value
    (delimits_index _ (Nat.lt_of_lt_of_le index few)) found

/-! ## Options and sequences -/

theorem delimits_none {α : Type} (item : Reader α) : Delimits (readOptionItem item) [0] none where
  whole := fun _ => rfl
  cut := by
    intro n short
    rw [List.length_singleton] at short
    rw [show n = 0 by omega]
    rfl

theorem delimits_some {α : Type} (item : Reader α) (bytes : List UInt8) (value : α)
    (delimits : Delimits item bytes value) :
    Delimits (readOptionItem item) (1 :: bytes) (some value) where
  whole := by
    intro rest
    change (do
      let (value, bytes) ← item (bytes ++ rest)
      return (some value, bytes)) = _
    rw [delimits.whole, ok_bind]
    rfl
  cut := by
    intro n short
    cases n with
    | zero => rfl
    | succ n =>
      change (do
        let (value, bytes) ← item (bytes.take n)
        return (some value, bytes)) = _
      rw [delimits.cut n (by simpa using short), error_bind]

theorem readItems_succ {α : Type} (item : Reader α) (count : Nat) :
    readItems item (count + 1) =
      andThen item fun value =>
        andThen (readItems item count) fun values => done (value :: values) := rfl

/-- Items that are delimited one by one are delimited together. -/
theorem delimits_items {α : Type} (item : Reader α) (write : α → List UInt8) (values : List α)
    (each : ∀ value ∈ values, Delimits item (write value) value) :
    Delimits (readItems item values.length) (values.flatMap write) values := by
  induction values with
  | nil => exact delimits_done []
  | cons value values ih =>
    have first := each value (by simp)
    have others := ih fun other member => each other (by simp [member])
    rw [List.length_cons, readItems_succ, List.flatMap_cons]
    exact delimits_andThen item _ _ _ value (value :: values) first
      (delimits_last (readItems item values.length) _ _ values _ others rfl)

theorem readSequenceItem_eq {α : Type} (item : Reader α) :
    readSequenceItem item = andThen readLength (readItems item) := rfl

theorem delimits_sequence {α : Type} (item : Reader α) (write : α → List UInt8) (values : List α)
    (fits : values.length < Text.Numeral.wordLimit)
    (each : ∀ value ∈ values, Delimits item (write value) value) :
    Delimits (readSequenceItem item) (sequenceItem write values) values := by
  rw [readSequenceItem_eq]
  exact delimits_andThen readLength (readItems item) _ _ _ values (delimits_length _ fits)
    (delimits_items item write values each)

/-- As many items are read as asked for. -/
theorem length_readItems {α : Type} (item : Reader α) (count : Nat) (bytes rest : List UInt8)
    (values : List α) (read : readItems item count bytes = .ok (values, rest)) :
    values.length = count := by
  induction count generalizing bytes values with
  | zero =>
    cases read
    rfl
  | succ count ih =>
    obtain ⟨⟨value, left⟩, _, read⟩ := bind_eq_ok _ _ _ read
    obtain ⟨⟨others, left'⟩, later, read⟩ := bind_eq_ok _ _ _ read
    cases read
    rw [List.length_cons, ih left others later]

/-- Whatever the octets are, a sequence has a length of 64 bits. -/
theorem length_readSequenceItem_lt {α : Type} (item : Reader α) (bytes rest : List UInt8)
    (values : List α) (read : readSequenceItem item bytes = .ok (values, rest)) :
    values.length < Text.Numeral.wordLimit := by
  obtain ⟨⟨count, left⟩, length, read⟩ := bind_eq_ok _ _ _ read
  rw [length_readItems item count left rest values read]
  exact readLength_lt count bytes left length

end GridChess.Snapshot
