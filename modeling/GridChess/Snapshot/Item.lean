import GridChess.Snapshot.Fault
import GridChess.Text.Numeral
import GridChess.Text.Octets

/-!
# Snapshot items

Numbers are written in groups of seven bits, least group first, with the top bit set on every
octet but the last. Texts and sequences start with their length. A reader takes what it needs
from the front of the octets and hands back the rest, so what follows an item never matters.
-/

set_option autoImplicit false

namespace GridChess.Snapshot

/-- Takes a value from the front of the octets. -/
abbrev Reader (α : Type) := List UInt8 → Except Fault (α × List UInt8)

/-- The octets of a number, least group of seven bits first. -/
def varint (n : Nat) : List UInt8 :=
  if n < 128 then [n.toUInt8] else (n % 128 + 128).toUInt8 :: varint (n / 128)
termination_by n

/-- Reads a number of at most `width` octets whose last one, if all are used, is at most `most`.
A number may take more octets than it needs. -/
def readVarint (most : Nat) : Nat → Reader Nat
  | 0, _ => .error .badVarint
  | _ + 1, [] => .error .truncated
  | width + 1, b :: rest =>
    if b.toNat < 128 then
      if width = 0 ∧ most < b.toNat then .error .badVarint else .ok (b.toNat, rest)
    else do
      let (later, rest) ← readVarint most width rest
      return (b.toNat - 128 + 128 * later, rest)

/-- Seven bits less for the number are seven bits less for its limit. -/
theorem shiftLeft_quotient {limit width n : Nat} (h : n < limit <<< (7 * (width + 1))) :
    n / 128 < limit <<< (7 * width) := by
  rw [Nat.div_lt_iff_lt_mul (by decide), ← Nat.shiftLeft_eq _ 7, ← Nat.shiftLeft_add]
  exact h

/-- A number that the last octet leaves room for reads back, whatever follows it. -/
theorem readVarint_varint {most width n : Nat} (hm : most < 128)
    (h : n < (most + 1) <<< (7 * width)) (rest : List UInt8) :
    readVarint most (width + 1) (varint n ++ rest) = .ok (n, rest) := by
  induction width generalizing n with
  | zero =>
    have small : n < 128 := by omega
    rw [varint, if_pos small]
    have hn : n.toUInt8.toNat = n := by simp; omega
    simp [readVarint, hn, small]
    omega
  | succ width ih =>
    rw [varint]
    split
    · rename_i small
      have hn : n.toUInt8.toNat = n := by simp; omega
      simp [readVarint, hn, small]
    · rename_i big
      have hn : (n % 128 + 128).toUInt8.toNat = n % 128 + 128 := by simp; omega
      have quotient := shiftLeft_quotient h
      rw [List.cons_append, readVarint, hn, if_neg (by omega), ih quotient]
      simp [bind, Except.bind, pure, Except.pure]
      omega

/-- A length, which has 64 bits. -/
def readLength : Reader Nat := readVarint 1 10

theorem readLength_varint {n : Nat} (h : n < Text.Numeral.wordLimit) (rest : List UInt8) :
    readLength (varint n ++ rest) = .ok (n, rest) :=
  readVarint_varint (by decide) h rest

/-- The largest number that 32 bits hold, plus one. -/
def indexLimit : Nat := 4294967296

/-- The number of a variant, which has 32 bits. -/
def readIndex : Reader Nat := readVarint 15 5

theorem readIndex_varint {n : Nat} (h : n < indexLimit) (rest : List UInt8) :
    readIndex (varint n ++ rest) = .ok (n, rest) :=
  readVarint_varint (by decide) h rest

def textItem (text : String) : List UInt8 :=
  let bytes := Text.octets text
  varint bytes.length ++ bytes

def readTextItem : Reader String := fun bytes => do
  let (length, bytes) ← readLength bytes
  if bytes.length < length then throw .truncated
  match Text.ofOctets? (bytes.take length) with
  | some text => return (text, bytes.drop length)
  | none => throw .badText

def sequenceItem {α : Type} (item : α → List UInt8) (values : List α) : List UInt8 :=
  varint values.length ++ values.flatMap item

def readItems {α : Type} (item : Reader α) : Nat → Reader (List α)
  | 0, bytes => .ok ([], bytes)
  | count + 1, bytes => do
    let (value, bytes) ← item bytes
    let (values, bytes) ← readItems item count bytes
    return (value :: values, bytes)

def readSequenceItem {α : Type} (item : Reader α) : Reader (List α) := fun bytes => do
  let (count, bytes) ← readLength bytes
  readItems item count bytes

def optionItem {α : Type} (item : α → List UInt8) : Option α → List UInt8
  | none => [0]
  | some value => 1 :: item value

def readOptionItem {α : Type} (item : Reader α) : Reader (Option α)
  | [] => .error .truncated
  | b :: bytes =>
    if b = 0 then .ok (none, bytes)
    else if b = 1 then do
      let (value, bytes) ← item bytes
      return (some value, bytes)
    else .error .badOption

/-- A value of a listed type is stored as its index in the list. -/
def variantItem {α : Type} [BEq α] (all : List α) (value : α) : List UInt8 :=
  varint (all.idxOf value)

def readVariantItem {α : Type} (all : List α) : Reader α := fun bytes => do
  let (index, bytes) ← readIndex bytes
  match all[index]? with
  | some value => return (value, bytes)
  | none => throw .badItem

/-- A value stored as a text that has to be read in turn. -/
def readParsedItem {α ε : Type} (parse : String → Except ε α) : Reader α := fun bytes => do
  let (text, bytes) ← readTextItem bytes
  match parse text with
  | .ok value => return (value, bytes)
  | .error _ => throw .badItem

end GridChess.Snapshot
