/-!
# Octets of a text

A text as its UTF-8 octets, and back. Reading refuses octets that are not UTF-8.
-/

set_option autoImplicit false

namespace GridChess.Text

def octetsOf (chars : List Char) : List UInt8 := chars.flatMap String.utf8EncodeChar

def octets (text : String) : List UInt8 := octetsOf text.toList

def ofOctets? (bytes : List UInt8) : Option String := String.fromUTF8? bytes.toByteArray

theorem ofOctets?_octets (text : String) : ofOctets? (octets text) = some text := by
  have h : (octets text).toByteArray = text.toByteArray := by
    have := text.utf8Encode_toList
    simpa [octets, octetsOf, List.utf8Encode] using this
  have valid : (octets text).toByteArray.IsValidUTF8 := h ▸ text.isValidUTF8
  simp only [ofOctets?, String.fromUTF8?, dif_pos valid, Option.some.injEq]
  exact String.toByteArray_inj.1 h

end GridChess.Text
