import GridChess.Text.Unshown

/-!
# Quoted texts

A text between double quotes, for messages. Quotes, backslashes and characters without a visible
form are escaped.
-/

set_option autoImplicit false

namespace GridChess.Text

def escapedCode (c : Char) : List Char :=
  "\\u\x7b".toList ++ Nat.toDigits 16 c.toNat ++ ['\x7d']

def escaped (c : Char) : List Char :=
  match c with
  | '\x00' => ['\\', '0']
  | '\t' => ['\\', 't']
  | '\r' => ['\\', 'r']
  | '\n' => ['\\', 'n']
  | '\\' => ['\\', '\\']
  | '"' => ['\\', '"']
  | _ => if c.toNat < 0x20 || c.toNat = 0x7F || isUnshown c then escapedCode c else [c]

def quoted (text : String) : String :=
  String.ofList ('"' :: text.toList.flatMap escaped ++ ['"'])

end GridChess.Text
