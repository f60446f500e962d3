import GridChess.Colour

/-!
# Kinds of pieces

The six kinds and their chess glyphs. A kind on its own is shown by its black glyph.
-/

set_option autoImplicit false

namespace GridChess

inductive Kind where
  | king | queen | bishop | knight | rook | pawn
  deriving DecidableEq, Repr

namespace Kind

/-- All kinds, in the order that stored snapshots number them. -/
def all : List Kind := [.king, .queen, .bishop, .knight, .rook, .pawn]

def name : Kind → String
  | .king => "king"
  | .queen => "queen"
  | .bishop => "bishop"
  | .knight => "knight"
  | .rook => "rook"
  | .pawn => "pawn"

def blackGlyph : Kind → Char
  | .king => '♚'
  | .queen => '♛'
  | .bishop => '♝'
  | .knight => '♞'
  | .rook => '♜'
  | .pawn => '♟'

/-- White glyphs stand six code points below the black ones. -/
def glyph (kind : Kind) : Colour → Char
  | .black => kind.blackGlyph
  | .white => Char.ofNat (kind.blackGlyph.toNat - 6)

instance : ToString Kind := ⟨fun kind => String.singleton kind.blackGlyph⟩

theorem glyph_injective {k k' : Kind} {c c' : Colour} (h : k.glyph c = k'.glyph c') :
    k = k' ∧ c = c' := by
  cases k <;> cases k' <;> cases c <;> cases c' <;> revert h <;> decide

end Kind

end GridChess
