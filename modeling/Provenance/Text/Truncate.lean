/-!
Texts cut to a number of bytes without splitting a character: the cut is made at the limit, or at
the nearest byte before it where a character begins.
-/

set_option autoImplicit false
set_option relaxedAutoImplicit false

namespace Provenance.Text

/-- The place in front of a byte of a text, or behind its last one. A byte inside a character has
none. -/
def boundary? (text : String) (index : Nat) : Option text.Pos :=
  if h : String.Pos.Raw.IsValid text ⟨index⟩ then some ⟨⟨index⟩, h⟩ else none

/-- Walks back from a byte of a text to the nearest place where no character is split. The walk has
no result if it would have to go on past the first byte. -/
def lastBoundary? (text : String) : (index : Nat) → Option text.Pos
  | 0 => boundary? text 0
  | index + 1 => boundary? text (index + 1) <|> lastBoundary? text index

theorem boundary?_zero (text : String) : boundary? text 0 = some text.startPos :=
  dif_pos String.Pos.Raw.isValid_zero

/-- The walk ends at the first byte at the latest. -/
theorem isSome_lastBoundary? (text : String) (index : Nat) :
    (lastBoundary? text index).isSome := by
  induction index with
  | zero => rw [lastBoundary?, boundary?_zero, Option.isSome_some]
  | succ index ih => simp [lastBoundary?, ih]

def truncate (limit : Nat) (text : String) : String :=
  if text.utf8ByteSize ≤ limit then text
  else
    (text.sliceTo ((lastBoundary? text limit).get (isSome_lastBoundary? text limit))).copy

end Provenance.Text
