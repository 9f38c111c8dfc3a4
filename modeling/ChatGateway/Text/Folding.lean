import ChatGateway.Text.Folding.Forms
import ChatGateway.Text.Folding.Ideographs
import ChatGateway.Text.Folding.Letters
import ChatGateway.Text.Classes

/-!
# Folded characters

Names are compared without regard to case, width and typographic form: a capital
folds to its small letter, a wide or a circled letter to the plain one, a ligature
or a squared word to its letters.  Some characters only direct the display and
fold to nothing.

## Main definitions

* `isDropped` — whether a character folds to nothing.
* `folding?` — what a character folds to, where that is not itself.
-/

namespace ChatGateway.Text

/-- The ranges of characters that fold to nothing. -/
def droppedRanges : List (Nat × Nat) := [
  (0xAD, 0xAD), (0x34F, 0x34F), (0x115F, 0x1160), (0x17B4, 0x17B5), (0x180B, 0x180F),
  (0x200B, 0x200B), (0x2060, 0x2064), (0x206A, 0x206F), (0x3164, 0x3164), (0xFE00, 0xFE0F),
  (0xFEFF, 0xFEFF), (0xFFA0, 0xFFA0), (0x1BCA0, 0x1BCA3), (0x1D173, 0x1D17A), (0xE0100, 0xE01EF)]

/-- Whether a character folds to nothing. -/
def isDropped (c : Char) : Bool :=
  inRanges droppedRanges c.toNat

/-- What rows hold for a code point. -/
def inRows? {α : Type} (rows : List (Nat × List α)) (n : Nat) : Option α :=
  rows.findSome? fun r => if r.1 ≤ n then r.2[n - r.1]? else none

/-- The code points that a code point folds to, where that is not itself. -/
def foldingOf? (n : Nat) : Option (List Nat) :=
  match foldingRuns.find? fun r => r.1 ≤ n && n ≤ r.2.1 && (n - r.1) % r.2.2.1 == 0 with
  | some r => some [((n : Int) + r.2.2.2).toNat]
  | none =>
    (inRows? letterRows n <|> inRows? ideographRows n <|> inRows? formRows n).map ([·])
      <|> inRows? letterExpansions n <|> inRows? ideographExpansions n
      <|> inRows? formExpansions n

/-- The characters that a character folds to, where that is not itself. -/
def folding? (c : Char) : Option (List Char) :=
  if isDropped c then some [] else (foldingOf? c.toNat).map (·.map Char.ofNat)

end ChatGateway.Text
