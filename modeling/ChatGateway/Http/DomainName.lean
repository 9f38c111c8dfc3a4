import ChatGateway.Http.Punycode
import ChatGateway.Text.Composition
import ChatGateway.Text.Direction
import ChatGateway.Text.Folding
import ChatGateway.Text.Joining
import ChatGateway.Text.Unprintable

/-!
# Domain names

A domain name is a row of labels with dots between.  Its letters may be of any
script.  They are folded and composed, so that each name has one form, and then
every label outside ASCII is spelled in ASCII behind `xn--`.  A label may also be
given in that spelling, if it is the spelling of a label in that one form.

## Main definitions

* `DomainName.Label` — a label and its spelling.
* `DomainName.label?` — a label, if it may stand in a name.
* `DomainName.isDirected` — whether a label keeps one direction of writing.
* `DomainName.ofChars?` — the form of a name in ASCII.
-/

namespace ChatGateway

/-- The parts of a text between marks. -/
def partsBetween (isMark : Char → Bool) : List Char → List (List Char)
  | [] => [[]]
  | c :: rest =>
    if isMark c then [] :: partsBetween isMark rest
    else
      match partsBetween isMark rest with
      | [] => [[c]]
      | p :: more => (c :: p) :: more

namespace DomainName

/-! ## Characters -/

/-- Whether a character lies in ASCII. -/
def isAscii (c : Char) : Bool :=
  c.toNat < 0x80

/-- The characters of ASCII that no label holds: controls, blanks, and what has a
meaning elsewhere in an address. -/
def isForbidden (c : Char) : Bool :=
  c.toNat ≤ 0x20 || c.toNat = 0x7F ||
    ['#', '%', '/', ':', '<', '>', '?', '@', '[', '\\', ']', '^', '|'].contains c

/-- Ranges of visible characters that no label holds: signs that would fold to dots,
descriptions of ideographs, and marks for what is not there. -/
def unfitRanges : List (Nat × Nat) := [
  (0x2024, 0x2026), (0x2488, 0x249B), (0x2FF0, 0x2FFF), (0x31EF, 0x31EF), (0x33C2, 0x33C2),
  (0x33C7, 0x33C7), (0x33D8, 0x33D8), (0xFE12, 0xFE12), (0xFE19, 0xFE19), (0xFE30, 0xFE30),
  (0xFE52, 0xFE52), (0xFFFC, 0xFFFD), (0x1F100, 0x1F100)]

/-- The character that keeps letters from joining. -/
def nonJoiner : Char := Char.ofNat 0x200C

/-- The character that makes letters join. -/
def joiner : Char := Char.ofNat 0x200D

/-- Whether a character only directs how letters join. -/
def isJoiner (c : Char) : Bool :=
  c = nonJoiner || c = joiner

/-- What a character of a name stands for, if a name may hold it. -/
def spelled? (c : Char) : Option (List Char) :=
  if isAscii c then some [c.toLower]
  else
    match Text.folding? c with
    | some cs => some cs
    | none =>
      if isJoiner c then some [c]
      else if Text.isUnprintable c || Text.inRanges unfitRanges c.toNat then none
      else some [c]

/-- Whether a label may hold a character and keep it as it is. -/
def isPlain (c : Char) : Bool :=
  !isForbidden c && spelled? c = some [c]

/-! ## Labels -/

/-- The class of the marks that join a letter to the next. -/
def joiningClass : Nat := 9

/-- Whether the first character that is not transparent has a property. -/
def reaches (isWanted : Char → Bool) (cs : List Char) : Bool :=
  match cs.dropWhile fun c => Text.isTransparent c && !isWanted c with
  | [] => false
  | c :: _ => isWanted c

/-- Whether the joiners of a label have something to join.  They may follow a mark
that joins; to keep letters apart there must also be letters on both sides that
would join.  What stands before is given last first. -/
def joinersFit (before : List Char) : List Char → Bool
  | [] => true
  | c :: rest =>
    (!isJoiner c ||
      (match before with
        | [] => false
        | b :: _ =>
          Text.combiningClass b = joiningClass ||
            (c = nonJoiner && reaches Text.joinsNext before && reaches Text.joinsPrevious rest)))
      && joinersFit (c :: before) rest

/-- Whether a label begins with a mark. -/
def startsWithMark : List Char → Bool
  | [] => false
  | c :: _ => Text.isMark c

/-- The most characters of a label outside ASCII. -/
def maxLength : Nat := 1000

/-- The most characters of the spelling of a label. -/
def maxSpelling : Nat := 2000

/-- Whether the characters of a label may stand in this order. -/
def isSound (cs : List Char) : Bool :=
  !startsWithMark cs && joinersFit [] cs && (cs.all isAscii || cs.length ≤ maxLength)

/-- What stands before the spelling of a label outside ASCII. -/
def marker : List Char := ['x', 'n', '-', '-']

/-- A label. -/
structure Label where
  /-- The characters that are meant. -/
  chars : List Char
  /-- How they are written in ASCII. -/
  ascii : List Char
  deriving DecidableEq, Repr

/-- The label of a spelling, which has to be in folded and composed form. -/
def unspelled? (code : List Char) : Option (List Char) :=
  if code = [] ∨ code.getLast? = some '-' ∨ maxSpelling < code.length ∨ !code.all isAscii then none
  else
    (Punycode.decode? code).filter fun cs =>
      cs.all isPlain && Text.composed cs = cs && isSound cs

/-- A label of folded and composed characters, if it may stand in a name. -/
def label? (cs : List Char) : Option Label :=
  if marker.isPrefixOf cs then (unspelled? (cs.drop marker.length)).map (⟨·, cs⟩)
  else if cs.any isForbidden || !isSound cs then none
  else some ⟨cs, if cs.all isAscii then cs else marker ++ Punycode.encode cs⟩

/-- The folded and composed labels that stand for a label.  Some characters fold to
dots. -/
def parts? (cs : List Char) : Option (List (List Char)) :=
  (cs.mapM spelled?).map fun folded => partsBetween (· = '.') (Text.composed folded.flatten)

/-! ## Direction -/

/-- Whether a character is written from right to left, or goes with such. -/
def isRightToLeft (c : Char) : Bool :=
  Text.direction c = .right || Text.direction c = .rightDigit

/-- Whether a label written from left to right may hold a character inside. -/
def fitsLeft (d : Text.Direction) : Bool :=
  d ≠ .right && d ≠ .rightDigit

/-- Whether a label written from right to left may hold a character inside. -/
def fitsRight (d : Text.Direction) : Bool :=
  d ≠ .left

/-- Whether a label keeps the direction of its first letter: marks at the end apart,
it ends in a letter of the direction or in a digit, and a label written from right
to left does not mix both kinds of digits. -/
def isDirected (cs : List Char) : Bool :=
  let ds := cs.map Text.direction
  let core := (ds.drop 1).reverse.dropWhile (· = .mark)
  match ds.head?, core with
  | none, _ => true
  | some .left, [] | some .right, [] => true
  | some .left, last :: inner => (last = .left || last = .digit) && inner.all fitsLeft
  | some .right, last :: inner =>
    (last = .right || last = .digit || last = .rightDigit) && inner.all fitsRight
      && !(core.contains .digit && core.contains .rightDigit)
  | some _, _ => false

/-! ## Names -/

/-- Labels with dots between. -/
def dotted : List (List Char) → List Char
  | [] => []
  | [cs] => cs
  | cs :: rest => cs ++ '.' :: dotted rest

/-- The labels of a name. -/
def labels? (cs : List Char) : Option (List Label) :=
  ((partsBetween (· = '.') cs).mapM parts?).bind fun parts => parts.flatten.mapM label?

/-- The form of a name in ASCII.  In a name with letters written from right to left
every label keeps one direction. -/
def ofChars? (cs : List Char) : Option (List Char) :=
  (labels? cs).bind fun labels =>
    if labels.any (·.chars.any isRightToLeft) && !labels.all (isDirected ·.chars) then none
    else some (dotted (labels.map (·.ascii)))

end DomainName

end ChatGateway
