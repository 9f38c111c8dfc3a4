import ChatGateway.Binary.Basic
import ChatGateway.Numeral
import ChatGateway.Word

/-!
# Announced delays

A provider that is overloaded may announce how long to stay away: in whole
seconds, or as a compound of parts such as `1m30s`.  Each part is a decimal number
and a unit; its amount is a double, multiplied by the seconds of the unit and
rounded to the nearest nanosecond, a half to the even one.  Delays of two to the
sixty-fourth seconds or more are no delays.

## Main definitions

* `Delay.Part`, `Delay.parts?` — the parts of a compound.
* `Delay.compound?` — their sum.
* `Delay.ofHeader?` — the delay that a header value announces, in nanoseconds.
-/

namespace ChatGateway.Delay

/-- The nanoseconds of a second. -/
def second : Nat := 1000000000

/-- No delay is as long as this. -/
def limit : Nat := (word64Max + 1) * second

/-! ## Units and numbers -/

/-- A unit of time. -/
inductive TimeUnit where
  | hour
  | minute
  | second
  | millisecond
  deriving DecidableEq, Repr

/-- The seconds of a unit, as a double. -/
def TimeUnit.seconds : TimeUnit → Binary
  | hour => .ofNat binary64 3600
  | minute => .ofNat binary64 60
  | second => .ofNat binary64 1
  | millisecond => .ofRatio binary64 false 1 1000

/-- The unit at the front of a text, and the rest.  The longer name is tried
first. -/
def TimeUnit.read? : List Char → Option (TimeUnit × List Char)
  | 'm' :: 's' :: rest => some (.millisecond, rest)
  | 'h' :: rest => some (.hour, rest)
  | 'm' :: rest => some (.minute, rest)
  | 's' :: rest => some (.second, rest)
  | _ => none

/-- A unit takes up some of the text. -/
theorem TimeUnit.length_of_read? {cs rest : List Char} {u : TimeUnit}
    (h : read? cs = some (u, rest)) : rest.length < cs.length := by
  unfold read? at h
  split at h <;> simp only [Option.some.injEq, Prod.mk.injEq, reduceCtorEq] at h <;>
    · rw [← h.2]; simp only [List.length_cons]; omega

/-- Whether a character may stand in the number of a part. -/
def isNumberChar (c : Char) : Bool :=
  c.isDigit || c = '.'

/-- The double nearest to a decimal number: digits with at most one point, and at
least one digit. -/
def amount? (cs : List Char) : Option Binary :=
  let whole := cs.takeWhile Char.isDigit
  match cs.dropWhile Char.isDigit with
  | [] => if whole = [] then none else some (.ofNat binary64 (digitsValue whole))
  | _ :: fraction =>
    if fraction.all Char.isDigit && !(whole ++ fraction).isEmpty then
      some (.ofRatio binary64 false (digitsValue (whole ++ fraction)) (Nat.pow 10 fraction.length))
    else none

/-! ## Parts -/

/-- A number and its unit. -/
structure Part where
  number : List Char
  unit : TimeUnit
  deriving DecidableEq, Repr

/-- The parts of a text, if it is nothing but parts. -/
def parts? (cs : List Char) : Option (List Part) :=
  if cs = [] then some []
  else
    match _h : TimeUnit.read? (cs.dropWhile isNumberChar) with
    | none => none
    | some (unit, rest) => (parts? rest).map (⟨cs.takeWhile isNumberChar, unit⟩ :: ·)
termination_by cs.length
decreasing_by
  have := TimeUnit.length_of_read? _h
  have := (List.dropWhile_sublist isNumberChar (l := cs)).length_le
  omega

/-- A number of seconds to the nearest nanosecond. -/
def ofSeconds? : Binary → Option Nat
  | .infinite _ => none
  | .finite _ m e =>
    let (n, d) := Binary.ratio m e
    if n < (word64Max + 1) * d then some (roundQuotient (n * second) d) else none

/-- The delay of a part. -/
def Part.delay? (p : Part) : Option Nat :=
  (amount? p.number).bind fun amount => ofSeconds? (Binary.mul binary64 amount p.unit.seconds)

/-- The sum of delays, each of which may be missing. -/
def total? : List (Option Nat) → Option Nat
  | [] => some 0
  | d :: rest =>
    match d, total? rest with
    | some a, some b => if a + b < limit then some (a + b) else none
    | _, _ => none

/-- The delay of a compound: the sum of one part or more. -/
def compound? (cs : List Char) : Option Nat :=
  if cs = [] then none else (parts? cs).bind fun ps => total? (ps.map Part.delay?)

/-! ## Header values -/

/-- A number of seconds in digits, possibly after a plus sign, that fits a 64-bit
word. -/
def wholeSeconds? (cs : List Char) : Option Nat :=
  let digits := match cs with
    | '+' :: rest => rest
    | _ => cs
  if digits.isEmpty || !digits.all Char.isDigit then none
  else if digitsValue digits ≤ word64Max then some (digitsValue digits)
  else none

/-- Whether a character is a blank that a header value may hold. -/
def isBlank (c : Char) : Bool :=
  c = ' ' || c = '\t'

/-- A text without the blanks at its ends. -/
def trimBlanks (cs : List Char) : List Char :=
  ((cs.dropWhile isBlank).reverse.dropWhile isBlank).reverse

/-- Whether a header value can be read as text: visible characters of ASCII,
spaces and tabs. -/
def isReadable (value : String) : Bool :=
  value.toList.all fun c => c = '\t' || (0x20 ≤ c.toNat && c.toNat < 0x7F)

/-- The delay that a header value announces. -/
def ofHeader? (value : String) : Option Nat :=
  if isReadable value then
    let cs := trimBlanks value.toList
    match wholeSeconds? cs with
    | some n => some (n * second)
    | none => compound? cs
  else none

end ChatGateway.Delay
