import ChatGateway.Http.DomainName
import ChatGateway.Http.Percent

/-!
# Hosts in addresses

A host is a name, or the number of a machine: one of thirty-two bits, written
as up to four numbers between dots, or one of eight pieces, written in brackets
as groups of hexadecimal digits.  On the web a name is a domain name, and one that
ends like a number must be one; elsewhere a name is taken as it stands.

## Main definitions

* `HostName` — the three kinds.
* `HostName.ofDomain?` — the host that a text gives on the web, if it gives one.
* `HostName.ofOpaque?` — the host that a text gives elsewhere.
* `HostName.chars` — how a host is written: all four numbers in decimal, and the
  longest row of zero pieces left out.
-/

namespace ChatGateway

/-- What digits are worth in a base, if they are digits of that base. -/
def valueIn? (base : Nat) (ds : List Char) : Option Nat :=
  ds.foldlM (fun n c => (hexValue? c).bind fun d => if d < base then some (n * base + d) else none)
    0

/-- A host. -/
inductive HostName where
  | name (cs : List Char)
  /-- A machine with a number of thirty-two bits. -/
  | number (n : Nat)
  /-- A machine with a number of eight pieces. -/
  | pieces (ps : List Nat)
  deriving DecidableEq, Repr

namespace HostName

/-! ## Four numbers -/

/-- The worth of a number between dots: hexadecimal after `0x`, octal after any
other leading zero. -/
def partValue? : List Char → Option Nat
  | [] => none
  | '0' :: 'x' :: ds => valueIn? 16 ds
  | '0' :: d :: ds => valueIn? 8 (d :: ds)
  | ds => valueIn? 10 ds

/-- Whether the last part of a name looks like a number.  A dot at the end does not
count. -/
def endsInNumber (cs : List Char) : Bool :=
  let last := match (partsBetween (· = '.') cs).reverse with
    | [] :: before :: _ => before
    | last :: _ => last
    | [] => []
  !last.isEmpty && (last.all Char.isDigit || (partValue? last).isSome)

/-- The number that numbers between dots make: each but the last is a byte, and the
last fills the bytes that are left. -/
def numberOf? (ns : List Nat) : Option Nat :=
  match ns.getLast? with
  | none => none
  | some last =>
    let bytes := ns.dropLast
    let room := Nat.pow 256 (4 - bytes.length)
    if bytes.length < 4 ∧ bytes.all (· < 256) ∧ last < room then
      some (bytes.foldl (fun n b => n * 256 + b) 0 * room + last)
    else none

/-- The number of a text of numbers between dots. -/
def number? (cs : List Char) : Option Nat :=
  let parts := partsBetween (· = '.') cs
  let parts := if parts.getLast? = some [] then parts.dropLast else parts
  (parts.mapM partValue?).bind numberOf?

/-- A number of thirty-two bits as four numbers between dots. -/
def numberChars (n : Nat) : List Char :=
  decimalDigits (n / 16777216) ++ '.' :: decimalDigits (n / 65536 % 256)
    ++ '.' :: decimalDigits (n / 256 % 256) ++ '.' :: decimalDigits (n % 256)

/-! ## Eight pieces -/

/-- A group of one to four hexadecimal digits. -/
def group? (ds : List Char) : Option Nat :=
  if 1 ≤ ds.length ∧ ds.length ≤ 4 then valueIn? 16 ds else none

/-- A byte in decimal, without leading zeros. -/
def byte? : List Char → Option Nat
  | [] => none
  | '0' :: _ :: _ => none
  | ds => (valueIn? 10 ds).filter (· < 256)

/-- The two pieces of four bytes between dots. -/
def bytePieces? (cs : List Char) : Option (List Nat) :=
  match (partsBetween (· = '.') cs).mapM byte? with
  | some [a, b, c, d] => some [a * 256 + b, c * 256 + d]
  | _ => none

/-- The pieces of groups.  The last one may be four bytes where that is allowed. -/
def groups? (bytesAllowed : Bool) : List (List Char) → Option (List Nat)
  | [] => some []
  | [g] => (group? g).map ([·]) <|> (if bytesAllowed then bytePieces? g else none)
  | g :: rest =>
    match group? g, groups? bytesAllowed rest with
    | some p, some ps => some (p :: ps)
    | _, _ => none

/-- The groups between colons; there are none in an empty text. -/
def colonGroups (cs : List Char) : List (List Char) :=
  if cs = [] then [] else partsBetween (· = ':') cs

/-- What stands before and after the first two colons in a row. -/
def splitGap? : List Char → Option (List Char × List Char)
  | [] => none
  | ':' :: ':' :: rest => some ([], rest)
  | c :: rest => (splitGap? rest).map fun p => (c :: p.1, p.2)

/-- The eight pieces of a text.  Two colons in a row stand for one zero piece or
more. -/
def pieces? (cs : List Char) : Option (List Nat) :=
  match splitGap? cs with
  | none => (groups? true (colonGroups cs)).filter (·.length = 8)
  | some (before, after) =>
    match groups? false (colonGroups before), groups? true (colonGroups after) with
    | some ps, some qs =>
      if ps.length + qs.length < 8 then
        some (ps ++ List.replicate (8 - ps.length - qs.length) 0 ++ qs)
      else none
    | _, _ => none

/-- The place and the length of the longest row of zeros, the first of several. -/
def longestGap (ps : List Nat) : Nat × Nat :=
  (List.range ps.length).foldl
    (fun best i =>
      let n := ((ps.drop i).takeWhile (· = 0)).length
      if best.2 < n then (i, n) else best)
    (0, 0)

/-- Pieces in hexadecimal with colons between. -/
def pieceChars : List Nat → List Char
  | [] => []
  | [p] => Nat.toDigits 16 p
  | p :: rest => Nat.toDigits 16 p ++ ':' :: pieceChars rest

/-- Pieces in brackets.  A single zero is not left out. -/
def bracketChars (ps : List Nat) : List Char :=
  let (start, length) := longestGap ps
  let inner :=
    if length < 2 then pieceChars ps
    else pieceChars (ps.take start) ++ ':' :: ':' :: pieceChars (ps.drop (start + length))
  '[' :: (inner ++ [']'])

/-! ## Hosts -/

/-- The host in brackets. -/
def bracketed? (inner : List Char) : Option HostName :=
  if inner.getLast? = some ']' then (pieces? inner.dropLast).map pieces else none

/-- The host that a text gives on the web: a domain name, perhaps with bytes written
after percent signs. -/
def ofDomain? : List Char → Option HostName
  | '[' :: inner => bracketed? inner
  | cs =>
    (Utf8.decode? (percentDecoded cs)).bind fun s =>
      (DomainName.ofChars? s.toList).bind fun domain =>
        if domain.isEmpty then none
        else if endsInNumber domain then (number? domain).map number
        else some (name domain)

/-- What a host that is taken as it stands may not hold. -/
def isForbidden (c : Char) : Bool :=
  ['\x00', '\t', '\n', '\r', ' ', '#', '/', ':', '<', '>', '?', '@', '[', '\\', ']', '^',
    '|'].contains c

/-- The host that a text gives elsewhere. -/
def ofOpaque? : List Char → Option HostName
  | '[' :: inner => bracketed? inner
  | cs => if cs.any isForbidden then none else some (name (percentEncoded isUnwritable cs))

/-- How a host is written. -/
def chars : HostName → List Char
  | name cs => cs
  | number n => numberChars n
  | pieces ps => bracketChars ps

end HostName

end ChatGateway
