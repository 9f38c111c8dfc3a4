import ChatGateway.Http.DomainName
import ChatGateway.Http.Percent

/-!
# Paths of addresses

A path is walked segment by segment.  A segment of one dot stays where the walk is,
one of two dots goes up, and every other segment goes down.  A segment that names a
drive, a letter with a colon or a bar, is never left; in the path of a file a drive
at the root is written with a colon.

## Main definitions

* `Walk` — where a walk is.
* `Walk.follow` — the walk along segments.
-/

namespace ChatGateway

/-! ## Line breaks -/

/-- Tabs and line breaks are dropped wherever they stand. -/
def isBreak (c : Char) : Bool :=
  c = '\t' || c = '\n' || c = '\r'

/-- A text without tabs and line breaks. -/
def unbroken (cs : List Char) : List Char :=
  cs.filter (!isBreak ·)

/-! ## Segments -/

/-- Whether a character separates the segments of a path. -/
def isSlash (c : Char) : Bool :=
  c = '/' || c = '\\'

/-- Whether a segment stands for the place it is in. -/
def isDot (s : List Char) : Bool :=
  let s := s.map Char.toLower
  s = ['.'] || s = ['%', '2', 'e']

/-- Whether a segment stands for the place above. -/
def isDotDot (s : List Char) : Bool :=
  match s with
  | '.' :: rest => isDot rest
  | '%' :: '2' :: _ :: rest => isDot (s.take 3) && isDot rest
  | _ => false

/-- Whether two characters name a drive. -/
def namesDrive (c d : Char) : Bool :=
  c.isAlpha && (d = ':' || d = '|')

/-- Whether a segment names a drive. -/
def isDrive : List Char → Bool
  | [c, d] => namesDrive c d
  | _ => false

/-- Whether a segment names a drive, up to a backward slash. -/
def startsDrive : List Char → Bool
  | [c, d] | c :: d :: '\\' :: _ => namesDrive c d
  | _ => false

/-- Whether a tab or line break comes between the colon of a drive and more of a
segment.  It separates them like a slash. -/
def breaksDrive (raw : List Char) : Bool :=
  match raw.dropWhile isBreak with
  | [] => false
  | c :: rest =>
    match rest.dropWhile isBreak with
    | ':' :: b :: more => c.isAlpha && isBreak b && !(unbroken more).isEmpty
    | _ => false

/-! ## Walks -/

/-- Where a walk along a path is. -/
structure Walk where
  /-- What has been walked, with dot segments carried out, last character first. -/
  back : List Char
  /-- A drive was met at the root. -/
  onDrive : Bool := false
  deriving DecidableEq, Repr

namespace Walk

/-- The path that has been walked. -/
def path (w : Walk) : List Char :=
  w.back.reverse

/-- Whether what has been walked ends in a slash. -/
def endsInSlash (back : List Char) : Bool :=
  back.head? = some '/'

/-- What has been walked since the last slash. -/
def lastSegment (back : List Char) : List Char :=
  (back.takeWhile (· ≠ '/')).reverse

/-- Whether the slash at the end may be left behind: not the one at the root, and not
the one after a drive. -/
def isLeavable (back : List Char) : Bool :=
  (back.drop 1).contains '/' && !startsDrive (lastSegment (back.drop 1))

/-- The place above. -/
def above (isFile : Bool) (back : List Char) : List Char :=
  let back := if endsInSlash back && isLeavable back then back.drop 1 else back
  if isFile && isDrive (lastSegment back) then back else back.dropWhile (· ≠ '/')

/-- The text of a segment. -/
def segmentText (isFile : Bool) (back raw : List Char) : List Char :=
  let s := percentEncoded notInPath (unbroken raw)
  if isFile && back = ['/'] && breaksDrive raw then s.take 2 ++ '/' :: s.drop 2 else s

/-- A slash at the end. -/
def slashed (back : List Char) : List Char :=
  if endsInSlash back then back else '/' :: back

/-- Follow a segment, and the slash after it, if one follows. -/
def step (isFile : Bool) (w : Walk) (raw : List Char) (slash : Bool) : Walk :=
  let s := segmentText isFile w.back raw
  let ending : List Char := if slash then ['/'] else []
  if isDotDot s then
    let back := above isFile w.back
    { w with back := if slash then slashed back else back }
  else if isDot s then { w with back := slashed w.back }
  else if isFile && w.back = ['/'] && isDrive s then ⟨ending ++ ':' :: (s.take 1 ++ ['/']), true⟩
  else { w with back := ending ++ s.reverse ++ w.back }

/-- Follow segments with slashes between. -/
def follow (isFile : Bool) (w : Walk) : List (List Char) → Walk
  | [] => w
  | [s] => w.step isFile s false
  | s :: rest => (w.step isFile s true).follow isFile rest

end Walk

/-- The path of an address, walked from a beginning. -/
def walkedPath (isSeparator : Char → Bool) (start cs : List Char) : List Char :=
  (Walk.follow false ⟨start, false⟩ (partsBetween isSeparator cs)).path

/-- The path of a file, walked from a beginning, and whether it met a drive at the root.
No segment in front is empty. -/
def walkedFile (start cs : List Char) : List Char × Bool :=
  let w := Walk.follow true ⟨start, false⟩ (partsBetween isSlash cs)
  ('/' :: w.path.dropWhile (· = '/'), w.onDrive)

end ChatGateway
