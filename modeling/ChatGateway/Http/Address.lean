import ChatGateway.Http.Address.Authority
import ChatGateway.Http.Address.Path

/-!
# Addresses

An address is read into the form in which it is used and shown: no stray blanks, a
scheme in small letters, a host in its one form, a path without dot segments, and
every character that an address may not hold as bytes after percent signs.  A name or
password before the host is dropped.  The schemes of the web always name a host, a
file may be on one, and in other schemes it depends on the two slashes.

## Main definitions

* `Address` — the parts of an address.
* `Address.ofText?` — the address that a text gives, if it gives one.
* `Address.text` — how an address is written.
* `Address.isUsable` — whether requests can be sent to it.
-/

namespace ChatGateway

/-- Where a request may be sent. -/
structure Address where
  scheme : List Char
  /-- What is named after two slashes. -/
  authority : Option Authority
  path : List Char
  query : Option (List Char)
  fragment : Option (List Char)
  deriving DecidableEq, Repr

namespace Address

/-! ## Writing -/

/-- What stands before the path.  A path in front of which nothing is named must not
look as if something were. -/
def lead (a : Address) : List Char :=
  match a.authority with
  | some x => '/' :: '/' :: x.chars
  | none => if ['/', '/'].isPrefixOf a.path then ['/', '.'] else []

/-- A part that follows a mark, if it is there. -/
def marked (mark : Char) : Option (List Char) → List Char
  | none => []
  | some cs => mark :: cs

/-- The characters of an address. -/
def chars (a : Address) : List Char :=
  a.scheme ++ ':' :: (a.lead ++ a.path ++ marked '?' a.query ++ marked '#' a.fragment)

/-- How an address is written. -/
def text (a : Address) : String :=
  String.ofList a.chars

/-! ## Use -/

/-- The most characters of an address to which requests are sent. -/
def maxLength : Nat := 65534

/-- Whether a request can name a host with a character. -/
def isSendable (c : Char) : Bool :=
  c ≠ '"' && c ≠ '`' && c ≠ '\x7b' && c ≠ '\x7d'

/-- Whether the scheme of an address is one to which requests are sent. -/
def isWeb (a : Address) : Bool :=
  a.scheme = "http".toList || a.scheme = "https".toList

/-- Whether requests can be sent to an address. -/
def isUsable (a : Address) : Bool :=
  a.isWeb && (a.authority.all fun x => x.host.all isSendable) && a.chars.length ≤ maxLength

/-! ## Reading -/

/-- The scheme in front of a colon, in small letters, and what follows. -/
def scheme? (cs : List Char) : Option (List Char × List Char) :=
  match cs with
  | [] => none
  | c :: _ =>
    let name := cs.takeWhile fun c => c.isAlphanum || c = '+' || c = '-' || c = '.'
    match cs.drop name.length with
    | ':' :: rest => if c.isAlpha then some (name.map Char.toLower, rest) else none
    | _ => none

/-- Whether a character ends a path. -/
def endsPath (c : Char) : Bool :=
  c = '?' || c = '#'

/-- Whether a character ends an authority of the web. -/
def endsAuthority (c : Char) : Bool :=
  isSlash c || endsPath c

/-- The query of a text that begins where the path ends. -/
def query? (onWeb : Bool) (cs : List Char) : Option (List Char) :=
  match cs.takeWhile (· ≠ '#') with
  | [] => none
  | _ :: q => some (percentEncoded (notInQuery onWeb) (unbroken q))

/-- The fragment of a text. -/
def fragment? (cs : List Char) : Option (List Char) :=
  match cs.dropWhile (· ≠ '#') with
  | [] => none
  | _ :: f => some (percentEncoded notInFragment (unbroken f))

/-- An address with what follows its path. -/
def complete (scheme : List Char) (authority : Option Authority) (onWeb : Bool)
    (path after : List Char) : Address :=
  ⟨scheme, authority, path, query? onWeb after, fragment? after⟩

/-- A text without the separator at its beginning. -/
def dropSlash : List Char → List Char
  | [] => []
  | c :: rest => if isSlash c then rest else c :: rest

/-- An address of the web, given what follows the colon.  Any number of slashes may
precede the host. -/
def hosted? (scheme : List Char) (defaultService : Nat) (cs : List Char) : Option Address :=
  let cs := cs.dropWhile isSlash
  let front := cs.takeWhile (!endsAuthority ·)
  let rest := cs.dropWhile (!endsAuthority ·)
  (Authority.ofChars? HostName.ofDomain? (some defaultService) rest.isEmpty front).map fun x =>
    complete scheme (some x.1.anonymous) true
      (walkedPath isSlash ['/'] (dropSlash (rest.takeWhile (!endsPath ·))))
      (rest.dropWhile (!endsPath ·))

/-- A file on no host, whose path is walked from a beginning. -/
def localFile (start cs : List Char) : Address :=
  complete "file".toList (some { host := [] }) true
    (walkedFile start (cs.takeWhile (!endsPath ·))).1 (cs.dropWhile (!endsPath ·))

/-- A file on a host.  A drive at the root of its path is on no host. -/
def remoteFile (host cs : List Char) : Address :=
  let (path, onDrive) := walkedFile ['/'] (dropSlash (cs.takeWhile (!endsPath ·)))
  complete "file".toList (some { host := if onDrive then [] else host }) true path
    (cs.dropWhile (!endsPath ·))

/-- The file that is named after two slashes. -/
def hostFile? (cs : List Char) : Option Address :=
  let host := unbroken (cs.takeWhile (!endsAuthority ·))
  let rest := cs.dropWhile (!endsAuthority ·)
  if isDrive host then some (localFile ['/'] cs)
  else if host.isEmpty then some (localFile ['/'] rest)
  else
    (HostName.ofDomain? host).map fun host =>
      if host.chars = "localhost".toList then localFile ['/'] rest
      else remoteFile host.chars rest

/-- The file that is named after the colon.  Tabs and line breaks are still there. -/
def file? (cs : List Char) : Option Address :=
  match cs.dropWhile isBreak with
  | [] => some (localFile ['/'] cs)
  | c :: rest =>
    if !isSlash c then some (localFile ['/'] cs)
    else
      match rest.dropWhile isBreak with
      | [] => some (localFile [] cs)
      | d :: more => if isSlash d then hostFile? more else some (localFile [] cs)

/-- The path after an authority that is not of the web: nothing, or walked from the
root. -/
def laterPath (cs : List Char) : List Char :=
  match cs with
  | [] => []
  | c :: _ => walkedPath (· = '/') (if c = '/' then [] else ['/']) cs

/-- An address of another scheme, given what follows the colon. -/
def foreign? (scheme cs : List Char) : Option Address :=
  match cs with
  | '/' :: '/' :: cs =>
    let front := cs.takeWhile fun c => !(c = '/' || endsPath c)
    let rest := cs.dropWhile fun c => !(c = '/' || endsPath c)
    (Authority.ofChars? HostName.ofOpaque? none rest.isEmpty front).map fun x =>
      complete scheme (some x.1.anonymous) false
        (laterPath (x.2 ++ rest.takeWhile (!endsPath ·))) (rest.dropWhile (!endsPath ·))
  | _ =>
    let front := cs.takeWhile (!endsPath ·)
    let path :=
      if front.head? = some '/' then walkedPath (· = '/') ['/'] (front.drop 1)
      else percentEncoded isUnwritable front
    some (complete scheme none false path (cs.dropWhile (!endsPath ·)))

/-- The number of the service that a scheme of the web means when none is named. -/
def defaultService? (scheme : List Char) : Option Nat :=
  let scheme := String.ofList scheme
  if scheme = "http" ∨ scheme = "ws" then some 80
  else if scheme = "https" ∨ scheme = "wss" then some 443
  else if scheme = "ftp" then some 21
  else none

/-- Whether a character at the ends of an address is dropped. -/
def isMargin (c : Char) : Bool :=
  c.toNat ≤ 0x20

/-- The address that a text gives, if it gives one. -/
def ofText? (s : String) : Option Address :=
  let cs := ((s.toList.dropWhile isMargin).reverse.dropWhile isMargin).reverse
  (scheme? (unbroken cs)).bind fun (scheme, rest) =>
    if scheme = "file".toList then file? ((cs.dropWhile (· ≠ ':')).drop 1)
    else
      match defaultService? scheme with
      | some number => hosted? scheme number rest
      | none => foreign? scheme rest

end Address

end ChatGateway
