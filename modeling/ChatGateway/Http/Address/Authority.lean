import ChatGateway.Http.HostName

/-!
# Authorities of addresses

After two slashes an address names a host.  A name and a password may stand in front
of it, and after a colon the number of the service on the host.

## Main definitions

* `Authority` — what is named.
* `Authority.ofChars?` — the authority that a text gives, and what it leaves over.
* `Authority.anonymous` — an authority without name and password.
-/

namespace ChatGateway

/-- What an address names before its path.  What is not named is empty. -/
structure Authority where
  user : List Char := []
  password : List Char := []
  host : List Char
  /-- The digits of the number of the service. -/
  service : List Char := []
  deriving DecidableEq, Repr

namespace Authority

/-- Whether a name or a password is given. -/
def hasCredentials (a : Authority) : Bool :=
  !(a.user.isEmpty && a.password.isEmpty)

/-- How an authority is written. -/
def chars (a : Authority) : List Char :=
  (if a.hasCredentials then
    a.user ++ (if a.password.isEmpty then [] else ':' :: a.password) ++ ['@']
  else [])
    ++ a.host ++ (if a.service.isEmpty then [] else ':' :: a.service)

/-- Whether bytes after percent signs make a text. -/
def isReadable (cs : List Char) : Bool :=
  (Utf8.decode? (percentDecoded cs)).isSome

/-- An authority without name and password.  They are kept when they cannot be read. -/
def anonymous (a : Authority) : Authority :=
  if isReadable a.user && (!a.user.isEmpty || isReadable a.password) then
    { a with user := [], password := [] }
  else a

/-- What stands before and from the colon after the host.  A colon in brackets belongs
to the host. -/
def splitHost (inside : Bool) : List Char → List Char × List Char
  | [] => ([], [])
  | c :: rest =>
    if c = ':' ∧ !inside then ([], c :: rest)
    else
      let (host, after) := splitHost (c = '[' || (inside && c ≠ ']')) rest
      (c :: host, after)

/-- The number of a service, nothing for the default one, and what it leaves over from
a backward slash on. -/
def service? (default : Option Nat) (cs : List Char) : Option (List Char × List Char) :=
  let ds := cs.takeWhile Char.isDigit
  let rest := cs.drop ds.length
  let n := digitsValue ds
  if 65536 ≤ n ∨ !(rest.isEmpty || rest.head? = some '\\') then none
  else some (if ds.isEmpty || default = some n then [] else decimalDigits n, rest)

/-- A host, and what is named around it.  Without a host nothing else is named. -/
def named? (host : Option HostName) (credentials after : List Char) (default : Option Nat) :
    Option (Authority × List Char) :=
  match host, service? default (after.drop 1) with
  | some host, some (number, rest) =>
    let a : Authority := {
      user := percentEncoded notInCredentials (credentials.takeWhile (· ≠ ':'))
      password :=
        percentEncoded notInCredentials ((credentials.dropWhile (· ≠ ':')).drop 1)
      host := host.chars
      service := number }
    if a.host.isEmpty && (a.hasCredentials || !after.isEmpty) then none else some (a, rest)
  | _, _ => none

/-- The authority that a text gives, and what it leaves over, by a way to read hosts.
Nothing may follow it that stands after nothing but an at sign. -/
def ofChars? (host? : List Char → Option HostName) (default : Option Nat) (isLast : Bool)
    (cs : List Char) : Option (Authority × List Char) :=
  let back := (cs.reverse.takeWhile (· ≠ '@')).reverse
  if cs = ['@'] ∧ !isLast then none
  else
    let (host, after) := splitHost false back
    named? (host? host) (cs.take (cs.length - back.length - 1)) after default

end Authority

end ChatGateway
