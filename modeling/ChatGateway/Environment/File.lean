import ChatGateway.Environment
import ChatGateway.Text.Classes

/-!
# Environment files

A file may set variables that have no value yet, one assignment to a line.  A
quoted value may go on over several lines, and a value may refer to variables by
a dollar sign.  Reading stops at the first line that is no assignment; what was
set before stays.

## Main definitions

* `Environment.assignments` — the lines of a file, joined where a quote is open.
* `Environment.assignment?` — the name and the value of a line.
* `Environment.load` — the environment after a file.
-/

namespace ChatGateway.Environment

/-! ## Lines -/

/-- Where a line stands between one character and the next. -/
inductive Place where
  | plain
  /-- After a blank. -/
  | blank
  | escape
  /-- Inside quotes of a kind. -/
  | within (quote : Char)
  /-- After a backslash inside quotes of a kind. -/
  | withinEscape (quote : Char)
  deriving DecidableEq, Repr

/-- The place after a character. -/
def Place.next (p : Place) (c : Char) : Place :=
  match p with
  | .escape => .plain
  | .withinEscape quote => .within quote
  | .within quote => if c = '\\' then .withinEscape quote else if c = quote then .plain else p
  | .plain | .blank =>
    if c = '\\' then .escape
    else if c = '"' ∨ c = '\'' then .within c
    else if p = .plain ∧ Text.isBlank c ∧ c ≠ '\n' ∧ c ≠ '\r' then .blank
    else .plain

/-- The place after a text, or what stands before a comment in it: a comment
begins with a number sign after a blank. -/
def scan (p : Place) : (text read : List Char) → Place ⊕ List Char
  | [], _ => .inl p
  | c :: rest, read =>
    if p = .blank ∧ c = '#' then .inr read.reverse else scan (p.next c) rest (c :: read)

/-- The lines of a text, each with the character that ends it. -/
def physicalLines : List Char → List (List Char)
  | [] => []
  | c :: rest =>
    if c = '\n' then [c] :: physicalLines rest
    else
      match physicalLines rest with
      | [] => [[c]]
      | l :: more => (c :: l) :: more

/-- A line without the characters that end it. -/
def unended (line : List Char) : List Char :=
  match line.reverse with
  | '\n' :: '\r' :: rest => rest.reverse
  | '\n' :: rest => rest.reverse
  | _ => line

/-- Whether a line is a comment. -/
def isComment (line : List Char) : Bool :=
  (line.dropWhile Text.isBlank).head? = some '#'

/-- Join lines until quotes, escapes and blanks at their ends are closed.  A line
that stays open to the end is a fault, and nothing follows it. -/
def joined (p : Place) (before : List Char) : List (List Char) → List (Option (List Char))
  | [] => if p = .plain then [] else [none]
  | line :: rest =>
    let all := before ++ line
    if isComment all then some [] :: joined .plain [] rest
    else
      match scan p line [] with
      | .inr read => some (before ++ read) :: joined .plain [] rest
      | .inl .plain => some (unended all) :: joined .plain [] rest
      | .inl p => joined p all rest

/-! ## Values -/

/-- What a dollar sign has begun. -/
inductive Reference where
  | absent
  /-- A name that ends where no letter or digit follows. -/
  | bare
  /-- A name in braces. -/
  | braced
  deriving DecidableEq, Repr

/-- A value as far as it has been read. -/
structure Reading where
  output : List Char := []
  escaped : Bool := false
  strong : Bool := false
  weak : Bool := false
  /-- Only blanks and a comment may follow. -/
  ending : Bool := false
  reference : Reference := .absent
  name : List Char := []

/-- Put the value of a name behind the output: that of the variable, or else that
of an earlier line. -/
def Reading.refer (env : Environment) (earlier : Dict String) (r : Reading) : Reading :=
  let name := String.ofList r.name
  let value := (env.get? name <|> earlier.get? name).getD ""
  { r with output := r.output ++ value.toList, name := [], reference := .absent }

/-- Read a value to its end. -/
def readValue (env : Environment) (earlier : Dict String) (r : Reading) :
    List Char → Option String
  | [] =>
    if r.reference = .braced ∨ r.strong ∨ r.weak then none
    else some (String.ofList (r.refer env earlier).output)
  | c :: rest =>
    let go := fun r => readValue env earlier r rest
    let put := fun (r : Reading) => { r with output := r.output ++ [c] }
    if r.ending then
      if c = ' ' ∨ c = '\t' then go r
      else if c = '#' then some (String.ofList (r.refer env earlier).output)
      else none
    else if r.escaped then
      if ['\\', '\'', '"', '$', ' '].contains c then go { put r with escaped := false }
      else if c = 'n' then go { r with output := r.output ++ ['\n'], escaped := false }
      else none
    else if r.strong then
      if c = '\'' then go { r with strong := false } else go (put r)
    else if r.reference ≠ .absent ∧ Text.isAlphanumeric c then go { r with name := r.name ++ [c] }
    else if r.reference = .bare ∧ c = '\x7b' ∧ r.name = [] then go { r with reference := .braced }
    else if r.reference = .bare then
      let r := r.refer env earlier
      if c = '$' then go { r with reference := .bare } else go (put r)
    else if r.reference = .braced then
      if c = '\x7d' then go (r.refer env earlier) else go { r with name := r.name ++ [c] }
    else if c = '$' then go { r with reference := .bare }
    else if r.weak then
      if c = '"' then go { r with weak := false }
      else if c = '\\' then go { r with escaped := true }
      else go (put r)
    else if c = '\'' then go { r with strong := true }
    else if c = '"' then go { r with weak := true }
    else if c = '\\' then go { r with escaped := true }
    else if c = ' ' ∨ c = '\t' then go { r with ending := true }
    else go (put r)

/-! ## Assignments -/

/-- A name and what follows it. -/
def name? (cs : List Char) : Option (String × List Char) :=
  let isNameChar := fun (c : Char) => c.isAlphanum || c = '_' || c = '.'
  match cs with
  | [] => none
  | c :: _ =>
    if c.isAlpha || c = '_' then
      some (String.ofList (cs.takeWhile isNameChar), cs.dropWhile isNameChar)
    else none

/-- What follows an equals sign. -/
def afterEquals? (cs : List Char) : Option (List Char) :=
  match cs.dropWhile Text.isBlank with
  | '=' :: rest => some (rest.dropWhile Text.isBlank)
  | _ => none

/-- The name and the text of the value of a line.  The word `export` may stand in
front, and may itself be the name. -/
def target? (cs : List Char) : Option (String × List Char) :=
  (name? cs).bind fun (name, rest) =>
    match afterEquals? rest with
    | some value => some (name, value)
    | none =>
      if name = "export" then
        (name? (rest.dropWhile Text.isBlank)).bind fun (name, rest) =>
          (afterEquals? rest).map fun value => (name, value)
      else none

/-- What a line says. -/
inductive Line where
  | empty
  | assignment (name value : String)
  | fault

/-- Read a line. -/
def Line.read (env : Environment) (earlier : Dict String) (line : List Char) : Line :=
  let cs := (line.reverse.dropWhile Text.isBlank).reverse.dropWhile Text.isBlank
  match cs with
  | [] => .empty
  | '#' :: _ => .empty
  | _ =>
    match target? cs with
    | none => .fault
    | some (name, value) =>
      if value = [] ∨ value.head? = some '#' then .assignment name ""
      else
        match readValue env earlier {} value with
        | some s => .assignment name s
        | none => .fault

/-- Carry out lines until one is a fault. -/
def carryOut (env : Environment) (earlier : Dict String) : List (Option (List Char)) → Environment
  | [] => env
  | none :: _ => env
  | some line :: rest =>
    match Line.read env earlier line with
    | .empty => carryOut env earlier rest
    | .fault => env
    | .assignment name value => carryOut (env.setNew name value) (earlier.insert name value) rest

/-- The environment after a file.  A mark of the byte order at the beginning is
no part of it. -/
def load (env : Environment) (content : String) : Environment :=
  let cs := match content.toList with
    | [] => []
    | c :: rest => if c.toNat = 0xFEFF then rest else c :: rest
  carryOut env .empty (joined .plain [] (physicalLines cs))

end ChatGateway.Environment
