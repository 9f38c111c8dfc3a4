import ChatGateway.Json.Token
import ChatGateway.Json.Value

/-!
# Drafts: JSON texts that may break off

A draft is what a text says up to the place where it leaves the grammar.  Every
text has one.  A container that the text does not close is marked as open, and
where a value should begin and none does, the draft is `broken`.  A typed reader
walks a draft from left to right, so it meets the faults of the text and the
faults of its values in the order in which they are written.

Members are pairs of drafts: what stands where a name must, and what stands
where its value must.

## Main definitions

* `Draft` — the tree.
* `Draft.ofText` — the draft of a text, and whether nothing follows it.
* `Draft.isWhole` — nothing in the draft is broken off.
* `Draft.json?` — the value of a whole draft whose strings can be read.
-/

namespace ChatGateway

/-- A JSON text as far as it follows the grammar. -/
inductive Draft where
  | null
  | bool (b : Bool)
  | number (n : Numeral)
  /-- A string, or `none` for one that names half a surrogate pair. -/
  | text (s : Option String)
  | array (items : List Draft) (closed : Bool)
  | object (members : List (Draft × Draft)) (closed : Bool)
  /-- No value begins here. -/
  | broken
  deriving Inhabited

namespace Draft

/-! ## Building -/

/-- A container that is being read.  What it holds so far is kept last first. -/
inductive Frame where
  | array (done : List Draft)
  /-- The name is there while its value is being read. -/
  | object (done : List (Draft × Draft)) (name : Option Draft)

/-- What may come next. -/
inductive Expected where
  /-- A value. -/
  | value
  /-- The first item of an array, or its end. -/
  | firstItem
  /-- The first name of an object, or its end. -/
  | firstName
  /-- A further name of an object. -/
  | name
  /-- The colon between a name and its value. -/
  | colon
  /-- A comma, or the end of the container. -/
  | separator
  deriving DecidableEq, Repr

/-- A container as it stands when the text breaks off inside it. -/
def Frame.cut : Frame → Draft
  | .array done => .array done.reverse false
  | .object done none => .object done.reverse false
  | .object done (some name) => .object ((name, .broken) :: done).reverse false

/-- A container around a draft that breaks off. -/
def Frame.around (d : Draft) : Frame → Draft
  | .array done => .array (d :: done).reverse false
  | .object done none => .object ((d, .broken) :: done).reverse false
  | .object done (some name) => .object ((name, d) :: done).reverse false

/-- The draft of a text that breaks off inside these containers, innermost
first. -/
def interrupted : List Frame → Draft
  | [] => .broken
  | f :: outer => outer.foldl (fun d f => f.around d) f.cut

/-- What one token leads to. -/
inductive Step where
  | next (expected : Expected) (frames : List Frame)
  | done (d : Draft)
  | stop (d : Draft)

/-- Hand a complete value to the container around it. -/
def deliver (d : Draft) : List Frame → Step
  | [] => .done d
  | .array items :: outer => .next .separator (.array (d :: items) :: outer)
  | .object members (some name) :: outer =>
    .next .separator (.object ((name, d) :: members) none :: outer)
  | .object members none :: outer => .stop (interrupted (.object members none :: outer))

/-- The draft of a token on its own. -/
def ofToken : Token → Draft
  | .null => .null
  | .bool b => .bool b
  | .number n => .number n
  | .text s => .text s
  | .openBracket => .array [] false
  | .openBrace => .object [] false
  | .closeBracket | .closeBrace | .comma | .colon | .junk => .broken

/-- A token where a value begins. -/
def beginValue (frames : List Frame) : Token → Step
  | .openBracket => .next .firstItem (.array [] :: frames)
  | .openBrace => .next .firstName (.object [] none :: frames)
  | .null => deliver .null frames
  | .bool b => deliver (.bool b) frames
  | .number n => deliver (.number n) frames
  | .text s => deliver (.text s) frames
  | .closeBracket | .closeBrace | .comma | .colon | .junk => .stop (interrupted frames)

/-- A token where a name must stand. -/
def beginName (frames : List Frame) (t : Token) : Step :=
  match frames, t with
  | .object members _ :: outer, .text s =>
    .next .colon (.object members (some (.text s)) :: outer)
  | .object members _ :: outer, t =>
    .stop (interrupted (.object members (some (ofToken t)) :: outer))
  | frames, _ => .stop (interrupted frames)

/-- One token. -/
def step (expected : Expected) (frames : List Frame) (t : Token) : Step :=
  match expected, frames, t with
  | .separator, .array _ :: _, .comma => .next .value frames
  | .separator, .object _ _ :: _, .comma => .next .name frames
  | .separator, .array items :: outer, .closeBracket =>
    deliver (.array items.reverse true) outer
  | .separator, .object members _ :: outer, .closeBrace =>
    deliver (.object members.reverse true) outer
  | .firstItem, .array items :: outer, .closeBracket =>
    deliver (.array items.reverse true) outer
  | .firstName, .object members _ :: outer, .closeBrace =>
    deliver (.object members.reverse true) outer
  | .colon, frames, .colon => .next .value frames
  | .value, frames, t => beginValue frames t
  | .firstItem, frames, t => beginValue frames t
  | .firstName, frames, t => beginName frames t
  | .name, frames, t => beginName frames t
  | _, frames, _ => .stop (interrupted frames)

/-- Read tokens until a value is complete or the text breaks off; the tokens
after the value are left. -/
def build (expected : Expected) (frames : List Frame) : List Token → Draft × Option (List Token)
  | [] => (interrupted frames, none)
  | t :: rest =>
    match step expected frames t with
    | .next expected frames => build expected frames rest
    | .done d => (d, some rest)
    | .stop d => (d, none)

/-- The draft of a row of tokens, and whether the tokens are one value and
nothing else. -/
def ofTokens (ts : List Token) : Draft × Bool :=
  let (d, rest) := build .value [] ts
  (d, rest == some [])

/-- The draft of a text, and whether the text is one value and nothing else. -/
def ofText (s : String) : Draft × Bool :=
  ofTokens (tokens s.toList)

/-! ## Whole drafts -/

/-- Whether a draft is a string, whatever it names. -/
def isText : Draft → Bool
  | .text _ => true
  | _ => false

mutual

/-- Whether nothing in a draft is broken off.  Strings need not be readable, and
numbers may be of any size. -/
def isWhole : Draft → Bool
  | .array items closed => areWhole items && closed
  | .object members closed => pairsWhole members && closed
  | .broken => false
  | _ => true

/-- Whether all items are whole. -/
def areWhole : List Draft → Bool
  | [] => true
  | d :: rest => isWhole d && areWhole rest

/-- Whether all members are whole and named by strings. -/
def pairsWhole : List (Draft × Draft) → Bool
  | [] => true
  | (k, v) :: rest => isText k && isWhole v && pairsWhole rest

end

mutual

/-- The value of a whole draft, if its strings can be read. -/
def json? : Draft → Option Json
  | .null => some .null
  | .bool b => some (.bool b)
  | .number n => some (.number n)
  | .text s => s.map .string
  | .array items closed => if closed then (jsons? items).map .array else none
  | .object members closed => if closed then (jsonMembers? members).map .object else none
  | .broken => none

/-- The values of items. -/
def jsons? : List Draft → Option (List Json)
  | [] => some []
  | d :: rest =>
    match json? d, jsons? rest with
    | some j, some js => some (j :: js)
    | _, _ => none

/-- The names and values of members. -/
def jsonMembers? : List (Draft × Draft) → Option (List (String × Json))
  | [] => some []
  | (.text (some k), v) :: rest =>
    match json? v, jsonMembers? rest with
    | some j, some ms => some ((k, j) :: ms)
    | _, _ => none
  | _ => none

end

mutual

/-- The draft of a value. -/
def ofJson : Json → Draft
  | .null => .null
  | .bool b => .bool b
  | .number n => .number n
  | .string s => .text (some s)
  | .array items => .array (ofJsons items) true
  | .object members => .object (ofMembers members) true

/-- The drafts of items. -/
def ofJsons : List Json → List Draft
  | [] => []
  | j :: rest => ofJson j :: ofJsons rest

/-- The drafts of members. -/
def ofMembers : List (String × Json) → List (Draft × Draft)
  | [] => []
  | (k, j) :: rest => (.text (some k), ofJson j) :: ofMembers rest

end

end Draft

/-- The value of a text, if the text is one readable value and nothing else. -/
def Json.ofText? (s : String) : Option Json :=
  let (d, alone) := Draft.ofText s
  if alone then d.json? else none

end ChatGateway
