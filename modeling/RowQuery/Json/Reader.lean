import RowQuery.Json.Token
/-!
# Reading JSON

Tokens are put together by a machine that holds the containers still open, the
innermost first, and what may come next. Where a token does not fit, the open
containers are closed around an `unreadable` and the rest of the text is left.

Containers may be nested 127 deep; one nested deeper is unreadable.
-/

namespace RowQuery.Json

/-- A container still open. Its contents stand latest first. -/
inductive Frame where
  | array (items : List Tree)
  /-- The key is the one whose value is due, or what was found in its place. -/
  | object (members : List (String × Tree)) (key : Option (Except Tree String))

/-- What may come next. -/
inductive Due where
  | value
  | valueOrEnd
  | key
  | keyOrEnd
  | colon
  | commaOrEnd

inductive State where
  | inside (stack : List Frame) (due : Due)
  | complete (t : Tree)
  | ended (r : Reading)

/-- The member of a key and its value. -/
def member (key : Except Tree String) (t : Tree) : String × Tree :=
  match key with
  | .ok k => (k, t)
  | .error found => ("", .unnamed found t.isSkippable)

/-- The container, closed after one more tree. -/
def Frame.closeWith (t : Tree) : Frame → Tree
  | array items => .array (t :: items).reverse
  | object members (some key) => .object (member key t :: members).reverse
  | object members none => .object (("", .unnamed t false) :: members).reverse

/-- The tree of a text that broke where `t` was found. -/
def abandon (stack : List Frame) (t : Tree) : Tree := stack.foldl (fun t f => f.closeWith t) t

/-- The state after a whole value. -/
def place (t : Tree) : List Frame → State
  | [] => .complete t
  | .array items :: rest => .inside (.array (t :: items) :: rest) .commaOrEnd
  | .object members (some key) :: rest =>
    .inside (.object (member key t :: members) none :: rest) .commaOrEnd
  | stack@(.object _ none :: _) => .ended ⟨abandon stack t, true⟩

/-- The deepest nesting of containers that can be read. -/
def maxDepth : Nat := 127

/-- The state after the end of the innermost container. -/
def close : List Frame → State
  | [] => .ended ⟨.unreadable false, true⟩
  | f :: rest =>
    let t := match f with
      | .array items => .array items.reverse
      | .object members _ => .object members.reverse
    place (if rest.length < maxDepth then t else .unreadable t.isSkippable) rest

/-- What a token shows of a tree in the place of a key. -/
def Token.sketch : Token → Tree
  | scalar t => t
  | openArray => .array []
  | openObject => .object []
  | _ => .unreadable false

/-- The state after a token that does not fit. -/
def fail (stack : List Frame) (due : Due) (token : Token) : State :=
  let found := match due with
    | .key | .keyOrEnd => token.sketch
    | _ => .unreadable false
  .ended ⟨abandon stack found, true⟩

/-- The key of a string. -/
def keyOf (s : Option String) : Except Tree String :=
  match s with
  | some s => .ok s
  | none => .error (.unreadable true)

/-- The state after one more token. -/
def step : State → Token → State
  | .ended r, _ => .ended r
  | .complete t, _ => .ended ⟨t, false⟩
  | .inside stack due, token =>
    match due, token, stack with
    | .value, .openArray, _ | .valueOrEnd, .openArray, _ => .inside (.array [] :: stack) .valueOrEnd
    | .value, .openObject, _ | .valueOrEnd, .openObject, _ =>
      .inside (.object [] none :: stack) .keyOrEnd
    | .value, .scalar t, _ | .valueOrEnd, .scalar t, _ => place t stack
    | .value, .string s, _ | .valueOrEnd, .string s, _ =>
      place ((s.map Tree.string).getD (.unreadable true)) stack
    | .valueOrEnd, .closeArray, _ => close stack
    | .key, .string s, .object members _ :: rest | .keyOrEnd, .string s, .object members _ :: rest =>
      .inside (.object members (some (keyOf s)) :: rest) .colon
    | .keyOrEnd, .closeObject, _ => close stack
    | .colon, .colon, _ => .inside stack .value
    | .commaOrEnd, .comma, .array _ :: _ => .inside stack .value
    | .commaOrEnd, .comma, .object _ _ :: _ => .inside stack .key
    | .commaOrEnd, .closeArray, .array _ :: _ => close stack
    | .commaOrEnd, .closeObject, .object _ _ :: _ => close stack
    | _, _, _ => fail stack due token

/-- The reading when no more tokens follow. -/
def State.finish : State → Reading
  | .complete t => ⟨t, true⟩
  | .ended r => r
  | .inside stack _ => ⟨abandon stack (.unreadable false), true⟩

/-- Reads a JSON text. -/
def read (s : String) : Reading :=
  ((tokens s.toList).foldl step (.inside [] .value)).finish

end RowQuery.Json
