import TagRules.Json.Token

/-!
# Reading JSON texts

The tokens of a text are read one after the other. The state is a stack of open lists and objects
and what may come next.

* `Json.read?`: the value of a text. Of the fields with one key the last counts, and at most
  `Json.maxDepth` lists and objects may be open at a time.
-/

namespace TagRules.Json

/-- How many lists and objects may be open at a time. -/
def maxDepth : Nat := 127

/-- A list or an object that is not yet complete. -/
inductive Open where
  /-- A list with its items so far, in reverse order. -/
  | list (items : List Json)
  /-- An object with its fields so far. -/
  | object (fields : List (String × Json))
  /-- An object with its fields so far and the key of the next one. -/
  | field (fields : List (String × Json)) (key : String)

/-- What may come next. -/
inductive Expect where
  /-- A value. -/
  | value
  /-- A value, or the end of a list that has none yet. -/
  | valueOrEnd
  /-- A key. -/
  | key
  /-- A key, or the end of an object that has none yet. -/
  | keyOrEnd
  /-- The colon after a key. -/
  | colon (key : String)
  /-- A comma, or the end of a list or an object. -/
  | separator
  /-- Nothing: the text is complete. -/
  | finished (j : Json)

/-- Puts a complete value into the innermost open list or object. -/
def put? (j : Json) : List Open → Option (List Open × Expect)
  | [] => some ([], .finished j)
  | .list items :: rest => some (.list (j :: items) :: rest, .separator)
  | .field fields key :: rest => some (.object (Assoc.insert key j fields) :: rest, .separator)
  | .object _ :: _ => none

/-- Begins a list or an object. -/
def enter? (o : Open) (stack : List Open) (expect : Expect) : Option (List Open × Expect) :=
  if stack.length < maxDepth then some (o :: stack, expect) else none

/-- Reads the first token of a value. -/
def beginValue? (stack : List Open) : Token → Option (List Open × Expect)
  | .mark '[' => enter? (.list []) stack .valueOrEnd
  | .mark '\x7b' => enter? (.object []) stack .keyOrEnd
  | .mark _ => none
  | .string s => put? (.string s) stack
  | .scalar j => put? j stack

/-- Reads one token. -/
def step? (state : List Open × Expect) (t : Token) : Option (List Open × Expect) :=
  match state, t with
  | (.list items :: rest, .valueOrEnd), .mark ']' => put? (.array items.reverse) rest
  | (stack, .value), t | (stack, .valueOrEnd), t => beginValue? stack t
  | (.object fields :: rest, .keyOrEnd), .mark '\x7d' => put? (.object fields) rest
  | (stack, .key), .string k | (stack, .keyOrEnd), .string k => some (stack, .colon k)
  | (.object fields :: rest, .colon k), .mark ':' => some (.field fields k :: rest, .value)
  | (.list items :: rest, .separator), .mark ',' => some (.list items :: rest, .value)
  | (.list items :: rest, .separator), .mark ']' => put? (.array items.reverse) rest
  | (.object fields :: rest, .separator), .mark ',' => some (.object fields :: rest, .key)
  | (.object fields :: rest, .separator), .mark '\x7d' => put? (.object fields) rest
  | _, _ => none

/-- The value of a text, if the text is JSON. -/
def read? (s : String) : Option Json := do
  let tokens ← Token.scan? s
  match ← tokens.foldlM step? ([], .value) with
  | (_, .finished j) => return j
  | _ => none

end TagRules.Json
