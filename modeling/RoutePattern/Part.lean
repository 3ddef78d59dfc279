/-!
# Parts of a route pattern

A pattern that has been read is a list of parts: stretches of literal text and keys. A key stands
for a parameter. It has a name, text that goes with its value on either side, the expression its
value has to match, and a repetition mark.
-/

namespace RoutePattern

/-- The name of a key: an identifier, or the place of an unnamed group among the unnamed ones. -/
inductive KeyName where
  | named (name : String)
  | positional (index : Int)
deriving DecidableEq, Repr, Inhabited

/-- A name as it is shown inside other text. -/
def KeyName.text : KeyName → String
  | named name => name
  | positional index => toString index

/-- A parameter of a pattern. `before` and `after` surround each value, `pattern` is the expression
a value has to match, and `modifier` is the repetition mark. A key with an empty pattern captures
nothing: it is a group of literal text. -/
structure Key where
  name : KeyName
  before : String := ""
  after : String := ""
  pattern : String := ""
  modifier : String := ""
deriving DecidableEq, Repr, Inhabited

namespace Key

/-- Whether a value may be absent. -/
def optional (key : Key) : Bool :=
  key.modifier == "?" || key.modifier == "*"

/-- Whether there may be more than one value. -/
def repeated (key : Key) : Bool :=
  key.modifier == "*" || key.modifier == "+"

/-- Whether the key has an expression of its own and so takes a value. -/
def captures (key : Key) : Bool :=
  !key.pattern.isEmpty

end Key

/-- A part of a pattern: literal text, or a key. -/
inductive Part where
  | text (text : String)
  | key (key : Key)
deriving DecidableEq, Repr, Inhabited

end RoutePattern
