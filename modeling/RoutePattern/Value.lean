import RoutePattern.Number.Shortest
import RoutePattern.Text.Quoted

/-!
# Parameter values

The values that parameters take when a path is built, and that decoding gives when one is matched.
`Value.text` is the text that a value stands for in a path, and `Value.shown` the way it is written
inside another value. `Value.same` compares values, numbers by their size and not by their kind.
-/

namespace RoutePattern

/-- A parameter value. `record` stands for a structured value, which no key takes. -/
inductive Value where
  | text (text : String)
  | bool (value : Bool)
  | null
  | int (value : Int)
  | float (value : Binary64)
  | list (items : List Value)
  | tuple (items : List Value)
  | record
deriving Repr, Inhabited

namespace Value

/-- Whether a value is a text or a number. A truth value is neither. -/
def isScalar : Value → Bool
  | text _ | int _ | float _ => true
  | _ => false

/-- The elements of a list or tuple. -/
def elements? : Value → Option (List Value)
  | list items | tuple items => some items
  | _ => none

mutual

/-- A value as it is written inside another one. -/
def shown : Value → String
  | text s => quoted s
  | bool value => if value then "True" else "False"
  | null => "None"
  | int value => toString value
  | float value => value.text
  | list items => "[" ++ ", ".intercalate (shownAll items) ++ "]"
  | tuple items =>
      match shownAll items with
      | [item] => "(" ++ item ++ ",)"
      | all => "(" ++ ", ".intercalate all ++ ")"
  | record => "\x7b\x7d"

/-- The elements of a value as they are written. -/
def shownAll : List Value → List String
  | [] => []
  | item :: rest => shown item :: shownAll rest

end

/-- The text that a value stands for in a path. A double that is an integer has no fraction. -/
def toText : Value → String
  | text s => s
  | float value =>
      match value.toInt? with
      | some n => toString n
      | none => value.text
  | other => other.shown

/-- A value as a number: truth values count as zero and one. -/
def toNumber? : Value → Option (Int ⊕ Binary64)
  | bool value => some (.inl (if value then 1 else 0))
  | int value => some (.inl value)
  | float value => some (.inr value)
  | _ => none

/-- Whether two numbers are the same. -/
def sameNumber : Int ⊕ Binary64 → Int ⊕ Binary64 → Bool
  | .inl a, .inl b => a == b
  | .inr a, .inr b => a.same b
  | .inl a, .inr b => b.toInt? == some a
  | .inr a, .inl b => a.toInt? == some b

mutual

/-- Whether two values are the same. -/
def same : Value → Value → Bool
  | text a, text b => a == b
  | null, null => true
  | list a, list b => sameAll a b
  | tuple a, tuple b => sameAll a b
  | record, record => true
  | a, b =>
      match a.toNumber?, b.toNumber? with
      | some m, some n => sameNumber m n
      | _, _ => false

/-- Whether two lists of values are the same, element by element. -/
def sameAll : List Value → List Value → Bool
  | [], [] => true
  | a :: as, b :: bs => same a b && sameAll as bs
  | _, _ => false

end

end Value

end RoutePattern
