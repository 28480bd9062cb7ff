import SchemaTypes.Table

/-!
# JSON values

* `Json.Number`: whole numbers that fit a machine word keep all their digits, others are doubles.
* `Json`: the values of a document. An object is a table, so its keys are in order and distinct.
-/

namespace SchemaTypes

/-- A number: a whole number or a finite double. -/
inductive Json.Number where
  | integer (value : Int)
  | double (value : Float)
deriving DecidableEq

/-- A value of a document. -/
inductive Json where
  | null
  | bool (value : Bool)
  | number (value : Json.Number)
  | string (value : Text)
  | array (items : List Json)
  | object (members : List (Text × Json))

namespace Json

/-- The text of a string. -/
def string? : Json → Option Text
  | string t => some t
  | _ => none

/-- Is the value a string? -/
def isString : Json → Bool
  | string _ => true
  | _ => false

/-- Is the value a number? -/
def isNumber : Json → Bool
  | number _ => true
  | _ => false

/-- Is the value a truth value? -/
def isBool : Json → Bool
  | bool _ => true
  | _ => false

/-- Is the value a list? -/
def isArray : Json → Bool
  | array _ => true
  | _ => false

end Json

end SchemaTypes
