/-!
# Json

The tree of a JSON text. Numbers are kept as they are written, so that no digit and no sign is lost
between reading and writing, and the fields of an object keep their order.
-/

namespace SessionReplay

/-- A JSON value. -/
inductive Json where
  /-- The value `null`. -/
  | null
  /-- `true` or `false`. -/
  | bool (value : Bool)
  /-- A number, as it is written. -/
  | number (literal : List Char)
  /-- A string. -/
  | string (text : String)
  /-- An array. -/
  | array (items : List Json)
  /-- An object: its fields in order. -/
  | object (fields : List (String × Json))
deriving Inhabited

namespace Json

/-- The written form of an integer. -/
def integerLiteral (n : Int) : List Char :=
  if n < 0 then '-' :: Nat.toDigits 10 n.natAbs else Nat.toDigits 10 n.natAbs

/-- An integer. -/
def int (n : Int) : Json := .number (integerLiteral n)

/-- A natural number. -/
def nat (n : Nat) : Json := .int n

/-- A value or `null`. -/
def option {α : Type} (f : α → Json) : Option α → Json
  | none => .null
  | some a => f a

/-- The fields of an object, none for any other value. -/
def fields : Json → List (String × Json)
  | .object fs => fs
  | _ => []

/-- The items of an array, none for any other value. -/
def items : Json → List Json
  | .array xs => xs
  | _ => []

/-- The value of a field of an object; a missing field is `null`. -/
def get (j : Json) (key : String) : Json :=
  (j.fields.lookup key).getD .null

end Json

end SessionReplay
