import SessionReplay.Json.Basic
import SessionReplay.Number.Literal

/-!
# Looking into Json

The plain values that a JSON value may hold, and the fields of objects read as such. A field that is
missing or holds something else has a default: nothing, zero or empty unless another is asked for.
-/

namespace SessionReplay.Json

/-- The integer that a value is. -/
def int? : Json → Option Int
  | .number literal => some (DecimalLiteral.integer literal)
  | _ => none

/-- The natural number that a value is; a negative one counts as zero. -/
def nat? (j : Json) : Option Nat :=
  j.int?.map Int.toNat

/-- The text that a value is. -/
def string? : Json → Option String
  | .string text => some text
  | _ => none

/-- The truth value that a value is. -/
def bool? : Json → Option Bool
  | .bool b => some b
  | _ => none

/-- The number that a value is, with names for the values that are not finite. -/
def single? : Json → Option Single
  | .number literal => some (.ofLiteral literal)
  | .string "NaN" => some .nan
  | .string "inf" => some (.infinity false)
  | .string "-inf" => some (.infinity true)
  | _ => none

/-- A value other than `null`. -/
def present? : Json → Option Json
  | .null => none
  | j => some j

/-- An item of an array; an item that is missing is `null`. -/
def item (j : Json) (i : Nat) : Json :=
  (j.items[i]?).getD .null

/-- An integer item of an array. -/
def intAt (j : Json) (i : Nat) : Int := (j.item i).int?.getD 0

/-- A text item of an array. -/
def textAt (j : Json) (i : Nat) : String := (j.item i).string?.getD ""

/-- The natural numbers that the items of an array field are. -/
def getNats (j : Json) (key : String) : List Nat := (j.get key).items.map fun n => n.nat?.getD 0

/-- An integer field. -/
def getInt (j : Json) (key : String) (default : Int := 0) : Int := (j.get key).int?.getD default

/-- A natural number field. -/
def getNat (j : Json) (key : String) (default : Nat := 0) : Nat := (j.get key).nat?.getD default

/-- A text field. -/
def getString (j : Json) (key : String) (default : String := "") : String :=
  (j.get key).string?.getD default

/-- A truth value field. -/
def getBool (j : Json) (key : String) (default : Bool := false) : Bool := (j.get key).bool?.getD default

/-- A field with a number that need not be an integer. -/
def getSingle (j : Json) (key : String) (default : Single) : Single :=
  (j.get key).single?.getD default

/-- The items of an array field; any other field has none. -/
def getItems (j : Json) (key : String) : List Json := (j.get key).items

/-- A field other than `null`. -/
def get? (j : Json) (key : String) : Option Json := (j.get key).present?

/-- A value given by its name; a name that is not known stands for the first value. -/
def choose {α : Type} (j : Json) (first : α) (named : List (String × α)) : α :=
  (j.string?.bind (named.lookup ·)).getD first

end SessionReplay.Json
