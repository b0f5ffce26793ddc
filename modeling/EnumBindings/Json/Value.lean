/-!
# Decoded documents

The values of a JSON document. Integers are exact; a number written with a fraction
or an exponent is kept apart from them, whatever its value.
-/

namespace EnumBindings

/-- A number that was not written as an integer. -/
inductive Decimal where
  /-- The number `digits * 10 ^ exponent`, negated if so marked. -/
  | finite (negative : Bool) (digits : Nat) (exponent : Int)
  | infinite (negative : Bool)
  | undefined

/-- A JSON value. The fields of an object keep the order of the document, repeated keys
included. -/
inductive Json where
  | null
  | bool (value : Bool)
  | int (value : Int)
  | decimal (value : Decimal)
  | text (value : String)
  | list (items : List Json)
  | object (fields : List (String × Json))

/-- Numbers that double precision rounds to zero. Half of the least positive double,
`2 ^ -1075`, is the greatest of them, since a tie goes to the even neighbour. More than
330 places beyond its own digits a number is far below that bound. -/
def Decimal.isZero : Decimal → Bool
  | .finite _ digits exponent =>
    let places := min (-exponent).toNat ((Nat.toDigits 10 digits).length + 330)
    decide (digits * Nat.pow 2 1075 ≤ Nat.pow 10 places)
  | .infinite _ => false
  | .undefined => false

/-- A value that counts as set: neither null, nor false, nor zero, nor empty. -/
def Json.isSet : Json → Bool
  | .null => false
  | .bool value => value
  | .int value => value != 0
  | .decimal value => !value.isZero
  | .text value => !value.isEmpty
  | .list items => !items.isEmpty
  | .object fields => !fields.isEmpty

/-- The value of a field. Of several fields with one key the last counts. -/
def fieldOf? (key : String) (fields : List (String × Json)) : Option Json :=
  fields.reverse.lookup key

/-- The value of the first key that is present. -/
def firstFieldOf? (keys : List String) (fields : List (String × Json)) : Option Json :=
  keys.findSome? (fieldOf? · fields)

end EnumBindings
