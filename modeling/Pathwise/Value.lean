import Pathwise.Text.Quoted

/-!
# Values

An argument may be any value of a data format, though only a text can be a path. Where a value is
refused, the message shows it in the written form defined here.
-/

namespace Pathwise

/-- A value as a caller may pass it. A number with a fraction or an exponent is kept as written. -/
inductive Value where
  | null
  | boolean (value : Bool)
  | integer (value : Int)
  | real (literal : Text)
  | text (value : Text)
  | list (items : List Value)
  | record (fields : List (Text × Value))
  deriving Inhabited

namespace Value

def text? : Value → Option Text
  | text value => some value
  | _ => none

@[simp] theorem text?_eq_some_iff {value : Value} {t : Text} :
    value.text? = some t ↔ value = .text t := by
  cases value <;> simp [text?]

/-- The pieces of an enumeration, with a comma and a space between them. -/
def enumerated (pieces : List Text) : Text :=
  List.intercalate ", ".toList pieces

mutual

/-- The written form of a value. -/
def written : Value → Text
  | null => "None".toList
  | boolean true => "True".toList
  | boolean false => "False".toList
  | integer value => (toString value).toList
  | real literal => literal
  | text value => value.quoted
  | list items => '[' :: enumerated (writtenItems items) ++ [']']
  | record fields => '{' :: enumerated (writtenFields fields) ++ ['}']

def writtenItems : List Value → List Text
  | [] => []
  | item :: rest => item.written :: writtenItems rest

def writtenFields : List (Text × Value) → List Text
  | [] => []
  | (key, value) :: rest => (key.quoted ++ ": ".toList ++ value.written) :: writtenFields rest

end

end Value

end Pathwise
