import CanController.Register.Field

/-!
A layout names the fields of one kind of register word, highest bits first.  It is what a word can
be read through: every field has a reading, and the word has a one-line description that lists
all of them.
-/

namespace CanController

/-- The contents of a field: a field of one bit is a flag, any other a number. -/
inductive Reading
  | flag (isSet : Bool)
  | number (value : Nat)
deriving DecidableEq

namespace Reading

def toNat : Reading → Nat
  | flag isSet => isSet.toNat
  | number value => value

def text : Reading → String
  | flag isSet => toString isSet
  | number value => toString value

end Reading

def Field.reading (field : Field) (word : Word) : Reading :=
  if field.width = 1 then .flag (field.test word) else .number (field.get word)

structure Layout where
  name : String
  fields : List Field
deriving DecidableEq

namespace Layout

def plain : Layout :=
  ⟨"Word", []⟩

def field? (layout : Layout) (name : String) : Option Field :=
  layout.fields.find? (·.name == name)

/-- Every field's name and reading, in the layout's order. -/
def readings (layout : Layout) (word : Word) : List (String × Reading) :=
  layout.fields.map fun field => (field.name, field.reading word)

/-- The whole word in decimal, then every field. -/
def describe (layout : Layout) (word : Word) : String :=
  let shown := layout.readings word |>.map fun (name, reading) => name ++ ": " ++ reading.text
  layout.name ++ " \x7b " ++ ", ".intercalate ((".0: " ++ toString word.toNat) :: shown) ++ " \x7d"

end Layout

end CanController
