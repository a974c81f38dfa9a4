import Clausal.Named
import Clausal.Number

/-!
# Documents

The value type of saved documents: JSON with objects whose fields keep their order, and with whole
numbers kept apart from doubles. A field that is set again keeps its place, as does a field that a
text names twice; the last value counts.
-/

namespace Clausal

/-- A document. -/
inductive Json where
  /-- Nothing. -/
  | null
  /-- A truth value. -/
  | bool (value : Bool)
  /-- A number. -/
  | number (value : Number)
  /-- A text. -/
  | string (value : String)
  /-- A list of documents. -/
  | array (items : List Json)
  /-- Named documents in order. -/
  | object (fields : List (String × Json))

namespace Json

/-- The sorts of documents. -/
inductive Shape where
  /-- Nothing. -/
  | nothing
  /-- A truth value. -/
  | flag
  /-- A whole number. -/
  | whole
  /-- A double. -/
  | real
  /-- A text. -/
  | text
  /-- A list. -/
  | list
  /-- Named documents. -/
  | object
deriving DecidableEq

/-- The word for a sort of documents in messages. -/
def Shape.word : Shape → String
  | nothing => "NoneType"
  | flag => "bool"
  | whole => "int"
  | real => "float"
  | text => "str"
  | list => "list"
  | object => "dict"

/-- The sort of a document. -/
def shape : Json → Shape
  | null => .nothing
  | bool _ => .flag
  | number (.whole _) => .whole
  | number (.real _) => .real
  | string _ => .text
  | array _ => .list
  | object _ => .object

/-- The number of a document; truth values are zero and one. -/
def number? : Json → Option Number
  | bool value => some (.whole (if value then 1 else 0))
  | number value => some value
  | _ => none

/-- The fields of an object. -/
def fields? : Json → Option (List (String × Json))
  | object fields => some fields
  | _ => none

/-- The field of an object. -/
def get? (document : Json) (key : String) : Option Json :=
  document.fields?.bind (Named.lookup key)

/-- A whole number as a document. -/
def ofInt (value : Int) : Json :=
  number (.whole value)

/-- A double as a document. -/
def ofFloat (value : Float) : Json :=
  number (.real value)

/-- The document is not null, false, zero or empty. -/
def isTruthy : Json → Bool
  | null => false
  | bool value => value
  | number (.whole value) => value != 0
  | number (.real value) => value != 0.0
  | string value => !value.isEmpty
  | array items => !items.isEmpty
  | object fields => !fields.isEmpty

end Json

end Clausal
