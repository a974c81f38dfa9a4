import Clausal.Json.Value
import Clausal.Text.Quoted

/-!
# Showing documents

A document inside a sentence or in a cell of a table. Inside lists and objects a text stands between
quotes; by itself it stands as it is.
-/

namespace Clausal.Json

mutual

/-- A document inside another one. -/
def display : Json → String
  | null => "None"
  | bool value => if value then "True" else "False"
  | number value => value.text
  | string value => Text.quoted value
  | array items => "[" ++ ", ".intercalate (displayItems items) ++ "]"
  | object fields => "\x7b" ++ ", ".intercalate (displayFields fields) ++ "\x7d"

/-- Documents inside a list. -/
def displayItems : List Json → List String
  | [] => []
  | item :: rest => display item :: displayItems rest

/-- Named documents inside an object. -/
def displayFields : List (String × Json) → List String
  | [] => []
  | (name, value) :: rest => (Text.quoted name ++ ": " ++ display value) :: displayFields rest

end

/-- A document by itself. -/
def shown : Json → String
  | string value => value
  | document => display document

/-- A document as a cell of a table, which is empty for nothing. -/
def cell : Json → String
  | null => ""
  | document => shown document

end Clausal.Json
