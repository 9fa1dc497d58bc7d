import FormLease.Binary64

/-!
# Document values

What a document of keys and values in TOML holds: scalars, arrays and
tables. Dates and times are kept as their normal text.
-/

namespace FormLease.Toml

inductive Value where
  | text (s : String)
  | integer (n : Int)
  | float (x : Binary64)
  | boolean (b : Bool)
  | dateTime (normal : String)
  | array (items : List Value)
  | table (entries : List (String × Value))

instance : Inhabited Value := ⟨.boolean false⟩

end FormLease.Toml
