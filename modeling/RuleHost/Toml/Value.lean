/-! The values of a TOML document. A document itself is a table. -/

namespace RuleHost.Toml

inductive Value where
  | string (text : String)
  | integer (number : Int)
  /-- A number with a fraction or an exponent, or an infinity, or no number, as it was written. -/
  | float (text : String)
  | bool (value : Bool)
  /-- A date, a time of day or both, as it was written. -/
  | datetime (text : String)
  | array (items : List Value)
  | table (entries : List (String × Value))

def find? (key : String) (entries : List (String × Value)) : Option Value :=
  (entries.find? fun entry => entry.1 == key).map Prod.snd

end RuleHost.Toml
