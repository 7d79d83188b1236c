import LogTable.Number.Binary64

/-!
# Values of a TOML document

A table keeps its entries in the order in which they came into being, and no two of them have the same key.
Of a date or a time only its presence is kept.
-/
namespace LogTable.Toml

inductive Value
  | string (s : String)
  | integer (n : Int)
  | float (x : Number.Binary64)
  | boolean (b : Bool)
  | datetime
  | array (items : List Value)
  | table (entries : List (String × Value))
  deriving Repr

/-- Why a text is not a TOML document. -/
inductive Fault
  | badKey | badValue | badNumber | badString | badDate
  | unclosed
  /-- Something stands behind a value or a header on the same line. -/
  | trailing
  | duplicateKey
  | tooDeep
  deriving DecidableEq, Repr

def Fault.message : Fault → String
  | .badKey => "malformed key"
  | .badValue => "malformed value"
  | .badNumber => "malformed number"
  | .badString => "malformed string"
  | .badDate => "malformed date or time"
  | .unclosed => "unclosed bracket or quote"
  | .trailing => "unexpected text at the end of the line"
  | .duplicateKey => "duplicate key"
  | .tooDeep => "the document is nested too deeply"

end LogTable.Toml
