import RestClient.Json.Value

/-!
# JSON texts

The compact text of a value: no white space, members in the order in which they are held, floats as
their shortest decimals, and strings with the fewest escapes.

## Main definitions

- `quoted` — a string with its quotes
- `renderDatum`, `Double.render` — a float, `null` where it is no number
- `Value.render` — a value
- `Value.sorted` — a value whose objects have their members in the order of their names
- `Value.document` — a document that a value is the value of
-/

namespace RestClient.Json

open Decimal
open Text (Octets)

/-- How a character stands in a string. -/
def escapeChar (c : Char) : List Char :=
  match c with
  | '"' => ['\\', '"']
  | '\\' => ['\\', '\\']
  | '\n' => ['\\', 'n']
  | '\r' => ['\\', 'r']
  | '\t' => ['\\', 't']
  | c =>
    if c.toNat = 0x08 then ['\\', 'b']
    else if c.toNat = 0x0c then ['\\', 'f']
    else if c.toNat < 0x20 then
      ['\\', 'u', '0', '0', Text.hexDigit (c.toNat / 16), Text.hexDigit (c.toNat % 16)]
    else [c]

/-- A string with its quotes. -/
def quoted (s : String) : String :=
  String.ofList ('"' :: s.toList.flatMap escapeChar ++ ['"'])

/-- The text of a datum; what is no number is `null`. -/
def renderDatum (n : Positional) : Datum → String
  | .finite negative mantissa exponent => n.render negative mantissa exponent
  | _ => "null"

/-- The text of a double. -/
def Double.render (x : Double) : String :=
  renderDatum .double x.datum

/-- The text of a number. -/
def Number.render : Number → String
  | .integer i => toString i
  | .real x => x.render

mutual

/-- The text of a value. -/
def Value.render : Value → String
  | .null => "null"
  | .bool true => "true"
  | .bool false => "false"
  | .number n => n.render
  | .string s => quoted s
  | .array items => "[" ++ ",".intercalate (Value.renderItems items) ++ "]"
  | .object members => "\x7b" ++ ",".intercalate (Value.renderMembers members) ++ "\x7d"

/-- The texts of the items of an array. -/
def Value.renderItems : List Value → List String
  | [] => []
  | v :: rest => v.render :: Value.renderItems rest

/-- The texts of the members of an object. -/
def Value.renderMembers : List (String × Value) → List String
  | [] => []
  | (name, v) :: rest => (quoted name ++ ":" ++ v.render) :: Value.renderMembers rest

end

/-- A member put where the order of names by code points wants it. -/
def insertSorted (name : String) (item : Value) :
    List (String × Value) → List (String × Value)
  | [] => [(name, item)]
  | (n, v) :: rest =>
    if name = n then (name, item) :: rest
    else if name < n then (name, item) :: (n, v) :: rest
    else (n, v) :: insertSorted name item rest

mutual

/-- The value with the members of every object in the order of their names. -/
def Value.sorted : Value → Value
  | .array items => .array (Value.sortedItems items)
  | .object members => .object (Value.sortedMembers members)
  | v => v

/-- The items of an array, each sorted. -/
def Value.sortedItems : List Value → List Value
  | [] => []
  | v :: rest => v.sorted :: Value.sortedItems rest

/-- The members of an object, each sorted, in the order of their names. -/
def Value.sortedMembers : List (String × Value) → List (String × Value)
  | [] => []
  | (name, v) :: rest => insertSorted name v.sorted (Value.sortedMembers rest)

end

/-! ### Documents -/

/-- The octets between the quotes of a string. -/
def rawText (s : String) : Octets :=
  Text.utf8 (s.toList.flatMap escapeChar)

/-- An integer as it is written. -/
def NumberText.ofInt (i : Int) : NumberText :=
  ⟨i < 0, (Nat.toDigits 10 i.natAbs).map fun c => c.toNat - 0x30, none, none⟩

mutual

/-- The document of a value. -/
def Value.document : Value → Document
  | .null => .null
  | .bool b => .bool b
  | .number (.integer i) => .number (.ofInt i)
  | .number (.real x) => .real x
  | .string s => .string (rawText s)
  | .array items => .array (Value.documents items)
  | .object members => .object (Value.documentMembers members)

/-- The documents of the items of an array. -/
def Value.documents : List Value → List Document
  | [] => []
  | v :: rest => v.document :: Value.documents rest

/-- The documents of the members of an object. -/
def Value.documentMembers : List (String × Value) → List (Octets × Document)
  | [] => []
  | (name, v) :: rest => (rawText name, v.document) :: Value.documentMembers rest

end

end RestClient.Json
