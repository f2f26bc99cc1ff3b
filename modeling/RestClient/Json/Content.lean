import RestClient.Json.Printer

/-!
# Contents

What a value of some type says when it is written: the same shapes as in a JSON value, with numbers
of every width, and keys that need not be texts. It is written directly, member by member in its
own order, or by way of a JSON value, which sorts members and has numbers of 64 bits only.

## Main definitions

- `Content` — what is written, with `Content.ofValue`
- `Content.asText`, `Content.asOctets`, `Content.ofOctets` — texts and octets
- `Content.render?` — the text of a content
- `Content.value?` — the JSON value of a content
-/

namespace RestClient.Json

open Decimal
open Text (Octets)

/-- The key of a member: a text, an integer that is written as a text, or something that is not
written as one. -/
inductive Key where
  | text (s : String)
  | integer (i : Int)
  | compound
  deriving DecidableEq, Repr

/-- The text of a key. -/
def Key.text? : Key → Option String
  | text s => some s
  | integer i => some (toString i)
  | compound => none

/-- The order in which a map has its keys. -/
def Key.before : Key → Key → Bool
  | text a, text b => a < b
  | integer a, integer b => a < b
  | _, _ => false

/-- What a value says when it is written. -/
inductive Content where
  | null
  | bool (value : Bool)
  | integer (i : Int)
  | double (x : Double)
  | single (x : Single)
  | text (s : String)
  | list (items : List Content)
  | members (entries : List (Key × Content))
  deriving Repr

namespace Content

mutual

/-- The content of a JSON value. -/
def ofValue : Value → Content
  | .null => .null
  | .bool b => .bool b
  | .number (.integer i) => .integer i
  | .number (.real x) => .double x
  | .string s => .text s
  | .array items => .list (ofItems items)
  | .object entries => .members (ofMembers entries)

/-- The contents of the items of an array. -/
def ofItems : List Value → List Content
  | [] => []
  | v :: rest => ofValue v :: ofItems rest

/-- The contents of the members of an object. -/
def ofMembers : List (String × Value) → List (Key × Content)
  | [] => []
  | (name, v) :: rest => (.text name, ofValue v) :: ofMembers rest

end

/-- The text of a content that is a text. -/
def asText : Content → String
  | .text s => s
  | _ => ""

/-- The octets of a content that is a list of small integers. -/
def asOctets : Content → Octets
  | .list items => items.filterMap fun
    | .integer i => some (UInt8.ofNat i.toNat)
    | _ => none
  | _ => []

/-- Octets as a list of integers. -/
def ofOctets (octets : Octets) : Content :=
  .list (octets.map fun b => .integer b.toNat)

/-! ### Direct texts -/

mutual

/-- The text of a content; there is none where a key is no text. -/
def render? : Content → Option String
  | null => some "null"
  | bool b => some (if b then "true" else "false")
  | integer i => some (toString i)
  | double x => some (renderDatum .double x.datum)
  | single x => some (renderDatum .single x.datum)
  | text s => some (quoted s)
  | list items => (renderItems? items).map fun texts => "[" ++ ",".intercalate texts ++ "]"
  | members entries =>
    (renderMembers? entries).map fun texts => "\x7b" ++ ",".intercalate texts ++ "\x7d"

/-- The texts of items. -/
def renderItems? : List Content → Option (List String)
  | [] => some []
  | c :: rest =>
    match render? c, renderItems? rest with
    | some item, some items => some (item :: items)
    | _, _ => none

/-- The texts of members. -/
def renderMembers? : List (Key × Content) → Option (List String)
  | [] => some []
  | (key, c) :: rest =>
    match key.text?, render? c, renderMembers? rest with
    | some name, some item, some items => some ((quoted name ++ ":" ++ item) :: items)
    | _, _, _ => none

end

/-! ### Values -/

/-- The value of a double; what is no finite number is null. -/
def ofDouble (x : Double) : Value :=
  match x.datum with
  | .finite .. => .number (.real x)
  | _ => .null

mutual

/-- The JSON value of a content. -/
def value? : Content → Option Value
  | null => some .null
  | bool b => some (.bool b)
  | integer i =>
    if -(Nat.pow 2 63 : Int) ≤ i ∧ i < Nat.pow 2 64 then some (.number (.integer i)) else none
  | double x => some (ofDouble x)
  | single x => some (ofDouble x.widen)
  | text s => some (.string s)
  | list items => (itemValues? items).map .array
  | members entries => (memberValues? entries).map .object

/-- The values of items. -/
def itemValues? : List Content → Option (List Value)
  | [] => some []
  | c :: rest =>
    match value? c, itemValues? rest with
    | some v, some vs => some (v :: vs)
    | _, _ => none

/-- The values of members, in the order of their names. -/
def memberValues? : List (Key × Content) → Option (List (String × Value))
  | [] => some []
  | (key, c) :: rest =>
    match key.text?, value? c, memberValues? rest with
    | some name, some v, some vs => some (insertSorted name v vs)
    | _, _, _ => none

end

end Content

end RestClient.Json
