import RestClient.Json.Content

/-!
# Schemas

What documents a type is read from. A record is read from an object, whose unknown members are
passed over, or from an array with its fields in order. A choice is read from the name of a variant,
or from an object with that name alone and what the variant holds.

## Main definitions

- `Schema`, `Definition` — types, and the types that have names
- `Schema.read?`, `Schema.ofValue?` — the content of a text or of a value as a value of a type
-/

namespace RestClient.Json

open Text (Octets)
open Decimal

/-- What the keys of a map are: texts, integers in a range, or something that no text is. -/
inductive KeySchema where
  | text
  | integer (least greatest : Int)
  | compound
  deriving DecidableEq, Repr

/-- A type. `integer` has at most 64 bits, `wide` has 128. -/
inductive Schema where
  | any
  | unit
  | boolean
  | character
  | text
  | integer (least greatest : Int)
  | wide (least greatest : Int)
  | double
  | single
  | optional (s : Schema)
  | list (s : Schema)
  | tuple (items : List Schema)
  | map (key : KeySchema) (s : Schema)
  | named (name : String)

/-- A field of a record. `skipped` says that an empty list stands for a missing field, and is not
written. -/
structure Field where
  name : String
  schema : Schema
  skipped : Bool

/-- What a name stands for: a record, or a choice between variants that may hold something. -/
inductive Definition where
  | record (fields : List Field)
  | choice (variants : List (String × Option Schema))

/-- Types with names. -/
abbrev Definitions := List (String × Definition)

/-- What reads the parts of a document. -/
abbrev PartReader := Schema → Document → Option Content

/-! ### Numbers -/

/-- The single-precision number nearest to a number. -/
def Number.toSingle : Number → Single
  | .integer i =>
    let magnitude := Layout.single.nearest i.natAbs 1
    ⟨UInt32.ofNat (magnitude + if i < 0 then Layout.single.signBit else 0)⟩
  | .real x =>
    match x.datum with
    | .finite negative mantissa exponent =>
      let magnitude :=
        if 0 ≤ exponent then Layout.single.nearest (mantissa * Nat.pow 2 exponent.toNat) 1
        else Layout.single.nearest mantissa (Nat.pow 2 (-exponent).toNat)
      ⟨UInt32.ofNat (magnitude + if negative then Layout.single.signBit else 0)⟩
    | .infinite negative =>
      ⟨UInt32.ofNat (Layout.single.infinity + if negative then Layout.single.signBit else 0)⟩
    | .nan => ⟨UInt32.ofNat (Layout.single.infinity + 1)⟩

/-- The double nearest to a number. -/
def Number.toDouble : Number → Double
  | .integer i => .ofInt i
  | .real x => x

/-- An integer in a range. -/
def inRange (least greatest i : Int) : Option Int :=
  if least ≤ i ∧ i ≤ greatest then some i else none

/-- A number as an integer in a range. -/
def Number.integer? (least greatest : Int) : Number → Option Int
  | .integer i => inRange least greatest i
  | .real _ => none

/-- A number as an integer of any width. It has no sign where there are no negative numbers. -/
def NumberText.wide? (least greatest : Int) (n : NumberText) : Option Int :=
  if n.fraction.isSome || n.exponent.isSome || (n.negative && 0 ≤ least) then none
  else
    let magnitude : Int := digitsValue n.whole
    inRange least greatest (if n.negative then -magnitude else magnitude)

/-! ### Maps -/

/-- The key that a raw text is read as. -/
def KeySchema.read? (k : KeySchema) (raw : Octets) : Option Key :=
  match k with
  | text => (stringText? raw).map .text
  | integer least greatest =>
    match readNumber raw with
    | some (n, []) => ((n.number?).bind (Number.integer? least greatest)).map .integer
    | _ => none
  | compound => none

/-- A member put where the order of keys wants it, in the place of one with its key. -/
def insertEntry (key : Key) (c : Content) : List (Key × Content) → List (Key × Content)
  | [] => [(key, c)]
  | (k, d) :: rest =>
    if key = k then (key, c) :: rest
    else if key.before k then (key, c) :: (k, d) :: rest
    else (k, d) :: insertEntry key c rest

/-- The entries of a map. Of several with one key the last counts. -/
def readEntries? (part : PartReader) (key : KeySchema) (s : Schema)
    (members : List (Octets × Document)) : Option (List (Key × Content)) := do
  let entries ← members.mapM fun (raw, item) => do
    pure (← key.read? raw, ← part s item)
  pure (entries.foldl (fun sorted (k, c) => insertEntry k c sorted) [])

/-! ### Records -/

/-- What stands for a field that is missing. -/
def Field.missing? (f : Field) : Option Content :=
  if f.skipped then some (.list [])
  else
    match f.schema with
    | .optional _ => some .null
    | _ => none

/-- Whether a field is not written. -/
def Field.isSkipped (f : Field) : Content → Bool
  | .list [] => f.skipped
  | _ => false

/-- A record of the contents of its fields. -/
def recordOf (fields : List (Field × Content)) : Content :=
  .members ((fields.filter fun (f, c) => !f.isSkipped c).map fun (f, c) => (.text f.name, c))

/-- The fields of a record that is an object. No field may be there twice. -/
def readObject? (part : PartReader) (fields : List Field) (members : List (Octets × Document)) :
    Option Content := do
  let named ← members.mapM fun (raw, item) => (stringText? raw).map (·, item)
  let found ← fields.mapM fun f =>
    match named.filter fun (name, _) => name == f.name with
    | [] => f.missing?.map (f, ·)
    | [(_, item)] => (part f.schema item).map (f, ·)
    | _ => none
  pure (recordOf found)

/-- The fields of a record that is an array. -/
def readFields? (part : PartReader) :
    List Field → List Document → Option (List (Field × Content))
  | [], [] => some []
  | [], _ :: _ => none
  | f :: fields, [] => do
    let c ← if f.skipped then f.missing? else none
    pure ((f, c) :: (← readFields? part fields []))
  | f :: fields, item :: items => do
    let c ← part f.schema item
    pure ((f, c) :: (← readFields? part fields items))

/-! ### Choices -/

/-- A variant by its name alone. -/
def readName? (variants : List (String × Option Schema)) (raw : Octets) : Option Content := do
  let name ← stringText? raw
  match ← variants.find? fun (v, _) => v == name with
  | (_, none) => some (.text name)
  | (_, some _) => none

/-- A variant with what it holds. -/
def readVariant? (part : PartReader) (variants : List (String × Option Schema)) (raw : Octets)
    (item : Document) : Option Content := do
  let name ← stringText? raw
  match ← variants.find? fun (v, _) => v == name with
  | (_, none) =>
    match item with
    | .null => some (.text name)
    | _ => none
  | (_, some s) => (part s item).map fun c => .members [(.text name, c)]

/-! ### The whole -/

/-- The number of a document. -/
def Document.number? : Document → Option Number
  | .number n => n.number?
  | .real x => some (.real x)
  | _ => none

/-- The text of a document. -/
def Document.text? : Document → Option String
  | .string raw => stringText? raw
  | _ => none

/-- The items of a tuple. -/
def readTuple? (part : PartReader) : List Schema → List Document → Option (List Content)
  | [], [] => some []
  | s :: schemas, item :: items => do
    let c ← part s item
    pure (c :: (← readTuple? part schemas items))
  | _, _ => none

/-- The content of a document as a value of a type with a name. -/
def Definition.read? (part? : Option PartReader) (d : Definition) (document : Document) :
    Option Content :=
  match d, document with
  | record fields, .object members => do readObject? (← part?) fields members
  | record fields, .array items => do pure (recordOf (← readFields? (← part?) fields items))
  | choice variants, .string raw => readName? variants raw
  | choice variants, .object [(raw, item)] => do readVariant? (← part?) variants raw item
  | _, _ => none

/-- The content of a document as a value of a type, inside containers that leave `depth` further
levels. `part?` reads what is inside of one more. -/
def Schema.readWith (types : Definitions) (depth : Nat) (part? : Option PartReader) :
    Schema → Document → Option Content
  | any, document => (Value.ofDocumentAt depth document).map fun v => .ofValue v.sorted
  | unit, document =>
    match document with
    | .null => some .null
    | _ => none
  | boolean, document =>
    match document with
    | .bool b => some (.bool b)
    | _ => none
  | text, document => document.text?.map .text
  | character, document =>
    (document.text?.filter fun s => s.toList.length == 1).map .text
  | integer least greatest, document =>
    (document.number?.bind (Number.integer? least greatest)).map .integer
  | wide least greatest, document =>
    match document with
    | .number n => (n.wide? least greatest).map .integer
    | _ => none
  | double, document => document.number?.map fun n => .double n.toDouble
  | single, document => document.number?.map fun n => .single n.toSingle
  | optional s, document =>
    match document with
    | .null => some .null
    | _ => s.readWith types depth part? document
  | list s, document =>
    match document, part? with
    | .array items, some part => (items.mapM (part s)).map .list
    | _, _ => none
  | tuple schemas, document =>
    match document, part? with
    | .array items, some part => (readTuple? part schemas items).map .list
    | _, _ => none
  | map key s, document =>
    match document, part? with
    | .object members, some part => (readEntries? part key s members).map .members
    | _, _ => none
  | named name, document => do
    (← types.lookup name).read? part? document

/-- The content of a document as a value of a type, inside containers that leave `depth` further
levels. -/
def Schema.readAt (types : Definitions) : Nat → PartReader
  | 0 => Schema.readWith types 0 none
  | depth + 1 => Schema.readWith types (depth + 1) (some (Schema.readAt types depth))

/-- The content of a JSON value as a value of a type. -/
def Schema.ofValue? (types : Definitions) (s : Schema) (v : Value) : Option Content :=
  Schema.readAt types maxDepth s v.document

/-- The content of a JSON text as a value of a type. -/
def Schema.read? (types : Definitions) (s : Schema) (octets : Octets) : Option Content :=
  (Document.read? octets).bind (Schema.readAt types maxDepth s)

end RestClient.Json
