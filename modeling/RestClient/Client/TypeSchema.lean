import RestClient.Code.Literal
import RestClient.Interface.TypeQuery
import RestClient.Json.Schema

/-!
# Schemas of types

What documents the values of a type are read from, told from the way the type is written.
References, parentheses and the containers of one value do not show in a document; a sequence of any
kind is a list, and a map has its entries in the order of its keys.

## Main definitions

- `Schema.ofType?` — the schema of a type
- `TypeExpr.fullName` — the name of a type with the place of its definition
-/

namespace RestClient

open Code (TypeExpr)

namespace Json

/-- The least and the greatest value of an unsigned integer. -/
def unsignedRange (bits : Nat) : Int × Int :=
  (0, Nat.pow 2 bits - 1)

/-- The least and the greatest value of a signed integer. -/
def signedRange (bits : Nat) : Int × Int :=
  (-(Nat.pow 2 (bits - 1)), Nat.pow 2 (bits - 1) - 1)

/-- The integer types of at most 64 bits, each with its least and its greatest value. -/
def integerTypes : List (String × Int × Int) := [
  ("u8", unsignedRange 8), ("u16", unsignedRange 16), ("u32", unsignedRange 32),
  ("u64", unsignedRange 64), ("usize", unsignedRange 64), ("i8", signedRange 8),
  ("i16", signedRange 16), ("i32", signedRange 32), ("i64", signedRange 64),
  ("isize", signedRange 64)]

/-- The integer types of 128 bits. -/
def wideTypes : List (String × Int × Int) := [
  ("u128", unsignedRange 128), ("i128", signedRange 128)]

/-- The types that hold one value of their argument. -/
def holders : List String :=
  ["std::boxed::Box", "std::sync::Arc", "std::rc::Rc", "std::borrow::Cow"]

/-- The schema of a type without arguments. -/
def Schema.ofName? (types : Definitions) (name : String) : Option Schema :=
  if stringNames.contains name then some .text
  else if name = "bool" then some .boolean
  else if name = "char" then some .character
  else if name = "f64" then some .double
  else if name = "f32" then some .single
  else
    match integerTypes.lookup name, wideTypes.lookup name, types.lookup name with
    | some (least, greatest), _, _ => some (.integer least greatest)
    | _, some (least, greatest), _ => some (.wide least greatest)
    | _, _, some _ => some (.named name)
    | _, _, none => none

/-- The keys of a map whose keys have a type. -/
def KeySchema.ofType (t : TypeExpr) : KeySchema :=
  if t.belongsTo .str then .text
  else
    match t.canonical?.bind fun name => integerTypes.lookup name with
    | some (least, greatest) => .integer least greatest
    | none => .compound

/-- The schema of a type with a name and arguments, each argument as a key and with its schema. -/
def Schema.ofApplication? (types : Definitions) (name : String)
    (arguments : List (KeySchema × Option Schema)) : Option Schema :=
  match arguments with
  | [] => Schema.ofName? types name
  | [(_, s)] =>
    if holders.contains name then s
    else if name = "std::option::Option" then s.map .optional
    else if sequenceNames.contains name then s.map .list
    else none
  | [(key, _), (_, s)] => if mapNames.contains name then s.map (.map key) else none
  | _ => none

mutual

/-- The schema of a type. -/
def Schema.ofType? (types : Definitions) : TypeExpr → Option Schema
  | .reference _ t => Schema.ofType? types t
  | .paren _ t => Schema.ofType? types t
  | .slice _ t => (Schema.ofType? types t).map .list
  | .array _ t => (Schema.ofType? types t).map .list
  | .tuple _ [] => some .unit
  | .tuple _ ts => ((Schema.ofArguments types ts).mapM Prod.snd).map .tuple
  | .path _ none names arguments =>
    Schema.ofApplication? types (canonicalName (TypeExpr.joinNames names))
      (Schema.ofArguments types arguments)
  | _ => none

/-- The arguments of a type, each as a key and with its schema. -/
def Schema.ofArguments (types : Definitions) :
    List TypeExpr → List (KeySchema × Option Schema)
  | [] => []
  | t :: rest => (KeySchema.ofType t, Schema.ofType? types t) :: Schema.ofArguments types rest

end

end Json

/-! ### Names -/

namespace Code.TypeExpr

/-- Where the known types are defined. -/
def definitionPaths : List (String × String) := [
  ("std::string::String", "alloc::string::String"),
  ("std::vec::Vec", "alloc::vec::Vec"),
  ("std::collections::VecDeque", "alloc::collections::vec_deque::VecDeque"),
  ("std::collections::BTreeMap", "alloc::collections::btree::map::BTreeMap"),
  ("std::collections::HashMap", "std::collections::hash::map::HashMap"),
  ("std::option::Option", "core::option::Option"),
  ("std::borrow::Cow", "alloc::borrow::Cow"),
  ("std::boxed::Box", "alloc::boxed::Box"),
  ("std::sync::Arc", "alloc::sync::Arc"),
  ("std::rc::Rc", "alloc::rc::Rc")]

/-- The name of the head of a path with the place of its definition. -/
def fullHead (names : List String) : String :=
  let name := canonicalName (joinNames names)
  (definitionPaths.lookup name).getD name

mutual

/-- The name of a type, every known type in it with the place of its definition. -/
def fullName : TypeExpr → String
  | reference _ t => "&" ++ fullName t
  | paren _ t => fullName t
  | slice _ t => "[" ++ fullName t ++ "]"
  | tuple _ [t] => "(" ++ fullName t ++ ",)"
  | tuple _ ts => "(" ++ ", ".intercalate (fullNames ts) ++ ")"
  | path _ none names [] => fullHead names
  | path _ none names ts => fullHead names ++ "<" ++ ", ".intercalate (fullNames ts) ++ ">"
  | t => PlainCode.text (codeOf t.tokens)

/-- The names of types. -/
def fullNames : List TypeExpr → List String
  | [] => []
  | t :: rest => fullName t :: fullNames rest

end

end Code.TypeExpr

end RestClient
