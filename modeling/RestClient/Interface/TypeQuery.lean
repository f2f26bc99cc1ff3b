import RestClient.Code.TypeExpr
import RestClient.Interface.KnownTypes

/-!
# Queries on types

What can be said about a type from the way it is written. References and parentheses around a type
never matter. Known types are recognized under every spelling; a type that only some libraries have
is recognized by the last name of its path.

## Main definitions

- `TypeExpr.strip` — a type without references and parentheses
- `TypeExpr.canonical?` — the name of its head
- `TypeExpr.same` — equality of heads and arguments
- `TypeClass`, `TypeExpr.belongsTo` — classes of types
- `TypeExpr.element?`, `TypeExpr.argument?`, `TypeExpr.boundArgument?` — parts of types
-/

namespace RestClient.Code.TypeExpr

/-- A type without the references and parentheses around it. -/
def strip : TypeExpr → TypeExpr
  | reference _ t => strip t
  | paren _ t => strip t
  | t => t

/-- The segments of a path as one name. -/
def joinNames (names : List String) : String :=
  "::".intercalate names

/-- The canonical name of the head of a type. Qualified paths and types without a name have
none. -/
def canonical? (t : TypeExpr) : Option String :=
  match t.strip with
  | path _ none names _ => some (canonicalName (joinNames names))
  | tuple _ [] => some "()"
  | slice _ _ => some "[]"
  | array _ _ => some "[;]"
  | _ => none

mutual

/-- Whether two types have the same head and the same arguments. Arrays of every length are the
same; function pointers, `impl` and `dyn` types and the like are the same as nothing. -/
def same : TypeExpr → TypeExpr → Bool
  | reference _ a, b => same a b
  | paren _ a, b => same a b
  | slice _ a, b =>
    match b.strip with
    | slice _ b => same a b
    | _ => false
  | array _ a, b =>
    match b.strip with
    | array _ b => same a b
    | _ => false
  | tuple _ as, b =>
    match b.strip with
    | tuple _ bs => sameAll as bs
    | _ => false
  | path t self names as, b =>
    match b.strip with
    | path t' self' names' bs =>
      canonical? (path t self names as) == canonical? (path t' self' names' bs) && sameAll as bs
    | _ => false
  | _, _ => false

/-- Whether two lists of types are the same one by one. -/
def sameAll : List TypeExpr → List TypeExpr → Bool
  | [], [] => true
  | a :: as, b :: bs => same a b && sameAll as bs
  | _, _ => false

end

/-- A type that is a single name with arguments. -/
def named (name : String) (arguments : List TypeExpr) : TypeExpr :=
  path [] none [name] arguments

/-- The type arguments of a path. -/
def arguments (t : TypeExpr) : List TypeExpr :=
  match t.strip with
  | path _ _ _ as => as
  | _ => []

/-- A type argument by its index. -/
def argument? (t : TypeExpr) (index : Nat) : Option TypeExpr :=
  t.arguments[index]?

/-- Whether the last name of a path is `name`. -/
def lastNameIs (t : TypeExpr) (name : String) : Bool :=
  match t.strip with
  | path _ _ names _ => names.getLast? == some name
  | _ => false

/-- Whether two types have the same head, whatever their arguments. -/
def sameHead (t other : TypeExpr) : Bool :=
  other.canonical?.isSome && t.canonical? == other.canonical?

/-- Whether the head of a type is the known type of a spelling. -/
def isKnown (t : TypeExpr) (spelling : String) : Bool :=
  t.canonical? == some (canonicalName spelling)

/-- Whether a type is a sequence: a slice, an array, or a known sequence. -/
def isSequence (t : TypeExpr) : Bool :=
  match t.strip with
  | slice _ _ | array _ _ => true
  | _ => (t.canonical?.map fun name => sequenceNames.contains name).getD false

/-- The element type of a sequence. -/
def element? (t : TypeExpr) : Option TypeExpr :=
  match t.strip with
  | slice _ e => some e
  | array _ e => some e
  | path _ _ _ _ => if t.isSequence then t.argument? 0 else none
  | _ => none

/-- Whether a type is a sequence of `element`. -/
def isSequenceOf (t element : TypeExpr) : Bool :=
  (t.element?.map fun e => same e element).getD false

/-- The type of an octet. -/
def octet : TypeExpr :=
  named "u8" []

/-- Classes of types with a meaning for requests. -/
inductive TypeClass where
  | str
  | map
  | sequence
  | bytes
  | unit
  deriving DecidableEq, Repr

/-- Whether a type belongs to a class. -/
def belongsTo (t : TypeExpr) : TypeClass → Bool
  | .str =>
    match t.canonical? with
    | some name =>
      stringNames.contains name ||
        (stringWrappers.contains name &&
          (t.argument? 0).bind canonical? == some "str")
    | none => false
  | .map => (t.canonical?.map fun name => mapNames.contains name).getD false
  | .sequence => t.isSequence
  | .bytes =>
    t.canonical? == some "bytes::Bytes" || (t.isSequenceOf octet && !t.isKnown "VecDeque")
  | .unit => t.canonical? == some "()"

/-- The type argument of a bound with a name, in a list of bounds: the first one that has it. -/
def argumentOfBound? (bounds : List Bound) (name : String) (index : Nat) : Option TypeExpr :=
  bounds.findSome? fun b =>
    match b with
    | .trait n arguments => if n = name then arguments[index]? else none
    | .other => none

/-- The type argument of a bound of an `impl` type, of an object, or of a boxed object. -/
def boundArgument? (t : TypeExpr) (name : String) (index : Nat) : Option TypeExpr :=
  match t.strip with
  | implTrait _ bounds => argumentOfBound? bounds name index
  | traitObject _ bounds => argumentOfBound? bounds name index
  | path _ _ _ _ =>
    if t.isKnown "Box" then
      match t.argument? 0 with
      | some (traitObject _ bounds) => argumentOfBound? bounds name index
      | _ => none
    else none
  | _ => none

/-- Whether a type is an `impl` type. -/
def isImplTrait (t : TypeExpr) : Bool :=
  match t.strip with
  | implTrait _ _ => true
  | _ => false

/-- Whether a type is a reference, perhaps in parentheses. -/
def isBorrowed : TypeExpr → Bool
  | reference _ _ => true
  | paren _ t => isBorrowed t
  | _ => false

end RestClient.Code.TypeExpr
