import RestClient.Code.TraitParser
import RestClient.Interface.Diagnostic
import RestClient.Text.Basic

/-!
# Arguments of roles

The attribute that gives a parameter its role may name the contribution and say that values are
already escaped. A list of arguments is read item by item; what the items mean together does not
depend on their order.

## Main definitions

- `RoleItem` — an item of the list
- `RoleArguments.ofItems` — what items mean together
- `RoleArguments.read` — the arguments in a list of tokens
- `Role.ofAttribute` — the role that an attribute gives to a parameter
-/

namespace RestClient

open Code (Span Tokens SyntaxFault Attribute Expr ExprForm MetaItem MetaForm Parser Nested)

/-- An item in the arguments of a role, with the place that a complaint about it points at. -/
inductive RoleItem where
  | literal (name : String) (span : Span)
  | named (name : String) (span : Span)
  | namedOther (span : Span)
  | encoded (span : Span)
  | encodedIs (flag : Bool) (span : Span)
  | encodedOther (span : Span)
  | unknown (span : Span)
  deriving DecidableEq, Repr

/-- The name and the mark for escaped values, each with its place, where they are given. -/
structure RoleArguments where
  name : Option (String × Span)
  encoded : Option Span
  deriving DecidableEq, Repr

namespace RoleArguments

/-- No arguments. -/
def empty : RoleArguments :=
  ⟨none, none⟩

/-- The arguments with a name. There can be only one, and it may not be blank. -/
def setName (a : RoleArguments) (name : String) (span : Span) :
    Except (Violation × Span) RoleArguments :=
  if a.name.isSome then .error (.repeatedName, span)
  else if (Text.trim name).isEmpty then .error (.blankName, span)
  else .ok { a with name := some (name, span) }

/-- The arguments with one more item. -/
def add (a : RoleArguments) : RoleItem → Except (Violation × Span) RoleArguments
  | .literal name span | .named name span => a.setName name span
  | .namedOther span => .error (.nameNotString, span)
  | .encoded span => .ok { a with encoded := some span }
  | .encodedIs true span => .ok { a with encoded := some span }
  | .encodedIs false _ => .ok a
  | .encodedOther span => .error (.encodedNotBool, span)
  | .unknown span => .error (.unknownArgument, span)

/-- What items mean together. -/
def ofItems (items : List RoleItem) : Except (Violation × Span) RoleArguments :=
  items.foldlM add empty

end RoleArguments

/-! ### Reading -/

/-- The item that a literal or an attribute-like argument is. -/
def RoleItem.ofMeta (item : MetaItem) : RoleItem :=
  let place := Code.spanOf item.tokens
  let pathPlace := Code.spanOf (item.tokens.take 1)
  match item.path.ident?, item.form with
  | some "encoded", .path => .encoded pathPlace
  | some "name", .nameValue value =>
    match value.form with
    | .string name => .named name value.span
    | _ => .namedOther value.span
  | some "encoded", .nameValue value =>
    match value.form with
    | .bool flag => .encodedIs flag pathPlace
    | _ => .encodedOther value.span
  | _, _ => .unknown place

/-- Takes one item. -/
def roleItem (g : Nested) : Parser RoleItem := do
  match ← Parser.rest with
  | .literal text span :: _ =>
    match Code.stringValue? text.toList with
    | some (name, _) =>
      discard (Parser.take 1)
      return .literal (String.ofList name) span
    | none => return .ofMeta (← Parser.metaItem g)
  | _ => return .ofMeta (← Parser.metaItem g)

/-- Takes items with commas between them, and answers with them and with the fault that stopped the
reading before the end. -/
def roleItems (g : Nested) : Parser (List RoleItem × Option SyntaxFault) :=
  Parser.iterate (σ := List RoleItem) (fun done => do
    if ← Parser.atEnd then return .inr (done.reverse, none)
    match StateT.run (roleItem g) (← get) with
    | .error fault => return .inr (done.reverse, some fault)
    | .ok (item, cursor) =>
      set cursor
      let all := item :: done
      if ← Parser.atEnd then return .inr (all.reverse, none)
      match StateT.run (Parser.punct ",") (← get) with
      | .error fault => return .inr (all.reverse, some fault)
      | .ok (_, cursor) =>
        set cursor
        return .inl all) []

/-- The arguments in the tokens of a list that ends at `scope`. An item that breaks a rule is
reported before a fault behind it. -/
def RoleArguments.read (trees : Tokens) (scope : Span) :
    Except (Violation × Span) RoleArguments :=
  let ofFault (f : SyntaxFault) : Violation × Span := (.syntaxFault f.complaint f.atEnd, f.span)
  match StateT.run (roleItems (.ofTokens trees)) (Parser.start trees scope) with
  | .error f => .error (ofFault f)
  | .ok ((items, fault), cursor) =>
    match RoleArguments.ofItems items with
    | .error e => .error e
    | .ok arguments =>
      match fault <|> cursor.leftover with
      | some f => .error (ofFault f)
      | none => .ok arguments

/-! ### Roles -/

/-- The role of a kind with its arguments, for a parameter called `parameter`. A header needs a
name; the other kinds that take one use the parameter's. -/
def Role.ofArguments (kind : RoleKind) (arguments : RoleArguments) (parameter : String)
    (anchor : Anchor) : Except Diagnostic Role :=
  let refuse (v : Violation) (place : Span) : Except Diagnostic Role :=
    .error (.declaration v (anchor.withValue place))
  match arguments.name.filter fun _ => !kind.acceptsName with
  | some (_, place) => refuse (.takesNoName kind) place
  | none =>
    match arguments.encoded.filter fun _ => !kind.acceptsEncoded with
    | some place => refuse (.takesNoEncoded kind) place
    | none =>
      let encoded := arguments.encoded.isSome
      let explicit := arguments.name.map (·.1)
      let name := explicit.getD parameter
      match kind with
      | .path => .ok (.path name encoded)
      | .query => .ok (.query name encoded)
      | .queryMap => .ok (.queryMap encoded)
      | .field => .ok (.field name encoded)
      | .fieldMap => .ok (.fieldMap encoded)
      | .part => .ok (.part name)
      | .partMap => .ok .partMap
      | .body => .ok .body
      | .url => .ok .url
      | .header =>
        match explicit with
        | some name => .ok (.header name)
        | none => .error (.declaration .headerWithoutName anchor)
      | .headerMap => .ok .headerMap

/-- The role that an attribute gives to a parameter. -/
def Role.ofAttribute (a : Attribute) (kind : RoleKind) (parameter : String) :
    Except Diagnostic Role :=
  let anchor := Anchor.on a.span
  match a.item.form with
  | .path => Role.ofArguments kind .empty parameter anchor
  | .list _ trees group =>
    match RoleArguments.read trees group.lastChar with
    | .error (v, place) => .error (.declaration v (.on place))
    | .ok arguments => Role.ofArguments kind arguments parameter anchor
  | .nameValue value => .error (.declaration (.takesNoValue kind) (anchor.withValue value.span))

end RestClient
