import RestClient.Code.TraitParser
import RestClient.Interface.Diagnostic

/-!
# Configuration of a client

The arguments of the attribute on a trait: a list of keys with values. Of a key that is repeated
the last value counts, but every value has to be valid.

## Main definitions

- `ClientConfig` — the configuration
- `Settings` — what has been given so far
- `ClientConfig.ofEntries`, `ClientConfig.parse` — the configuration of a list
-/

namespace RestClient

open Code (Span Tokens TypeExpr Expr MetaItem MetaForm Parser SyntaxFault)

/-- The configuration of a client. -/
structure ClientConfig where
  baseUrl : String
  suffix : String
  client : TypeExpr
  converter : TypeExpr
  component : ComponentModel
  componentSpan : Span

/-- The values given for the keys so far. -/
structure Settings where
  baseUrl : Option String
  suffix : Option String
  client : Option TypeExpr
  converter : Option TypeExpr
  component : Option (ComponentModel × Span)

/-- Nothing is given. -/
def Settings.empty : Settings :=
  ⟨none, none, none, none, none⟩

/-- The end of the name of a client's type where none is given. -/
def defaultSuffix : String := "Impl"

/-- The path of a transport where none is given. -/
def defaultClient : TypeExpr :=
  let punct (joint : Bool) : Code.TokenTree := .punct ':' joint .nowhere
  .path [punct true, punct false, .ident "kite_common" .nowhere, punct true, punct false,
    .ident "ReqwestClient" .nowhere] none ["kite_common", "ReqwestClient"] []

/-- Whether a text is one identifier when it is read as code. -/
def isIdentifierText (text : String) : Bool :=
  match Code.Tokens.read? text with
  | some tokens => (Parser.runAll Parser.ident tokens .nowhere).toOption.isSome
  | none => false

/-- The text of a string value. -/
def stringSetting (key : String) (value : Expr) : Except (Violation × Span) String :=
  match value.form with
  | .string text => .ok text
  | _ => .error (.notString key, value.span)

/-- The text of a suffix: a letter before it has to make an identifier of it. -/
def suffixSetting (value : Expr) : Except (Violation × Span) String :=
  match stringSetting "suffix" value with
  | .error e => .error e
  | .ok text =>
    if text.isEmpty || !isIdentifierText ("X" ++ text) then .error (.badSuffix, value.span)
    else .ok text

/-- The type of a value that is a path. -/
def typeSetting (key : String) (value : Expr) : Except (Violation × Span) TypeExpr :=
  match value.form with
  | .path p => .ok (p.toType value.tokens)
  | _ => .error (.notTypePath key, value.span)

/-- The component model of a value: its name, or a string with its name. -/
def componentSetting (value : Expr) : Except (Violation × Span) (ComponentModel × Span) :=
  let name :=
    match value.form with
    | .path p => p.ident?
    | .string text => some text
    | _ => none
  match name.bind ComponentModel.ofName? with
  | some model => .ok (model, value.span)
  | none => .error (.badComponent, value.span)

/-- The settings with one more entry. -/
def Settings.add (s : Settings) (entry : MetaItem) : Except (Violation × Span) Settings := do
  match entry.form with
  | .nameValue value =>
    match entry.path.ident? with
    | some "base_url" => return { s with baseUrl := some (← stringSetting "base_url" value) }
    | some "suffix" => return { s with suffix := some (← suffixSetting value) }
    | some "client" => return { s with client := some (← typeSetting "client" value) }
    | some "converter" => return { s with converter := some (← typeSetting "converter" value) }
    | some "component" => return { s with component := some (← componentSetting value) }
    | _ => throw (.unknownKey, pathSpan entry)
  | _ => throw (.notKeyValue, Code.spanOf entry.tokens)
where
  /-- The place of the path of an entry: all before its equals sign. -/
  pathSpan (entry : MetaItem) : Span :=
    Code.spanOf (entry.tokens.takeWhile fun t => !Parser.isPunct "=" [t])

/-- The configuration of settings; a converter has to be given. -/
def Settings.finish (s : Settings) : Except (Violation × Span) ClientConfig :=
  match s.converter with
  | none => .error (.missingConverter, .nowhere)
  | some converter =>
    let (component, componentSpan) := s.component.getD (.standalone, .nowhere)
    .ok ⟨s.baseUrl.getD "", s.suffix.getD defaultSuffix, s.client.getD defaultClient, converter,
      component, componentSpan⟩

/-- The configuration of a list of entries. -/
def ClientConfig.ofEntries (entries : List MetaItem) : Except (Violation × Span) ClientConfig := do
  (← entries.foldlM Settings.add .empty).finish

/-- The configuration that some tokens write. -/
def ClientConfig.parse (trees : Tokens) : Except Diagnostic ClientConfig :=
  let g := Code.Nested.ofTokens trees
  let entries : Parser (List MetaItem) := Parser.commaList (Parser.metaItem g)
  match StateT.run entries (Parser.start trees .nowhere) with
  | .error fault => .error (.ofFault fault)
  | .ok (items, cursor) =>
    match ClientConfig.ofEntries items with
    | .error (v, place) => .error (.declaration v (.on place))
    | .ok config =>
      match cursor.leftover with
      | some fault => .error (.ofFault fault)
      | none => .ok config

end RestClient
