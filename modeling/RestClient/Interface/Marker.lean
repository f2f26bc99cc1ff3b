/-!
# Markers

The attributes that say what a method requests and what a parameter contributes to the request.
Method markers name the verb, literal headers and the encoding of the body; parameter markers name
a role.

## Main definitions

- `Verb`, `Encoding`, `RoleKind` — what markers name
- `Marker` — a marker, with `Marker.ofName?`
- `Role` — a role together with its name and its escaping
-/

namespace RestClient

/-- The method of a request. -/
inductive Verb where
  | get
  | post
  | put
  | patch
  | delete
  | head
  | options
  deriving DecidableEq, Repr

namespace Verb

/-- Every verb, in the order in which they are tried. -/
def all : List Verb :=
  [get, post, put, patch, delete, head, options]

/-- The verb in a request line. -/
def text : Verb → String
  | get => "GET"
  | post => "POST"
  | put => "PUT"
  | patch => "PATCH"
  | delete => "DELETE"
  | head => "HEAD"
  | options => "OPTIONS"

/-- The name of the verb's marker. -/
def attributeName : Verb → String
  | get => "get"
  | post => "post"
  | put => "put"
  | patch => "patch"
  | delete => "delete"
  | head => "head"
  | options => "options"

/-- The name of the verb in generated code. -/
def variant : Verb → String
  | get => "Get"
  | post => "Post"
  | put => "Put"
  | patch => "Patch"
  | delete => "Delete"
  | head => "Head"
  | options => "Options"

/-- The verb of a marker's name. -/
def ofAttributeName? (name : String) : Option Verb :=
  all.find? fun verb => verb.attributeName == name

end Verb

/-- How the body of a request is put together. -/
inductive Encoding where
  | none
  | formUrlEncoded
  | multipart
  deriving DecidableEq, Repr

/-- The name of the encoding in generated code. -/
def Encoding.variant : Encoding → String
  | none => "None"
  | formUrlEncoded => "FormUrlEncoded"
  | multipart => "Multipart"

/-- The part of a request that a parameter contributes to. -/
inductive RoleKind where
  | body
  | field
  | fieldMap
  | part
  | partMap
  | path
  | query
  | queryMap
  | url
  | header
  | headerMap
  deriving DecidableEq, Repr

namespace RoleKind

/-- Every kind, in the order in which they are tried. -/
def all : List RoleKind :=
  [body, field, fieldMap, part, partMap, path, query, queryMap, url, header, headerMap]

/-- The name of the kind's marker. -/
def attributeName : RoleKind → String
  | body => "body"
  | field => "field"
  | fieldMap => "field_map"
  | part => "part"
  | partMap => "part_map"
  | path => "path"
  | query => "query"
  | queryMap => "query_map"
  | url => "url"
  | header => "header"
  | headerMap => "header_map"

/-- The name of the kind in messages. -/
def displayName : RoleKind → String
  | body => "@Body"
  | field => "@Field"
  | fieldMap => "@FieldMap"
  | part => "@Part"
  | partMap => "@PartMap"
  | path => "@Path"
  | query => "@Query"
  | queryMap => "@QueryMap"
  | url => "@Url"
  | header => "@Header"
  | headerMap => "@HeaderMap"

/-- The kinds that take a map and contribute once for each of its entries. -/
def isMap : RoleKind → Bool
  | fieldMap | queryMap | partMap | headerMap => true
  | _ => false

/-- The kinds whose contributions go under a name. -/
def acceptsName : RoleKind → Bool
  | path | query | field | part | header => true
  | _ => false

/-- The kinds whose values may be declared as already escaped. -/
def acceptsEncoded : RoleKind → Bool
  | path | query | queryMap | field | fieldMap => true
  | _ => false

end RoleKind

/-- An attribute with a meaning for requests. -/
inductive Marker where
  | verb (verb : Verb)
  | headers
  | formUrlEncoded
  | multipart
  | role (kind : RoleKind)
  deriving DecidableEq, Repr

namespace Marker

/-- The marker of a name. -/
def ofName? (name : String) : Option Marker :=
  match Verb.ofAttributeName? name with
  | some v => some (verb v)
  | none =>
    if name = "headers" then some headers
    else if name = "form_url_encoded" then some formUrlEncoded
    else if name = "multipart" then some multipart
    else (RoleKind.all.find? fun kind => kind.attributeName == name).map role

/-- The name of the marker in messages. -/
def displayName : Marker → String
  | verb v => "@" ++ v.text
  | headers => "@Headers"
  | formUrlEncoded => "@FormUrlEncoded"
  | multipart => "@Multipart"
  | role kind => kind.displayName

/-- Whether the marker belongs on a method; the others belong on parameters. -/
def isMethodLevel : Marker → Bool
  | role _ => false
  | _ => true

/-- The encoding that the marker asks for. -/
def encoding? : Marker → Option Encoding
  | formUrlEncoded => some .formUrlEncoded
  | multipart => some .multipart
  | _ => none

end Marker

/-- The role of a parameter. `encoded` says that its values are inserted as they are. -/
inductive Role where
  | path (name : String) (encoded : Bool)
  | query (name : String) (encoded : Bool)
  | queryMap (encoded : Bool)
  | field (name : String) (encoded : Bool)
  | fieldMap (encoded : Bool)
  | part (name : String)
  | partMap
  | body
  | url
  | header (name : String)
  | headerMap
  deriving DecidableEq, Repr

namespace Role

/-- The kind of a role. -/
def kind : Role → RoleKind
  | path .. => .path
  | query .. => .query
  | queryMap .. => .queryMap
  | field .. => .field
  | fieldMap .. => .fieldMap
  | part .. => .part
  | partMap => .partMap
  | body => .body
  | url => .url
  | header .. => .header
  | headerMap => .headerMap

/-- The name under which the role contributes, for the kinds that have one. -/
def name? : Role → Option String
  | path name _ | query name _ | field name _ | part name | header name => some name
  | _ => none

/-- Whether values are inserted as they are. -/
def encoded : Role → Bool
  | path _ e | query _ e | queryMap e | field _ e | fieldMap e => e
  | _ => false

end Role

/-- How instances of a client are managed. Only stand-alone clients can be generated. -/
inductive ComponentModel where
  | standalone
  | dagger
  | jsr330
  | spring
  deriving DecidableEq, Repr

namespace ComponentModel

/-- The name of the model. -/
def text : ComponentModel → String
  | standalone => "standalone"
  | dagger => "dagger"
  | jsr330 => "jsr330"
  | spring => "spring"

/-- The model of a name. -/
def ofName? (name : String) : Option ComponentModel :=
  [standalone, dagger, jsr330, spring].find? fun model => model.text == name

end ComponentModel

end RestClient
