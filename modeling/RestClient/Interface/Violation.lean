import RestClient.Code.Parser
import RestClient.Interface.Marker

/-!
# Violations

The rules that a declaration can break, each with the wording in which it is reported.

## Main definitions

- `Violation` — a broken rule
- `Violation.message` — its wording
-/

namespace RestClient

/-- A rule of declarations that is broken. -/
inductive Violation where
  | syntaxFault (complaint : Code.Complaint) (atEnd : Bool)
  -- arguments of roles
  | nameNotString
  | encodedNotBool
  | unknownArgument
  | repeatedName
  | blankName
  | takesNoValue (kind : RoleKind)
  | takesNoName (kind : RoleKind)
  | takesNoEncoded (kind : RoleKind)
  | headerWithoutName
  | malformedHeaders
  -- configuration of a client
  | unknownKey
  | notKeyValue
  | missingConverter
  | notString (key : String)
  | badSuffix
  | notTypePath (key : String)
  | badComponent
  -- markers of a method
  | receiver
  | genericMethod
  | roleOnMethod (kind : RoleKind)
  | notAnnotated
  | twoVerbs (first second : Verb)
  | noUrl
  | urlTwice (verb : Verb)
  | bothEncodings
  | verbNeedsString (verb : Verb)
  | takesNoArguments (marker : Marker)
  -- parameters
  | parameterPattern
  | methodMarkerOnParameter (marker : Marker)
  | twoRoles
  | borrowedCallback
  | callbackNotLast
  | noRole
  | implTrait
  | notStringMap (kind : RoleKind)
  | fieldOutsideForm
  | partOutsideMultipart
  | bodyInForm
  | bodyInMultipart
  | twoBodies
  | twoUrls
  | urlNotString
  -- paths and results
  | placeholderInQuery
  | missingPath (name : String)
  | pathCount
  | callbackReturns
  | unsupportedReturn
  | resultNotAsync
  | asyncCallback
  -- traits
  | genericTrait
  | supertraits
  | notMethod
  | defaultBody
  | notTrait
  deriving DecidableEq, Repr

/-- The wording of a broken rule. -/
def Violation.message : Violation → String
  | syntaxFault complaint atEnd => Code.SyntaxFault.message ⟨complaint, .nowhere, atEnd⟩
  | nameNotString => "name must be a string literal"
  | encodedNotBool => "encoded must be a boolean literal"
  | unknownArgument => "Only a name literal, 'name = \"...\"' or 'encoded' are supported"
  | repeatedName => "name specified more than once"
  | blankName => "name must not be empty"
  | takesNoValue kind => kind.displayName ++ " does not take a value"
  | takesNoName kind => kind.displayName ++ " does not take a name"
  | takesNoEncoded kind => kind.displayName ++ " does not support 'encoded'"
  | headerWithoutName => "@Header requires a header name"
  | malformedHeaders => "Malformed headers in @Headers annotation"
  | unknownKey =>
    "Only 'base_url', 'suffix', 'client', 'converter' or 'component' are supported"
  | notKeyValue => "Expected key-value pair"
  | missingConverter => "Missing required 'converter' parameter"
  | notString key => key ++ " must be a string literal"
  | badSuffix => "suffix must be a non-empty identifier fragment"
  | notTypePath key => key ++ " must be a type path"
  | badComponent => "component must be one of 'standalone', 'dagger', 'jsr330' or 'spring'"
  | receiver => "first parameter must be '&self'"
  | genericMethod => "generic methods are not supported in a rest_client trait"
  | roleOnMethod kind => kind.displayName ++ " can only be used on parameters"
  | notAnnotated => "Method not annotated"
  | twoVerbs first second =>
    (Marker.verb first).displayName ++ " and " ++ (Marker.verb second).displayName ++
      " founds, method can only contains one"
  | noUrl => "Url not found"
  | urlTwice verb => "@Url cannot be used with a URL in " ++ (Marker.verb verb).displayName
  | bothEncodings => "@FormUlrEconded and @Multipart not supported together"
  | verbNeedsString verb => (Marker.verb verb).displayName ++ " expects a URL string literal"
  | takesNoArguments marker => marker.displayName ++ " does not take arguments"
  | parameterPattern => "parameter must be a simple identifier"
  | methodMarkerOnParameter marker => marker.displayName ++ " can only be used on methods"
  | twoRoles => "Multiple annotations found on parameter"
  | borrowedCallback => "Callback must be passed by value"
  | callbackNotLast => "Callback must be the last parameter"
  | noRole => "No annotation found on parameter"
  | implTrait => "impl Trait parameters are only supported for callbacks"
  | notStringMap kind => kind.displayName ++ " must be a Map with a String key"
  | fieldOutsideForm => "@Field(Map) only allowed in @FormUrlEncoded method"
  | partOutsideMultipart => "@Part(Map) only allowed in @Multipart method"
  | bodyInForm => "@Body not allowed in @FormUrlEncoded method"
  | bodyInMultipart => "@Body not allowed in @Multipart method"
  | twoBodies => "Multiple @Body found"
  | twoUrls => "Multiple @Url found"
  | urlNotString => "@Url must be a String"
  | placeholderInQuery =>
    "URL query string must not have replace block. For dynamic query parameters use @Query"
  | missingPath name => "@Path for \x7b" ++ name ++ "\x7d not found"
  | pathCount =>
    "The number of expressions in the url does not match with the number of @Path"
  | callbackReturns => "Async with Callback need void in method return"
  | unsupportedReturn =>
    "Unsupported return type, expected Result<T>, ResponseStream<T> or a trailing " ++
      "ResponseCallback parameter"
  | resultNotAsync => "Method returning Result must be async"
  | asyncCallback => "Callback and stream methods must not be async"
  | genericTrait => "generic traits are not supported by rest_client"
  | supertraits => "supertraits are not supported by rest_client"
  | notMethod => "only methods are supported in a rest_client trait"
  | defaultBody => "trait methods must not have a default body"
  | notTrait => "#[rest_client] can only be applied to a trait"

end RestClient
