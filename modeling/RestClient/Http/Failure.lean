import RestClient.Client.ConverterKind
import RestClient.Text.Octets
import RestClient.Url.Host

/-!
# Failures

Why a call fails while it runs, and how that is told.

## Main definitions

- `Cause` — what is behind a failed conversion or transmission
- `Failure` — the failures, with `Failure.message`
-/

namespace RestClient.Http

open Text (Octets Utf8Fault)
open Url (UrlFault)

/-- What is behind a failure: something with a text of its own, octets that are no text, a fault in
a JSON text or value, or a fault below HTTP. The wording of the last two is not told. -/
inductive Cause where
  | told (text : String)
  | notText (fault : Utf8Fault)
  | json
  | network
  deriving DecidableEq, Repr

/-- The wording of a cause. -/
def Cause.message? : Cause → Option String
  | told text => some text
  | notText fault => some fault.message
  | json | network => none

/-- Why a call fails: the address of the request is no URL, there is no converter for a type, a
value cannot be converted, nothing is received, the response is not a success, or a rule of the
client is broken. -/
inductive Failure where
  | invalidUrl (url : String) (fault : UrlFault)
  | missingConverter (kind : ConverterKind) (typeName : String)
  | conversion (cause : Cause)
  | transport (cause : Cause)
  | status (code : Nat) (body : Octets)
  | rule (text : String)
  deriving DecidableEq, Repr

namespace Failure

/-- The wording of a failure, unless the wording of its cause is not told. -/
def message? : Failure → Option String
  | invalidUrl url fault => some ("invalid request url \x60" ++ url ++ "\x60: " ++ fault.message)
  | missingConverter kind typeName =>
    some ("converter factory has no " ++ kind.text ++ " converter for \x60" ++ typeName ++ "\x60")
  | conversion cause => cause.message?.map ("conversion failed: " ++ ·)
  | transport cause => cause.message?.map ("transport failed: " ++ ·)
  | status code _ => some ("unexpected http status " ++ toString code)
  | rule text => some text

/-- The code of a response that is not a success. -/
def statusCode? : Failure → Option Nat
  | status code _ => some code
  | _ => none

/-- Whether another failure is behind this one. -/
def hasCause : Failure → Bool
  | invalidUrl .. | conversion _ | transport _ => true
  | _ => false

end Failure

end RestClient.Http
