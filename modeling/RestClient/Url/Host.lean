import RestClient.DomainName.Form
import RestClient.Text.Escape

/-!
# Hosts

The part of a URL that names a machine: a domain name, an address of four numbers, an address of
eight groups in brackets, or plain text where the scheme gives hosts no meaning.

## Main definitions

- `UrlFault` — why a URL is not valid, with its wording
- `namedHostFault?` — what is wrong with a host that is looked up
- `plainHostFault?` — what is wrong with a host that is not
-/

namespace RestClient.Url

open Text (segments hexValue?)

/-- Why a URL is not valid. -/
inductive UrlFault where
  | emptyHost
  | domainName
  | port
  | ipv4
  | ipv6
  | hostCharacter
  | noScheme
  deriving DecidableEq, Repr

/-- The wording of a fault. -/
def UrlFault.message : UrlFault → String
  | emptyHost => "empty host"
  | domainName => "invalid international domain name"
  | port => "invalid port number"
  | ipv4 => "invalid IPv4 address"
  | ipv6 => "invalid IPv6 address"
  | hostCharacter => "invalid domain character"
  | noScheme => "relative URL without a base"

/-- A decimal digit. -/
def isDigit (c : Char) : Bool :=
  '0' ≤ c && c ≤ '9'

/-- The number that digits write in a base, if all of them are digits of it. -/
def numberIn? (base : Nat) (cs : List Char) : Option Nat :=
  cs.foldl (fun n c =>
    match n, hexValue? c with
    | some n, some d => if d < base then some (n * base + d) else none
    | _, _ => none) (some 0)

/-! ### Addresses of four numbers -/

/-- A number in an address: decimal, octal behind a zero, or hexadecimal behind `0x`. -/
def addressNumber? : List Char → Option Nat
  | [] => none
  | '0' :: 'x' :: digits | '0' :: 'X' :: digits => numberIn? 16 digits
  | '0' :: c :: digits => numberIn? 8 (c :: digits)
  | digits => numberIn? 10 digits

/-- The parts of a name between its dots; a dot at the end is not one that separates. -/
def dottedParts (name : List Char) : List (List Char) :=
  match (segments '.' name).reverse with
  | [] :: rest => rest.reverse
  | parts => parts.reverse

/-- Whether the last part of a name is a number, which makes an address of it. -/
def endsInNumber (name : List Char) : Bool :=
  match (dottedParts name).getLast? with
  | some part => (!part.isEmpty && part.all isDigit) || (addressNumber? part).isSome
  | none => false

/-- Whether a name is an address of up to four numbers. All but the last are octets, and the last
fills the octets that are left. -/
def isIpv4 (name : List Char) : Bool :=
  let parts := dottedParts name
  match parts.mapM addressNumber? with
  | some numbers =>
    match numbers.reverse with
    | last :: others =>
      others.length ≤ 3 && others.all (· ≤ 255) && last < Nat.pow 256 (4 - others.length)
    | [] => false
  | none => false

/-! ### Addresses in brackets -/

/-- A decimal number from 0 to 255 without zeros in front. -/
def isOctetText (cs : List Char) : Bool :=
  match numberIn? 10 cs with
  | some n => n ≤ 255 && (cs.length == 1 || (!cs.isEmpty && cs.head? != some '0'))
  | none => false

/-- Four decimal octets with dots between them. -/
def isDottedQuad (cs : List Char) : Bool :=
  let parts := segments '.' cs
  parts.length == 4 && parts.all isOctetText

/-- A hexadecimal digit. -/
def isHexDigit (c : Char) : Bool :=
  (hexValue? c).isSome

/-- How many of the first four characters are hexadecimal digits before another one. -/
def groupLength (cs : List Char) : Nat :=
  ((cs.take 4).takeWhile isHexDigit).length

/-- Whether `cs` goes on with an address that has `count` groups so far. `elided` says that a double
colon stands for missing groups. -/
def ipv6Rest (count : Nat) (elided : Bool) (cs : List Char) : Bool :=
  match cs with
  | [] => elided || count == 8
  | c :: rest =>
    if count == 8 then false
    else if c == ':' then !elided && ipv6Rest (count + 1) true rest
    else
      let size := groupLength (c :: rest)
      match h : (c :: rest).drop size with
      | [] => elided || count == 7
      | ':' :: after => !after.isEmpty && ipv6Rest (count + 1) elided after
      | '.' :: _ =>
        size != 0 && count ≤ 6 && isDottedQuad (c :: rest) && (elided || count == 6)
      | _ => false
  termination_by cs.length
  decreasing_by
    · simp
    · have := congrArg List.length h
      simp only [List.length_drop, List.length_cons] at this
      simp only [List.length_cons]
      omega

/-- Whether a text is an address of eight groups. -/
def isIpv6 : List Char → Bool
  | ':' :: ':' :: rest => ipv6Rest 1 true rest
  | ':' :: _ => false
  | cs => 2 ≤ cs.length && ipv6Rest 0 false cs

/-- What is wrong with a host that starts with a bracket; `rest` is what follows it. -/
def bracketFault? (rest : List Char) : Option UrlFault :=
  if rest.getLast? == some ']' && isIpv6 rest.dropLast then none else some .ipv6

/-! ### Hosts -/

/-- What is wrong with a host that is looked up. -/
def namedHostFault? (host : List Char) : Option UrlFault :=
  match host with
  | '[' :: rest => bracketFault? rest
  | _ =>
    match Text.readUtf8 (Text.unescape (Text.utf8 host)) with
    | .error _ => some .domainName
    | .ok name =>
      match DomainName.form? name with
      | none => some .domainName
      | some form =>
        if form.isEmpty then some .emptyHost
        else if endsInNumber form && !isIpv4 form then some .ipv4
        else none

/-- What is wrong with a host that is not looked up. -/
def plainHostFault? (host : List Char) : Option UrlFault :=
  match host with
  | '[' :: rest => bracketFault? rest
  | _ =>
    if host.any fun c => "\x00\t\n\r #/:<>?@[\\]^|".toList.contains c then some .hostCharacter
    else none

end RestClient.Url
