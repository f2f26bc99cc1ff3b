import RestClient.Url.Host

/-!
# Valid URLs

Whether a text is a URL on its own, without another one that it is relative to. A URL has a scheme;
where the scheme asks for a host, the host and the port behind it have to be well-formed.

## Main definitions

- `SchemeKind` — what a scheme asks for
- `authorityFault?` — what is wrong with what stands behind the double slash
- `fault?` — what is wrong with a text as a URL
-/

namespace RestClient.Url

/-- What a scheme asks for: a host that is looked up, a host or none, or nothing. -/
inductive SchemeKind where
  | web
  | file
  | other
  deriving DecidableEq, Repr

/-- The kind of a scheme, which is in lower case. -/
def SchemeKind.of (scheme : List Char) : SchemeKind :=
  if ["http", "https", "ws", "wss", "ftp"].any fun s => s.toList == scheme then .web
  else if "file".toList == scheme then .file
  else .other

/-- A text as it is read: without control characters and spaces around it, and without tabs and
line ends in it. -/
def tidy (cs : List Char) : List Char :=
  let trimmed := ((cs.dropWhile (· ≤ ' ')).reverse.dropWhile (· ≤ ' ')).reverse
  trimmed.filter fun c => c != '\t' && c != '\n' && c != '\r'

/-- An ASCII letter. -/
def isLetter (c : Char) : Bool :=
  ('a' ≤ c && c ≤ 'z') || ('A' ≤ c && c ≤ 'Z')

/-- A character of a scheme after its first. -/
def isSchemeRest (c : Char) : Bool :=
  isLetter c || isDigit c || c == '+' || c == '-' || c == '.'

/-- The scheme of a URL in lower case, and what follows the colon behind it. -/
def scheme? (cs : List Char) : Option (List Char × List Char) :=
  match cs with
  | c :: _ =>
    if isLetter c then
      match cs.dropWhile isSchemeRest with
      | ':' :: rest =>
        some ((cs.takeWhile isSchemeRest).map fun c =>
          if 'A' ≤ c && c ≤ 'Z' then Char.ofNat (c.toNat + 32) else c, rest)
      | _ => none
    else none
  | [] => none

/-- A character behind which the authority of a URL has ended. A backslash ends that of a scheme
with hosts that are looked up. -/
def endsAuthority (web : Bool) (c : Char) : Bool :=
  c == '/' || c == '?' || c == '#' || (web && c == '\\')

/-- The text behind the last `@`, and the text before it. -/
def splitUser (authority : List Char) : Option (List Char) × List Char :=
  let host := (authority.reverse.takeWhile (· != '@')).reverse
  if host.length < authority.length then
    (some (authority.take (authority.length - host.length - 1)), host)
  else (none, authority)

/-- The host at the front of an authority, up to a colon outside brackets, and what follows. -/
def splitHost (inBrackets : Bool) : List Char → List Char × List Char
  | [] => ([], [])
  | c :: rest =>
    if c == ':' && !inBrackets then ([], c :: rest)
    else
      let (host, after) := splitHost (c == '[' || (inBrackets && c != ']')) rest
      (c :: host, after)

/-- What is wrong with a port: it has to be a number of 16 bits, or empty. -/
def portFault? (digits : List Char) : Option UrlFault :=
  match numberIn? 10 digits with
  | some n => if n < 65536 then none else some .port
  | none => some .port

/-- What is wrong with what stands behind the double slash. -/
def authorityFault? (web : Bool) (cs : List Char) : Option UrlFault :=
  let authority := cs.takeWhile fun c => !endsAuthority web c
  let after := cs.dropWhile fun c => !endsAuthority web c
  let (user, hostAndPort) := splitUser authority
  let (host, rest) := splitHost false hostAndPort
  if user == some [] && hostAndPort.isEmpty && !after.isEmpty then some .emptyHost
  else if web && host.isEmpty then some .emptyHost
  else
    match if web then namedHostFault? host else plainHostFault? host with
    | some fault => some fault
    | none =>
      let portFault :=
        match rest with
        | _ :: port =>
          if host.isEmpty then some .emptyHost
          else portFault? (if web then port else port.takeWhile (· != '\\'))
        | [] => none
      match portFault with
      | some fault => some fault
      | none =>
        let named := user != none && user != some [] && user != some [':']
        if host.isEmpty && named then some .emptyHost else none

/-- A letter of a drive instead of a host. -/
def isDrive : List Char → Bool
  | [c, d] => isLetter c && (d == ':' || d == '|')
  | _ => false

/-- Whether a character is a slash of either kind. -/
def isSlash (c : Char) : Bool :=
  c == '/' || c == '\\'

/-- What is wrong with the URL of a file behind its scheme. -/
def fileFault? (cs : List Char) : Option UrlFault :=
  match cs with
  | a :: b :: rest =>
    if isSlash a && isSlash b then
      let host := rest.takeWhile fun c => !endsAuthority true c
      if host.isEmpty || isDrive host then none else namedHostFault? host
    else none
  | _ => none

/-- What is wrong with a text as a URL. -/
def fault? (text : List Char) : Option UrlFault :=
  match scheme? (tidy text) with
  | none => some .noScheme
  | some (scheme, rest) =>
    match SchemeKind.of scheme with
    | .web => authorityFault? true (rest.dropWhile isSlash)
    | .file => fileFault? rest
    | .other =>
      match rest with
      | '/' :: '/' :: rest => authorityFault? false rest
      | _ => none

end RestClient.Url
