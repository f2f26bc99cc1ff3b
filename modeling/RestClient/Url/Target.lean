import RestClient.Url.Validity

/-!
# Request targets

What a request line says of a URL: the path without its dot segments, and the query, each with its
special characters escaped. The fragment is not sent. A backslash in a path is a slash.

## Main definitions

- `authority` — what stands between the double slash and the path
- `pathSegments` — the segments of a path, the dot segments resolved
- `target` — the target of a request
-/

namespace RestClient.Url

/-- What stands behind the scheme and the slashes of a URL. -/
def behindSlashes (text : List Char) : List Char :=
  match scheme? (tidy text) with
  | some (_, rest) => rest.dropWhile isSlash
  | none => []

/-- The host of a URL with the user before it and the port behind it. -/
def authority (text : List Char) : List Char :=
  (behindSlashes text).takeWhile fun c => !endsAuthority true c

/-! ### Paths -/

/-- A segment with its escaped dots as dots. -/
def unescapeDots : List Char → List Char
  | '%' :: '2' :: c :: rest =>
    if c == 'e' || c == 'E' then '.' :: unescapeDots rest
    else '%' :: unescapeDots ('2' :: c :: rest)
  | c :: rest => c :: unescapeDots rest
  | [] => []

/-- A segment that stands for its own folder. -/
def isDot (segment : List Char) : Bool :=
  unescapeDots segment == ['.']

/-- A segment that stands for the folder above. -/
def isDoubleDot (segment : List Char) : Bool :=
  unescapeDots segment == ['.', '.']

/-- The folder above, given by its segments from the last one on. The letter of a drive stays. -/
def parent : List (List Char) → List (List Char)
  | [] => []
  | segment :: before => if isDrive segment then segment :: before else before

/-- The segments of a path from the last one on, after `before`. A dot segment at the end leaves a
slash. -/
def resolveDots (before : List (List Char)) : List (List Char) → List (List Char)
  | [] => before
  | segment :: rest =>
    if isDoubleDot segment then
      resolveDots (if rest.isEmpty then [] :: parent before else parent before) rest
    else if isDot segment then resolveDots (if rest.isEmpty then [] :: before else before) rest
    else resolveDots (segment :: before) rest

/-- The segments of a path that follows its first slash, the dot segments resolved. -/
def pathSegments (path : List Char) : List (List Char) :=
  let plain := path.map fun c => if isSlash c then '/' else c
  (resolveDots [] (Text.segments '/' plain)).reverse

/-! ### Targets -/

/-- The ASCII characters that are escaped in paths. -/
def escapedInPath : List Char :=
  [' ', '"', '#', '<', '>', '?', '\x60', '{', '}']

/-- The ASCII characters that are escaped in queries. -/
def escapedInQuery : List Char :=
  [' ', '"', '#', '<', '>', '\'']

/-- Whether an octet stands as it is where some characters are escaped, and all that is no visible
ASCII. -/
def standsBeside (escaped : List Char) (b : UInt8) : Bool :=
  0x20 ≤ b && b < 0x7f && !escaped.contains (Text.charOfOctet b)

/-- The target of a request for a URL. -/
def target (text : List Char) : List Char :=
  let rest := (behindSlashes text).dropWhile fun c => !endsAuthority true c
  let sent := rest.takeWhile (· != '#')
  let path := sent.takeWhile (· != '?')
  let query :=
    match sent.dropWhile (· != '?') with
    | [] => []
    | _ :: query => '?' :: Text.escapeBy (standsBeside escapedInQuery) query
  let segments := (pathSegments (path.drop 1)).map (Text.escapeBy (standsBeside escapedInPath))
  '/' :: ['/'].intercalate segments ++ query

end RestClient.Url
