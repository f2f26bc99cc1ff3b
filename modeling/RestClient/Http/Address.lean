import RestClient.Text.Escape

/-!
# Addresses

The address of a request, put together from the base address of a client and the address that a
method or a caller gives, and the values that stand in it.

## Main definitions

- `isAbsolute` — an address that needs no base
- `resolve` — a base and an address joined
- `encodePair`, `encodePathValue` — what stands in a query or a form, and in a path
- `isTraversal` — a value that a path does not keep
-/


namespace RestClient.Http

/-- An ASCII letter in lower case, any other character as it is. -/
def lowerAscii (c : Char) : Char :=
  if 'A' ≤ c && c ≤ 'Z' then Char.ofNat (c.toNat + 32) else c

/-- A text with its ASCII letters in lower case. -/
def lowerAsciiText (s : String) : String :=
  String.ofList (s.toList.map lowerAscii)

/-- An address that starts with `http://` or `https://` in any case. -/
def isAbsolute (address : List Char) : Bool :=
  let lower := address.map lowerAscii
  "http://".toList.isPrefixOf lower || "https://".toList.isPrefixOf lower

/-- `address` under `base`: an absolute address stays as it is, any other one follows the base
after exactly one slash. An empty base or an empty address leaves the other one. -/
def resolve (base address : List Char) : List Char :=
  if isAbsolute address || base.isEmpty then address
  else if address.isEmpty then base
  else
    (base.reverse.dropWhile (· == '/')).reverse ++ '/' :: address.dropWhile (· == '/')

/-! ### Values -/

/-- A name and a value as they stand in a query or a form. -/
def encodePair (name value : String) (encoded : Bool) : List Char :=
  if encoded then name.toList ++ '=' :: value.toList
  else Text.escapeForm name.toList ++ '=' :: Text.escapeForm value.toList

/-- A value as it stands in a path. -/
def encodePathValue (value : String) (encoded : Bool) : List Char :=
  if encoded then value.toList else Text.escapePath value.toList

/-- A value that would leave its place in a path. -/
def isTraversal (value : String) : Bool :=
  value == "." || value == ".."

end RestClient.Http
