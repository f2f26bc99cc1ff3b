import RestClient.DomainName.AsciiForm
import RestClient.DomainName.Direction
import RestClient.DomainName.Joining
import RestClient.DomainName.Punycode
import RestClient.Text.Basic

/-!
# The form of a domain name

A domain name as it is looked up: capital letters and other variants stand for their usual forms,
and characters that leave no trace are gone. Every label has to keep the rules for marks, joiners,
writing directions and encoded labels.

## Main definitions

- `form?` — the form of a domain name, if it has one
-/

namespace RestClient.DomainName

open Text (segments)

/-- ASCII characters that no host has. -/
def isForbidden (c : Char) : Bool :=
  c.toNat ≤ 0x20 || c.toNat == 0x7f || "%#/:<>?@[\\]^|".toList.contains c

/-- The form of one character. Where the form has no ASCII in it, the character stands for it. -/
def charForm? (c : Char) : Option (List Char) :=
  if c.toNat < 0x80 then some [if 'A' ≤ c && c ≤ 'Z' then Char.ofNat (c.toNat + 32) else c]
  else if isDisallowed c then none
  else if isIgnored c then some []
  else if isSettled c then some [c]
  else some ((asciiForm? c).getD [c])

/-- Whether a label is encoded. -/
def isEncoded (label : List Char) : Bool :=
  "xn--".toList.isPrefixOf label

/-- Whether a label that has characters beyond ASCII keeps the rules for marks and joiners. -/
def isWellFormed (label : List Char) : Bool :=
  (match label with
    | c :: _ => !isMark c
    | [] => true) && joinersFit [] label

/-- A label as it reads, decoded if it is encoded. -/
def readLabel? (label : List Char) : Option (List Char) :=
  if isEncoded label then
    match decodeLabel? (label.drop 4) with
    | some decoded =>
      if (decoded.any fun c => 0x80 ≤ c.toNat) && decoded.all isSettled && isWellFormed decoded then
        some decoded
      else none
    | none => none
  else if isWellFormed label then some label
  else none

/-- The form of a domain name. -/
def form? (name : List Char) : Option (List Char) :=
  match (name.mapM charForm?).map List.flatten with
  | none => none
  | some form =>
    if form.any isForbidden then none
    else
      match (segments '.' form).mapM readLabel? with
      | none => none
      | some labels =>
        if labels.any needsDirection && !labels.all hasDirection then none else some form

end RestClient.DomainName
