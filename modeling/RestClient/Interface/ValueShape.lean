import RestClient.Interface.Marker
import RestClient.Interface.TypeQuery

/-!
# Shapes of values

How the value of a parameter contributes to a request: once, perhaps once, once for each element,
or once for each entry.

## Main definitions

- `ValueShape` — the shapes
- `classify` — the shape of a type under a role, with the type of the single contributions
-/

namespace RestClient

open Code (TypeExpr)
open Code.TypeExpr (TypeClass)

/-- How often a value contributes. -/
inductive ValueShape where
  | single
  | optional
  | repeated
  | map
  deriving DecidableEq, Repr

/-- The name of a shape. -/
def ValueShape.text : ValueShape → String
  | single => "Single"
  | optional => "Optional"
  | repeated => "Repeated"
  | map => "Map"

/-- The kinds whose values may be missing. -/
def RoleKind.mayBeOptional : RoleKind → Bool
  | .query | .field | .header | .part => true
  | _ => false

/-- The kinds that take each element of a sequence on its own. -/
def RoleKind.mayBeRepeated : RoleKind → Bool
  | .query | .field => true
  | _ => false

/-- The shape of a map of strings, with the type of its values. -/
def classifyMap (t : TypeExpr) : Option (ValueShape × TypeExpr) :=
  if t.belongsTo .map then
    match t.argument? 0, t.argument? 1 with
    | some key, some value =>
      if key.belongsTo .str then some (.map, value.strip) else none
    | _, _ => none
  else none

/-- The shape of a type under a role, with the type that a single contribution is made of; `none`
where the role does not fit. -/
def classify (t : TypeExpr) (kind : RoleKind) : Option (ValueShape × TypeExpr) :=
  let t := t.strip
  if kind.isMap then classifyMap t
  else if kind.mayBeOptional && t.isKnown "Option" then
    (t.argument? 0).map fun inner => (.optional, inner.strip)
  else if kind.mayBeRepeated && t.belongsTo .sequence && !t.belongsTo .bytes then
    t.element?.map fun element => (.repeated, element.strip)
  else some (.single, t)

end RestClient
