import PeppolStatistics.Value.Render

/-!
# Subsets of a report

A report names a group of items by its type, made of the short names of the dimensions, and by one
key per dimension. A key carries the short name of its dimension, a scheme and a value: an
identifier keeps its own scheme, every other value has the scheme of its dimension.
-/

namespace PeppolStatistics

/-! ## 1. Short names and schemes -/

namespace Dimension

/-- The short name of a dimension. -/
def metaScheme : Dimension → String
  | .endUserCountry => "CC"
  | .documentType => "DT"
  | .process => "PR"
  | .direction => "DIR"
  | .transportProtocol => "TP"

/-- The scheme of the values of a dimension that are no identifiers. -/
def valueScheme : Dimension → String
  | .endUserCountry => "EndUserCountry"
  | .documentType => ""
  | .process => ""
  | .direction => "Direction"
  | .transportProtocol => "Peppol"

end Dimension

/-- The type of the subsets by some dimensions. -/
def subsetType (dims : List Dimension) : String :=
  "Per" ++ "-".intercalate (dims.map (·.metaScheme))

/-! ## 2. Keys -/

/-- One key of a subset. -/
structure SubsetKey where
  metaSchemeId : String
  schemeId : String
  value : String
deriving DecidableEq, Repr

namespace SubsetKey

/-- The key of a field of a group key. -/
def ofField (d : Dimension) : KeyField → SubsetKey
  | .identifier i => ⟨d.metaScheme, i.scheme, i.value⟩
  | f => ⟨d.metaScheme, d.valueScheme, f.keyText⟩

/-- The value of the first key with a short name. -/
def valueOf? (metaScheme : String) (keys : List SubsetKey) : Option String :=
  (keys.find? fun k => k.metaSchemeId == metaScheme).map (·.value)

/-- A key as a value. -/
def toValue (k : SubsetKey) : Value :=
  .record "SubsetKey"
    [("meta_scheme_id", .text k.metaSchemeId), ("scheme_id", .text k.schemeId),
     ("value", .text k.value)]

/-- Keys are rendered as maps of their fields. -/
theorem hasDocument_tuple (keys : List SubsetKey) :
    (Value.tuple (keys.map toValue)).HasDocument := by
  refine .tuple fun v hv => ?_
  obtain ⟨k, _, rfl⟩ := List.mem_map.mp hv
  exact ⟨_, rfl⟩

end SubsetKey

/-- The keys of a group, one per dimension. -/
def GroupAggregate.subsetKeys (g : GroupAggregate) : List SubsetKey :=
  (g.dimensions.zip g.key).map fun p => .ofField p.1 p.2

/-- The dimensions that some values name, each as such or by its text. -/
def Dimension.ofValues : List Value → Except Failure (List Dimension)
  | [] => .ok []
  | v :: vs =>
    match v.asText?.bind Dimension.ofText? with
    | some d => do return d :: (← ofValues vs)
    | none => .error (v.refusal .notADimension)

end PeppolStatistics
