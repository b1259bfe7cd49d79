import PeppolStatistics.Value.Equality
import PeppolStatistics.Yaml.Node.Reader
import PeppolStatistics.Yaml.Scalar.Number

/-!
# What nodes contain

The value of a node. A tree may have several nodes without value; the failure that counts is the
one nearest to the root, and of several at one depth the first in the text. `Yaml.load` gives the
value of a whole text.
-/

namespace PeppolStatistics

namespace Yaml

/-! ## 1. Scalars -/

/-- The value of a timestamp. -/
def timestampValue (t : TimestampText) : Except Failure Value :=
  match t.clock with
  | none => ((Date.ofParts t.year t.month t.day).mapError .dateText).map .date
  | some clock => ((t.dateTime clock).mapError .dateText).map .dateTime

/-- The value of a scalar whose text has the form that its tag asks for. -/
def scalarValue (tag : Tag) (s : String) : Except Failure Value :=
  match tag with
  | .null => .ok .null
  | .text => .ok (.text s)
  | .bool =>
    match truthValue? s with
    | some b => .ok (.bool b)
    | none => .error .markup
  | .int => if isWholeNumber s.toList then (wholeNumber s.toList).map .int else .error .markup
  | .float => if isRealNumber s.toList then .ok (.real (realNumber s.toList)) else .error .markup
  | .timestamp =>
    match timestampText? s.toList with
    | some t => timestampValue t
    | none => .error .markup
  | .merge | .default | .sequence | .mapping | .unknown => .error .markup

/-! ## 2. Failures in a tree -/

/-- A failure with its depth below a node. -/
structure PlacedFailure where
  depth : Nat
  failure : Failure

/-- The value of a node, or the failure that counts. -/
abbrev Placed := Except PlacedFailure

/-- Of two failures the one nearer to the root, the first one if they are at one depth. -/
def PlacedFailure.first (a b : PlacedFailure) : PlacedFailure := if b.depth < a.depth then b else a

/-- Two results together; the failure that counts if one has no value. -/
def both {α β γ : Type} (f : α → β → γ) (a : Placed α) (b : Placed β) : Placed γ :=
  match a, b with
  | .ok x, .ok y => .ok (f x y)
  | .error e, .ok _ => .error e
  | .ok _, .error e => .error e
  | .error e, .error e' => .error (e.first e')

/-- A result at a node as a result below the node that holds it. -/
def below {α : Type} (a : Placed α) : Placed α := a.mapError fun e => { e with depth := e.depth + 1 }

/-- A result of the node itself. -/
def here {α : Type} (a : Except Failure α) : Placed α := a.mapError fun e => ⟨0, e⟩

/-! ## 3. Nodes -/

/-- A value as a key, which must be an element of sets. -/
def asKey (v : Value) : Except Failure Value := if v.hashable then .ok v else .error .markup

mutual

/-- The value of a node. -/
def Node.value : Node → Placed Value
  | .scalar tag text => here (scalarValue tag text)
  | .sequence tag elements =>
    if tag = .sequence then (below (elementValues elements)).map .list else here (.error .markup)
  | .mapping tag entries =>
    if tag = .mapping then (below (entryValues entries)).map Value.dictOf
    else here (.error .markup)
  | .malformed => here (.error .markup)

/-- The values of some nodes. -/
def elementValues : List Node → Placed (List Value)
  | [] => .ok []
  | n :: rest => both (· :: ·) n.value (elementValues rest)

/-- The values of some entries. A list or a dictionary is no key, whatever it holds. -/
def entryValues : List (Node × Node) → Placed (List (Value × Value))
  | [] => .ok []
  | (k, v) :: rest =>
    let key := match k with
      | .scalar _ _ => k.value
      | _ => here (.error .markup)
    both (· :: ·) (both Prod.mk (key.bind fun v => here (asKey v)) v.value) (entryValues rest)

end

/-! ## 4. Texts -/

/-- The value of a text: that of its document, or nothing if it has none. -/
def load (text : String) : Except Failure Value := do
  match ← Node.ofText? (normalBreaks text.toList) with
  | none => return .null
  | some node => node.value.mapError (·.failure)

end Yaml

end PeppolStatistics
