import PeppolStatistics.Value.Render

/-!
# Exceptions as values

An exception that travels as a value carries its arguments and the attributes that were set on it.
The exceptions of the library name their arguments, so these are attributes from the start, and
make a sentence of them at once; an attribute that is set again keeps its place. Under one name the
arguments themselves are set anew: then they make the text of the exception, and no attribute comes
of it.
-/

namespace PeppolStatistics

namespace Value

/-- The names of the arguments of an exception, and how many of them must be given; nothing if
    arguments are not named. -/
def argumentNames : FaultKind → Option (List String × Nat)
  | .validation => some (["field", "reason"], 2)
  | .incompleteConfiguration => some (["report_type", "field"], 1)
  | .reportingBackend => some (["operation", "reason"], 2)
  | _ => none

/-- The attributes that the arguments of an exception make. -/
def ownAttributes (kind : FaultKind) (args : List Value) : List (String × Value) :=
  match argumentNames kind with
  | none => []
  | some (names, _) => names.zip (args ++ List.replicate (names.length - args.length) .null)

/-- All attributes of an exception, in the order in which they were first set. -/
def faultAttributes (kind : FaultKind) (args : List Value) (set : List (String × Value)) :
    List (String × Value) :=
  Document.collapse (ownAttributes kind args ++ set.filter fun a => a.1 ≠ argumentsName)

/-- The code of an exception: the attribute of that name, or the code of its kind. -/
def faultCode (kind : FaultKind) (set : List (String × Value)) : Value :=
  match (Document.collapse set).lookup "code" with
  | some v => v
  | none => (kind.code?.map Value.text).getD .null

/-- An attribute as it is set: arguments must be something to run through, and are kept as a
    tuple. -/
def setAttribute (a : String × Value) : Except Failure (String × Value) :=
  if a.1 = argumentsName then
    match a.2.elements? with
    | some vs => .ok (a.1, .tuple vs)
    | none => .error .wrongType
  else .ok a

/-- An exception with arguments and attributes; named arguments must have the right number. -/
def faultOf (kind : FaultKind) (args : List Value) (set : List (String × Value)) :
    Except Failure Value :=
  match argumentNames kind with
  | none => (set.mapM setAttribute).map (.fault kind args)
  | some (names, least) =>
    if least ≤ args.length ∧ args.length ≤ names.length then do
      let _ ← (Value.fault kind args []).toText
      (set.mapM setAttribute).map (.fault kind args)
    else .error .wrongType

end Value

end PeppolStatistics
