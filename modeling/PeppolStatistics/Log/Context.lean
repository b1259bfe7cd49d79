import PeppolStatistics.Value.Fault

/-!
# The log context

Every log line carries up to three fields that say what the work in hand is about. They are set,
cleared, or bound for the duration of a block; after a block the context is what it was before,
however the block ends. Part 2 runs programs made of such steps.
-/

namespace PeppolStatistics

/-! ## 1. Contexts -/

/-- The fields of the log context. -/
inductive ContextField where
  | correlationId
  | reportType
  | reporterId
deriving DecidableEq, Repr

namespace ContextField

/-- All fields, in the order in which lines show them. -/
def all : List ContextField := [.correlationId, .reportType, .reporterId]

/-- The name of a field. -/
def name : ContextField → String
  | .correlationId => "correlation_id"
  | .reportType => "report_type"
  | .reporterId => "reporter_id"

/-- The field with a name. -/
def ofName? (s : String) : Option ContextField := all.find? fun f => f.name == s

@[simp] theorem ofName?_name (f : ContextField) : ofName? f.name = some f := by
  cases f <;> simp [ofName?, all, name]

end ContextField

/-- The values of the fields that are set. -/
structure LogContext where
  value? : ContextField → Option Value

namespace LogContext

instance : Inhabited LogContext := ⟨⟨fun _ => none⟩⟩

/-- The context in which nothing is set. -/
def empty : LogContext := ⟨fun _ => none⟩

/-- The fields that are set, with their names. -/
def toEntries (c : LogContext) : List (String × Value) :=
  ContextField.all.filterMap fun f => (c.value? f).map fun v => (f.name, v)

/-- Sets one field; nothing leaves it as it is. -/
def put (c : LogContext) (f : ContextField) : Value → LogContext
  | .null => c
  | v => ⟨fun g => if g = f then some v else c.value? g⟩

@[simp] theorem put_null (c : LogContext) (f : ContextField) : c.put f .null = c := rfl

/-- The names among some updates that are no fields, each once, in ascending order. -/
def unknownNames (updates : List (String × Value)) : List String :=
  (distinct ((updates.map (·.1)).filter fun n => (ContextField.ofName? n).isNone)).mergeSort
    fun a b => a ≤ b

/-- The name under which a call on the context takes the context itself. -/
def ownName : String := "cls"

/-- The context with some fields updated. Every name must be that of a field; nothing can be given
    under the name of the context itself. -/
def merge (c : LogContext) (updates : List (String × Value)) : Except Failure LogContext :=
  if updates.any fun u => u.1 == ownName then .error .wrongType
  else if (unknownNames updates).isEmpty then
    .ok (updates.foldl (fun c u => match ContextField.ofName? u.1 with
      | some f => c.put f u.2
      | none => c) c)
  else .error (.unknownContextFields (unknownNames updates))

end LogContext

/-! ## 2. Programs -/

/-- A step of a program on the context. -/
inductive ContextStep where
  | set (fields : List (String × Value))
  | clear
  /-- Sets the fields for the duration of the steps. -/
  | bind (fields : List (String × Value)) (body : List ContextStep)
  /-- Fails, which ends the block in which the step stands. -/
  | raise (text : String)

/-- What is seen after a step: the context, and the failure if the step had one. -/
structure ContextSnapshot where
  failure : Option Failure
  context : LogContext

/-- The course of some steps: the context at the end, what was seen on the way, and the failure
    that ended them before their end. -/
structure ContextRun where
  context : LogContext
  snapshots : List ContextSnapshot
  raised : Option Failure

namespace ContextStep

mutual

/-- Runs one step. A block that ends with a failure does not hand it on. -/
def run (c : LogContext) : ContextStep → ContextRun
  | .set fields =>
    match c.merge fields with
    | .ok c' => ⟨c', [⟨none, c'⟩], none⟩
    | .error e => ⟨c, [⟨some e, c⟩], none⟩
  | .clear => ⟨.empty, [⟨none, .empty⟩], none⟩
  | .raise text => ⟨c, [⟨some (.raised text), c⟩], some (.raised text)⟩
  | .bind fields body =>
    match c.merge fields with
    | .error e => ⟨c, [⟨some e, c⟩], none⟩
    | .ok inner =>
      let r := runAll inner body
      ⟨c, ⟨none, inner⟩ :: r.snapshots ++ [⟨r.raised, c⟩], none⟩

/-- Runs some steps until one fails. -/
def runAll (c : LogContext) : List ContextStep → ContextRun
  | [] => ⟨c, [], none⟩
  | step :: steps =>
    let r := run c step
    match r.raised with
    | some e => ⟨r.context, r.snapshots, some e⟩
    | none =>
      let rest := runAll r.context steps
      ⟨rest.context, r.snapshots ++ rest.snapshots, rest.raised⟩

end

/-- Runs a program from the empty context: outside of all blocks a failure ends nothing. -/
def runProgram (steps : List ContextStep) : List ContextSnapshot :=
  (steps.foldl (fun (s : LogContext × List ContextSnapshot) step =>
    let r := run s.1 step
    (r.context, s.2 ++ r.snapshots)) (.empty, [])).2

end ContextStep

end PeppolStatistics
