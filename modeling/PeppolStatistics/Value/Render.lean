import PeppolStatistics.Document.Json
import PeppolStatistics.Value.Printer

/-!
# Rendering

`render` turns any value into a plain document: library values become texts, records become maps
of their fields, keys become texts. Items, periods and figures are records too; their fields have
no parts. Numbers stay numbers, of any length, but a key or a text in which a number with too many
digits would have to be written cannot be made. A plain document is a value again
(`Document.toValue`), and rendering that value gives the document back.
-/

namespace PeppolStatistics

namespace Value

/-! ## 1. Values without parts -/

/-- A value without parts as a plain document: nothing, truth values, numbers and texts stay as
    they are, dates and identifiers have a written form, members of a class of texts become their
    texts, and every other value is shown as text. -/
def renderLeaf : Value → Except Failure Document
  | .null => .ok .null
  | .bool b => .ok (.bool b)
  | .int n => .ok (.int n)
  | .real x => .ok (.real x)
  | .text s => .ok (.text s)
  | .date d => .ok (.text d.iso)
  | .dateTime t => .ok (.text t.iso)
  | .direction d => .ok (.text d.text)
  | .dimension d => .ok (.text d.text)
  | .identifier i => .ok (.text i.uri)
  | v => v.toText.map .text

/-- Named values without parts as a map. -/
def renderLeaves (fields : List (String × Value)) : Except Failure Document := do
  return .map (← fields.mapM fun f => do return (f.1, ← renderLeaf f.2))

/-! ## 2. All values -/

mutual

/-- A value as a plain document. -/
def render : Value → Except Failure Document
  | .item i => renderLeaves (ofItem i)
  | .period p => renderLeaves (ofPeriod p)
  | .counts c => renderLeaves (ofCounts c)
  | .list vs => do return .list (← renderAll vs)
  | .tuple vs => do return .list (← renderAll vs)
  | .dict es => do return .map (Document.collapse (← renderEntries es))
  | .record _ fields => do return .map (← renderFields fields)
  | v => renderLeaf v

/-- Some values as plain documents. -/
def renderAll : List Value → Except Failure (List Document)
  | [] => .ok []
  | v :: vs => do return (← render v) :: (← renderAll vs)

/-- The entries of a dictionary with their keys as texts. -/
def renderEntries : List (Value × Value) → Except Failure (List (String × Document))
  | [] => .ok []
  | (k, v) :: es => do return (← k.toText, ← render v) :: (← renderEntries es)

/-- The fields of a record as plain documents. -/
def renderFields : List (String × Value) → Except Failure (List (String × Document))
  | [] => .ok []
  | (n, v) :: fields => do return (n, ← render v) :: (← renderFields fields)

end

/-! ## 3. Values that have a document -/

/-- The value can be rendered. -/
def HasDocument (v : Value) : Prop := ∃ d, v.render = .ok d

theorem exists_renderAll {vs : List Value} (h : ∀ v ∈ vs, v.HasDocument) :
    ∃ ds, renderAll vs = .ok ds := by
  induction vs with
  | nil => exact ⟨[], rfl⟩
  | cons v vs ih =>
    obtain ⟨d, hd⟩ := h v List.mem_cons_self
    obtain ⟨ds, hds⟩ := ih fun w hw => h w (List.mem_cons_of_mem v hw)
    exact ⟨d :: ds, by rw [renderAll, hd, hds]; rfl⟩

theorem HasDocument.tuple {vs : List Value} (h : ∀ v ∈ vs, v.HasDocument) :
    (Value.tuple vs).HasDocument := by
  obtain ⟨ds, hds⟩ := exists_renderAll h
  exact ⟨.list ds, by rw [render, hds]; rfl⟩

theorem HasDocument.record {typeName : String} {fields : List (String × Value)}
    (h : ∀ f ∈ fields, f.2.HasDocument) : (Value.record typeName fields).HasDocument := by
  suffices ∃ es, renderFields fields = .ok es by
    obtain ⟨es, hes⟩ := this
    exact ⟨.map es, by rw [render, hes]; rfl⟩
  induction fields with
  | nil => exact ⟨[], rfl⟩
  | cons f fields ih =>
    obtain ⟨d, hd⟩ := h f List.mem_cons_self
    obtain ⟨es, hes⟩ := ih fun g hg => h g (List.mem_cons_of_mem f hg)
    exact ⟨(f.1, d) :: es, by rw [renderFields, hd, hes]; rfl⟩

end Value

/-! ## 4. Documents as values -/

namespace Document

mutual

/-- A document as a value. -/
def toValue : Document → Value
  | .null => .null
  | .bool b => .bool b
  | .int n => .int n
  | .real x => .real x
  | .text s => .text s
  | .list ds => .list (toValues ds)
  | .map es => .dict (entriesToValues es)

/-- Some documents as values. -/
def toValues : List Document → List Value
  | [] => []
  | d :: ds => toValue d :: toValues ds

/-- The entries of a map as entries of a dictionary. -/
def entriesToValues : List (String × Document) → List (Value × Value)
  | [] => []
  | (k, d) :: es => (.text k, toValue d) :: entriesToValues es

end

end Document

end PeppolStatistics
