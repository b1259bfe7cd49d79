import PeppolStatistics.Number.Binary64

/-!
# Documents

A `Document` is what reports and log lines are written as: nothing, truth values, numbers, texts,
lists, and maps from texts. The entries of a map keep their order.
-/

namespace PeppolStatistics

/-- A tree of plain values. -/
inductive Document where
  | null
  | bool (b : Bool)
  | int (n : Int)
  | real (x : Binary64)
  | text (s : String)
  | list (ds : List Document)
  | map (entries : List (String × Document))
deriving Repr

namespace Document

instance : Inhabited Document := ⟨.null⟩

/-- The entries with a value for a key: in the place of the key if it is there, at the end
    otherwise. -/
def put {α : Type} (key : String) (value : α) : List (String × α) → List (String × α)
  | [] => [(key, value)]
  | (k, v) :: rest => if k = key then (k, value) :: rest else (k, v) :: put key value rest

@[simp] theorem put_nil {α : Type} (key : String) (value : α) :
    put key value [] = [(key, value)] := rfl

/-- Some entries with each key once: of the entries with one key the last value counts, in the
    place of the first. -/
def collapse {α : Type} (entries : List (String × α)) : List (String × α) :=
  entries.foldl (fun es e => put e.1 e.2 es) []

/-- A map of texts. -/
def ofTexts (entries : List (String × String)) : Document :=
  .map (entries.map fun e => (e.1, .text e.2))

end Document

end PeppolStatistics
