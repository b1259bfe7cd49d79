/-!
# Buckets

`groupBy` distributes the elements of a list over buckets by a key. The keys stand in the order in
which they first occur, the elements of a bucket in the order of the list. `distinct` keeps the
first occurrence of each element.
-/

namespace PeppolStatistics

variable {α κ : Type}

/-! ## 1. Distinct elements -/

/-- The elements of a list, each once, in the order in which they first occur. -/
def distinct [DecidableEq α] : List α → List α
  | [] => []
  | a :: as => a :: (distinct as).filter fun b => b ≠ a

@[simp] theorem mem_distinct [DecidableEq α] {a : α} {as : List α} :
    a ∈ distinct as ↔ a ∈ as := by
  induction as with
  | nil => simp [distinct]
  | cons b as ih => by_cases h : a = b <;> simp [distinct, h, ih]

/-! ## 2. Buckets -/

/-- The buckets with one more element: at the end of the bucket of its key, or in a new bucket
    behind all others. -/
def insertBucket [DecidableEq κ] (k : κ) (a : α) : List (κ × List α) → List (κ × List α)
  | [] => [(k, [a])]
  | (k', as) :: rest =>
    if k' = k then (k', as ++ [a]) :: rest else (k', as) :: insertBucket k a rest

/-- The elements of a list by key. -/
def groupBy [DecidableEq κ] (key : α → κ) (as : List α) : List (κ × List α) :=
  as.foldl (fun buckets a => insertBucket (key a) a buckets) []

@[simp] theorem groupBy_nil [DecidableEq κ] (key : α → κ) : groupBy key [] = [] := rfl

end PeppolStatistics
