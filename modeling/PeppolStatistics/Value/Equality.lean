import PeppolStatistics.Value.Basic

/-!
# Equality of values

Two values are the same if they are numerically equal, have the same text, name the same instant,
or have the same parts. Collections and exceptions are compared by identity, so two of them that
were made apart are never the same. Values that can change, and those that hold one, cannot be
elements of a set.
-/

namespace PeppolStatistics

namespace Value

/-! ## 1. Numbers and texts -/

/-- Whether two numbers are equal; a truth value counts as zero or one. -/
def sameNumber : Value → Value → Bool
  | .real x, .real y => x.same y
  | .real x, .int n => x.toInt? == some n
  | .int n, .real x => x.toInt? == some n
  | .int m, .int n => m == n
  | _, _ => false

/-- A number with truth values read as zero and one. -/
def asNumber : Value → Value
  | .bool b => .int (if b then 1 else 0)
  | v => v

/-- Whether two values without parts are the same. -/
def sameLeaf (a b : Value) : Bool :=
  match a.asText?, b.asText? with
  | some s, some t => s == t
  | some _, none => false
  | none, some _ => false
  | none, none =>
    match a, b with
    | .null, .null => true
    | .date x, .date y => x == y
    | .dateTime x, .dateTime y => x.same y
    | .uuid x, .uuid y => x == y
    | .identifier x, .identifier y => x == y
    | .item x, .item y => x.same y
    | .period x, .period y => x == y
    | .counts x, .counts y => x == y
    | a, b => sameNumber a.asNumber b.asNumber

/-! ## 2. All values -/

mutual

/-- Whether two values are the same. -/
def same : Value → Value → Bool
  | .list xs, .list ys => sameLists xs ys
  | .tuple xs, .tuple ys => sameLists xs ys
  | .dict xs, .dict ys => xs.length == ys.length && sameEntries xs ys
  | .record n xs, .record m ys => n == m && sameFields xs ys
  | .list _, _ => false
  | .tuple _, _ => false
  | .dict _, _ => false
  | .record _ _, _ => false
  | .fault _ _ _, _ => false
  | .collection _, _ => false
  | a, b => sameLeaf a b

/-- Whether two lists hold the same values in the same order. -/
def sameLists : List Value → List Value → Bool
  | [], [] => true
  | a :: as, b :: bs => same a b && sameLists as bs
  | _, _ => false

/-- Whether every entry of one dictionary is also in another. -/
def sameEntries : List (Value × Value) → List (Value × Value) → Bool
  | [], _ => true
  | (k, v) :: rest, es =>
    (es.any fun e => same k e.1 && same v e.2) && sameEntries rest es

/-- Whether two records have the same fields with the same values. -/
def sameFields : List (String × Value) → List (String × Value) → Bool
  | [], [] => true
  | (m, a) :: as, (n, b) :: bs => m == n && same a b && sameFields as bs
  | _, _ => false

end

/-! ## 3. Elements of sets -/

mutual

/-- Whether a value can be an element of a set or a key. -/
def hashable : Value → Bool
  | .list _ => false
  | .dict _ => false
  | .tuple vs => allHashable vs
  | .record _ fields => fieldsHashable fields
  | _ => true

/-- Whether all values of a list can be elements of a set. -/
def allHashable : List Value → Bool
  | [] => true
  | v :: vs => hashable v && allHashable vs

/-- Whether all fields of a record can be elements of a set. -/
def fieldsHashable : List (String × Value) → Bool
  | [] => true
  | (_, v) :: fields => hashable v && fieldsHashable fields

end

/-- The value of a key in a dictionary. -/
def lookup? (key : Value) (entries : List (Value × Value)) : Option Value :=
  (entries.find? fun e => same e.1 key).map (·.2)

/-- The entries with a value for a key: in the place of the key if it is there, at the end
    otherwise. -/
def put (key value : Value) : List (Value × Value) → List (Value × Value)
  | [] => [(key, value)]
  | (k, v) :: rest => if same k key then (k, value) :: rest else (k, v) :: put key value rest

/-- A dictionary of some entries; of the entries with one key the last value counts. -/
def dictOf (entries : List (Value × Value)) : Value :=
  .dict (entries.foldl (fun es e => put e.1 e.2 es) [])

end Value

end PeppolStatistics
