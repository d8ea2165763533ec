import LivePages.Toml.Value

/-!
Tables while a document is read. How a table came to be decides what may still be added to it: a
table with a header of its own is closed to dotted keys, and only a table that a longer header
implied may still get a header.
-/

namespace LivePages.Toml

inductive Origin
  | header
  | implied
  | dotted
  deriving DecidableEq, Repr

inductive Entry
  | value (v : Toml)
  | table (origin : Origin) (entries : List (String × Entry))
  | tables (items : List (List (String × Entry)))
  deriving Inhabited

abbrev Entries := List (String × Entry)

namespace Entries

def get? (es : Entries) (k : String) : Option Entry :=
  (es.find? (·.1 = k)).map (·.2)

/-- Replaces the entry of `k` in its place. -/
def replace (es : Entries) (k : String) (e : Entry) : Entries :=
  es.map fun p => if p.1 = k then (k, e) else p

def erase (es : Entries) (k : String) : Entries :=
  es.filter (·.1 ≠ k)

/-- Changes the last table of a list of tables. -/
def changeLast? (f : Entries → Option Entries) : List Entries → Option (List Entries)
  | [] => none
  | [t] => (f t).map ([·])
  | t :: r => (changeLast? f r).map (t :: ·)

/-- Sets a value below the table, at the end of a path of dotted keys. -/
def put (k : String) (v : Toml) : List String → Entries → Option Entries
  | [], es => if (es.get? k).isSome then none else some (es ++ [(k, .value v)])
  | p :: ps, es =>
    match es.get? p with
    | none => (put k v ps []).map fun t => es ++ [(p, .table .dotted t)]
    | some (.value _) => none
    | some (.table .header _) => none
    | some (.table o t) =>
      if ps.isEmpty && o ≠ .dotted then none
      else (put k v ps t).map fun t => es.replace p (.table o t)
    | some (.tables items) =>
      if ps.isEmpty then none
      else (changeLast? (put k v ps) items).map fun items => es.replace p (.tables items)

/-- Changes the table at the end of a header's path; tables on the way come to be if they are
missing. -/
def below (f : Entries → Option Entries) : List String → Entries → Option Entries
  | [], es => f es
  | p :: ps, es =>
    match es.get? p with
    | none => (below f ps []).map fun t => es ++ [(p, .table .implied t)]
    | some (.value _) => none
    | some (.table o t) => (below f ps t).map fun t => es.replace p (.table o t)
    | some (.tables items) =>
      (changeLast? (below f ps) items).map fun items => es.replace p (.tables items)

/-- The table that a header opens, filled by `fill`. It stands last among its neighbours. -/
def openTable (k : String) (fill : Entries → Option Entries) (es : Entries) : Option Entries :=
  match es.get? k with
  | none => (fill []).map fun t => es ++ [(k, .table .header t)]
  | some (.table .implied t) => (fill t).map fun t => es.erase k ++ [(k, .table .header t)]
  | some _ => none

/-- The next table of a list of tables. -/
def openItem (k : String) (fill : Entries → Option Entries) (es : Entries) : Option Entries :=
  match es.get? k with
  | none => (fill []).map fun t => es ++ [(k, .tables [t])]
  | some (.tables items) => (fill []).map fun t => es.replace k (.tables (items ++ [t]))
  | some _ => none

end Entries

mutual

def Entry.toToml : Entry → Toml
  | .value v => v
  | .table _ es => .table (fieldsOf es)
  | .tables items => .arr (itemsOf items)

def fieldsOf : List (String × Entry) → List (String × Toml)
  | [] => []
  | (k, e) :: r => (k, e.toToml) :: fieldsOf r

def itemsOf : List (List (String × Entry)) → List Toml
  | [] => []
  | es :: r => .table (fieldsOf es) :: itemsOf r

end

end LivePages.Toml
