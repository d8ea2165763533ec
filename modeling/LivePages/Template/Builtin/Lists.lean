import LivePages.Template.Builtin.Argument
import LivePages.Text.Case

/-!
Filters on lists and objects. An attribute is a path into every item of a list.
-/

namespace LivePages.Template.Builtin

def listFilter (name : String) (f : List Json → Arguments → Except Fault Json) : String × Filter :=
  (name, plainFilter fun v args => do
    let items ← list.value name v
    f items args)

def attributeArg (filter : String) (args : Arguments) : Except Fault String :=
  text.arg filter "attribute"
    ("The `" ++ filter ++ "` filter has to have an `attribute` argument") args

/-- A position counted from the start, or from the end when negative. -/
def positionOf (length : Nat) (x : Float) : Nat :=
  if x ≥ 0.0 then x.toUInt64.toNat
  else (Float.ofNat length + x).toUInt64.toNat

def slice (items : List Json) (args : Arguments) : Except Fault Json := do
  if items.isEmpty then return .arr []
  let start ← float.arg? "slice" "start" args
  let stop ← float.arg? "slice" "end" args
  let start := (start.map (positionOf items.length)).getD 0
  let stop := min ((stop.map (positionOf items.length)).getD items.length) items.length
  pure (.arr (if start ≥ stop then [] else (items.take stop).drop start))

/-! ### Order and repetition -/

/-- What items are sorted by. -/
inductive SortKey
  | number (x : Float)
  | text (s : String)
  | boolean (b : Bool)
  | length (n : Nat)

def SortKey.le : SortKey → SortKey → Bool
  | .number x, .number y => x ≤ y
  | .text s, .text t => s ≤ t
  | .boolean b, .boolean c => !b || c
  | .length m, .length n => m ≤ n
  | _, _ => true

def expected (word : String) (v : Json) : Fault :=
  .said ("expected " ++ word ++ " got " ++ v.compact)

/-- The key of `v` when the first item sorts by a value like `first`. -/
def sortKey (first v : Json) : Except Fault SortKey :=
  match first with
  | .null => .error (.said "Null is not a sortable value")
  | .obj _ => .error (.said "Object is not a sortable value")
  | .bool _ =>
    match v with
    | .bool b => .ok (.boolean b)
    | _ => .error (expected "bool" v)
  | .str _ =>
    match v with
    | .str s => .ok (.text s)
    | _ => .error (expected "string" v)
  | .arr _ =>
    match v with
    | .arr l => .ok (.length l.length)
    | _ => .error (expected "array" v)
  | _ =>
    match Number.ofJson? v with
    | some n => .ok (.number n.toFloat)
    | none => .error (expected "number" v)

def noField (field : String) : Fault :=
  .said ("attribute '" ++ field ++ "' does not reference a field")

def fieldOf (field : String) (v : Json) : Except Fault Json :=
  match inside? field v with
  | some f => .ok f
  | none => .error (noField field)

def sort (items : List Json) (args : Arguments) : Except Fault Json := do
  match items with
  | [] => pure (.arr [])
  | head :: _ =>
    let field ← text.argOr "sort" "attribute" "" args
    let first ← fieldOf field head
    let _ ← sortKey first first
    let keyed ← items.mapM fun v => do
      let key ← sortKey first (← fieldOf field v)
      pure (key, v)
    pure (.arr ((keyed.mergeSort fun a b => a.1.le b.1).map (·.2)))

/-- A value as it is told apart from others, texts perhaps without regard to case. -/
def distinctKey (caseSensitive : Bool) (first v : Json) : Except Fault Json :=
  match first, v with
  | .bool _, .bool b => .ok (.bool b)
  | .str _, .str s => .ok (.str (if caseSensitive then s else String.ofList (Text.lower s.toList)))
  | .int _, .int i => if i < Int.pow 2 63 then .ok (.int i) else .error (expected "number" v)
  | .int _, .float _ => .error (expected "number" v)
  | _, _ => .error (.said "unique filter can't compare multiple types")

def checkDistinct (first : Json) : Except Fault Unit :=
  match first with
  | .null => .error (.said "Null is not a unique value")
  | .float _ => .error (.said "Unique floats are not implemented")
  | .arr _ => .error (.said "Unique arrays are not implemented")
  | .obj _ => .error (.said "Unique objects are not implemented")
  | _ => .ok ()

/-- Items whose key has not come before; `seen` holds the keys passed. -/
def distinctFrom (key? : Json → Option (Except Fault Json)) (seen : List Json) :
    List Json → Except Fault (List Json)
  | [] => .ok []
  | v :: r =>
    match key? v with
    | none => distinctFrom key? seen r
    | some (.error e) => .error e
    | some (.ok k) =>
      if seen.any (· == k) then distinctFrom key? seen r
      else (distinctFrom key? (k :: seen) r).map (v :: ·)

def unique (items : List Json) (args : Arguments) : Except Fault Json := do
  match items with
  | [] => pure (.arr [])
  | head :: _ =>
    let caseSensitive ← boolean.argOr "unique" "case_sensitive" false args
    let field ← text.argOr "unique" "attribute" "" args
    let first ← fieldOf field head
    checkDistinct first
    let kept ← distinctFrom
      (fun v => (inside? field v).map (distinctKey caseSensitive first)) [] items
    pure (.arr kept)

/-! ### Selection -/

/-- The name of the group that a value puts its item into. -/
def groupName : Json → String
  | .str s => s
  | v => v.compact

def addToGroup (groups : Json.Fields) (name : String) (v : Json) : Json.Fields :=
  match groups.get? name with
  | some (.arr l) => groups.insert name (.arr (l ++ [v]))
  | _ => groups.insert name (.arr [v])

def groupBy (items : List Json) (args : Arguments) : Except Fault Json := do
  if items.isEmpty then return .obj []
  let field ← attributeArg "group_by" args
  pure (.obj (items.foldl
    (fun groups v =>
      match inside? field v with
      | none => groups
      | some .null => groups
      | some k => addToGroup groups (groupName k) v) []))

def select (items : List Json) (args : Arguments) : Except Fault Json := do
  if items.isEmpty then return .arr []
  let field ← attributeArg "filter" args
  let wanted := (args.get? "value").getD .null
  pure (.arr (items.filter fun v =>
    let found := (inside? field v).getD .null
    if wanted == .null then found != .null else found == wanted))

def map (items : List Json) (args : Arguments) : Except Fault Json := do
  if items.isEmpty then return .arr []
  let field ← attributeArg "map" args
  pure (.arr (items.filterMap fun v => (inside? field v).filter (· != .null)))

def concat (items : List Json) (args : Arguments) : Except Fault Json :=
  match args.get? "with" with
  | none => .error (.said "The `concat` filter has to have a `with` argument")
  | some (.arr more) => .ok (.arr (items ++ more))
  | some v => .ok (.arr (items ++ [v]))

def nth (items : List Json) (args : Arguments) : Except Fault Json := do
  if items.isEmpty then return .str ""
  let n ← natural.arg "nth" "n" "The `nth` filter has to have an `n` argument" args
  pure (items[n]?.getD (.str ""))

def join (items : List Json) (args : Arguments) : Except Fault Json := do
  let sep ← text.argOr "truncate" "sep" "" args
  let sep := Text.replaceAll ['\\', 't'] ['\t'] (Text.replaceAll ['\\', 'n'] ['\n'] sep.toList)
  pure (.str (String.intercalate (String.ofList sep) (shownItems items)))

/-! ### Values of several kinds -/

def length : String × Filter :=
  ("length", plainFilter fun v _ =>
    match v with
    | .arr l => .ok (.int l.length)
    | .obj f => .ok (.int f.length)
    | .str s => .ok (.int s.length)
    | _ =>
      .error (.said
        "Filter `length` was used on a value that isn't an array, an object, or a string."))

def reverse : String × Filter :=
  ("reverse", plainFilter fun v _ =>
    match v with
    | .arr l => .ok (.arr l.reverse)
    | .str s => .ok (.str (String.ofList s.toList.reverse))
    | v =>
      .error (.said ("Filter `reverse` received an incorrect type for arg `value`: got `" ++
        v.compact ++ "` but expected Array|String")))

def jsonEncode : String × Filter :=
  ("json_encode", plainFilter fun v args =>
    match args.get? "pretty" with
    | some (.bool true) => .ok (.str v.pretty)
    | _ => .ok (.str v.compact))

def asText : String × Filter :=
  ("as_str", plainFilter fun v _ => .ok (.str (shown v)))

def get : String × Filter :=
  ("get", plainFilter fun v args => do
    let key ← text.arg "get" "key" "The `get` filter has to have an `key` argument" args
    match v with
    | .obj fields =>
      match Json.Fields.get? fields key <|> args.get? "default" with
      | some found => pure found
      | none =>
        .error (.said ("Filter `get` tried to get key `" ++ key ++ "` but it wasn't found"))
    | _ => .error (.said "Filter `get` was used on a value that isn't an object"))

def listFilters : List (String × Filter) :=
  [listFilter "first" fun l _ => .ok (l.head?.getD (.str "")),
   listFilter "last" fun l _ => .ok (l.getLast?.getD (.str "")),
   listFilter "nth" nth,
   listFilter "join" join,
   listFilter "sort" sort,
   listFilter "unique" unique,
   listFilter "slice" slice,
   listFilter "group_by" groupBy,
   listFilter "filter" select,
   listFilter "map" map,
   listFilter "concat" concat,
   length,
   reverse,
   jsonEncode,
   asText,
   get]

end LivePages.Template.Builtin
