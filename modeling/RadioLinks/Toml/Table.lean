import RadioLinks.Toml.Value
/-!
# Tables under construction

A table grows while its document is read. A table that was only mentioned on
the way to another one is implicit and may still be opened by a header; one
made by a dotted key may be extended by dotted keys only. Headers and dotted
keys pass through the last element of an array of tables.
-/

namespace RadioLinks.Toml

mutual

/-- A table with its flags and its entries in the order they were made. -/
inductive Table where
  | mk (implicit dotted : Bool) (entries : List (String × Item))

/-- What stands under a key: a finished value, a table, or an array of
tables. -/
inductive Item where
  | value (value : Value)
  | table (table : Table)
  | tables (tables : List Table)

end

namespace Table

def implicit : Table → Bool
  | mk implicit _ _ => implicit

def dotted : Table → Bool
  | mk _ dotted _ => dotted

def entries : Table → List (String × Item)
  | mk _ _ entries => entries

/-- A table that a header or braces open. -/
def opened : Table := mk false false []

instance : Inhabited Table := ⟨opened⟩

def find? (table : Table) (key : String) : Option Item := table.entries.lookup key

/-- Put an item under a key, in the place of an earlier one if there is one. -/
def put (table : Table) (key : String) (item : Item) : Table :=
  let entries :=
    if table.entries.any (·.1 == key) then
      table.entries.map fun entry => if entry.1 == key then (key, item) else entry
    else table.entries ++ [(key, item)]
  mk table.implicit table.dotted entries

/-- Change the last of several tables. -/
def changeLast (change : Table → Option Table) : List Table → Option (List Table)
  | [] => none
  | [last] => (change last).map ([·])
  | first :: rest => (changeLast change rest).map (first :: ·)

/-- Change the table at the end of a path. Missing tables on the way are made.
`byDots` says whether the path is the dots of a key, which may not enter a table
that a header has opened. -/
def changeAt (byDots : Bool) (change : Table → Option Table) :
    List String → Table → Option Table
  | [], table => change table
  | key :: path, table =>
      match table.find? key with
      | none => do
          let child ← changeAt byDots change path (mk true byDots [])
          pure (table.put key (.table child))
      | some (.value _) => none
      | some (.table child) =>
          if byDots && !child.implicit then none
          else do
            let child ← changeAt byDots change path child
            pure (table.put key (.table child))
      | some (.tables children) => do
          let children ← changeLast (changeAt byDots change path) children
          pure (table.put key (.tables children))

/-- Put a value under a dotted key. A key is used once. A key with dots goes
only into a table made by dots, and a key without dots into any other. -/
def insert (path : List String) (key : String) (value : Value) (table : Table) :
    Option Table :=
  changeAt true (fun target =>
    if target.dotted = path.isEmpty then none
    else if (target.find? key).isSome then none
    else some (target.put key (.value value))) path table

/-- Open a table by its header. Only a table that was mentioned on the way to
another one may exist already. -/
def openTable (path : List String) (key : String) (table : Table) : Option Table :=
  changeAt false (fun parent =>
    match parent.find? key with
    | none => some (parent.put key (.table opened))
    | some (.table child) =>
        if child.implicit && !child.dotted then
          some (parent.put key (.table (mk false false child.entries)))
        else none
    | some _ => none) path table

def addTable (path : List String) (key : String) (table : Table) : Option Table :=
  changeAt false (fun parent =>
    match parent.find? key with
    | none => some (parent.put key (.tables [opened]))
    | some (.tables children) => some (parent.put key (.tables (children ++ [opened])))
    | some _ => none) path table

end Table

mutual

def Table.toValue : Table → Value
  | .mk _ _ entries => .table (entriesToValues entries)

def Item.toValue : Item → Value
  | .value value => value
  | .table table => table.toValue
  | .tables tables => .array (tablesToValues tables)

def entriesToValues : List (String × Item) → List (String × Value)
  | [] => []
  | (key, item) :: rest => (key, item.toValue) :: entriesToValues rest

def tablesToValues : List Table → List Value
  | [] => []
  | table :: rest => table.toValue :: tablesToValues rest

end

end RadioLinks.Toml
