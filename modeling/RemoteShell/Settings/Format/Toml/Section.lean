import RemoteShell.Settings.Value

/-!
# The tree that the statements of a TOML text build

A header opens a table, and a line `a.b.c = value` puts a value below the open table.  Nothing may be
said twice: a value is set once and a table opened once.  A table that only came into being on the way
to another one is *implied* and may still be opened; one that dotted keys have made may not.

Every function here gives `none` when a rule is broken.
-/

namespace RemoteShell.Toml

/-- A part of a text that is being read. -/
inductive Node where
  | value (v : Value)
  /-- A table; `implied` if no header opened it, `dotted` if dotted keys made it. -/
  | table (implied dotted : Bool) (entries : List (String × Node))
  /-- The tables of a header in double brackets, the last one first. -/
  | tables (bodies : List (List (String × Node)))

/-- The entries of a table. -/
abbrev Body := List (String × Node)

namespace Body

/-- What stands under a key. -/
def get? (b : Body) (key : String) : Option Node :=
  (b.find? (·.1 == key)).map (·.2)

/-- Put something under a key, in the place of what stands there. -/
def put (b : Body) (key : String) (node : Node) : Body :=
  if b.any (·.1 == key) then b.map fun e => if e.1 == key then (key, node) else e
  else b ++ [(key, node)]

/-- Change the table at the end of a path; it gets the flag whether the table is dotted.  Tables that
are missing on the way are made.  Dotted keys pass only through tables that no header opened. -/
def change (viaDots : Bool) (f : Bool → Body → Option Body) (isDotted : Bool) :
    List String → Body → Option Body
  | [], b => f isDotted b
  | key :: path, b =>
    match b.get? key with
    | none =>
      (change viaDots f viaDots path []).map fun b' => b.put key (.table true viaDots b')
    | some (.value _) => none
    | some (.table implied dotted body) =>
      if viaDots && !implied then none
      else (change viaDots f dotted path body).map fun b' => b.put key (.table implied dotted b')
    | some (.tables []) => none
    | some (.tables (body :: more)) =>
      (change viaDots f false path body).map fun b' => b.put key (.tables (b' :: more))

/-- Set a value at the end of a path.  A table is filled either by dotted keys or by plain ones. -/
def set (path : List String) (key : String) (v : Value) (b : Body) : Option Body :=
  change true (fun isDotted b =>
    if isDotted == path.isEmpty || (b.get? key).isSome then none
    else some (b.put key (.value v))) false path b

/-- Open a table. -/
def openTable (path : List String) (key : String) (b : Body) : Option Body :=
  change false (fun _ b =>
    match b.get? key with
    | none => some (b.put key (.table false false []))
    | some (.table true false body) => some (b.put key (.table false false body))
    | some _ => none) false path b

/-- Open one more table of a header in double brackets. -/
def openNext (path : List String) (key : String) (b : Body) : Option Body :=
  change false (fun _ b =>
    match b.get? key with
    | none => some (b.put key (.tables [[]]))
    | some (.tables bodies) => some (b.put key (.tables ([] :: bodies)))
    | some _ => none) false path b

/-- Set a value at the end of a path below the open table. -/
def setBelow (place path : List String) (key : String) (v : Value) (b : Body) : Option Body :=
  change false (fun _ b => set path key v b) false place b

end Body

mutual

/-- The value that a node stands for. -/
def Node.toValue : Node → Value
  | .value v => v
  | .table _ _ body => .table (bodyValues body)
  | .tables bodies => .list (bodiesValues bodies).reverse

/-- The entries of a table as values. -/
def bodyValues : List (String × Node) → List (String × Value)
  | [] => []
  | (k, n) :: rest => (k, n.toValue) :: bodyValues rest

/-- Tables as values. -/
def bodiesValues : List (List (String × Node)) → List Value
  | [] => []
  | b :: rest => .table (bodyValues b) :: bodiesValues rest

end

/-- A statement of a text. -/
inductive Statement where
  | header (path : List String) (key : String)
  | nextHeader (path : List String) (key : String)
  | entry (path : List String) (key : String) (v : Value)

/-- What the statements of a text have built: the tree, and the path of the open table. -/
structure Outline where
  body : Body
  place : List String

/-- One statement more. -/
def Outline.step (o : Outline) : Statement → Option Outline
  | .header path key => (o.body.openTable path key).map fun b => ⟨b, path ++ [key]⟩
  | .nextHeader path key => (o.body.openNext path key).map fun b => ⟨b, path ++ [key]⟩
  | .entry path key v => (o.body.setBelow o.place path key v).map fun b => { o with body := b }

/-- The table that the statements of a text describe. -/
def ofStatements? (statements : List Statement) : Option Value :=
  (statements.foldlM Outline.step ⟨[], []⟩).map fun o => .table (bodyValues o.body)

/-- The table between braces that the given entries describe. -/
def ofEntries? (entries : List (List String × String × Value)) : Option Value :=
  (entries.foldlM (fun b (path, key, v) => Body.set path key v b) []).map fun b =>
    .table (bodyValues b)

end RemoteShell.Toml
