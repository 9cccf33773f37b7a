import PathSession.Config.Value

/-!
# Trees of tables in TOML

The tables of a text while it is read, with what decides whether they may be added to.

* `TomlNode`, `TomlNode.content`: tables, lists of tables and other values, and what they hold;
* `TomlNode.alter?`: a change of the table under a path;
* `TomlNode.open?`, `TomlNode.append?`, `TomlNode.assign?`: what a section, an item of a list of
  sections, and a key with its value do.

A table that was not written itself comes from a longer path.  Such a table may be written once as
a section, and added to by keys with points only if it comes from keys with points.
-/

namespace PathSession

/-- A part of the tree of tables. -/
inductive TomlNode
  | value (v : ConfigValue)
  /-- a table; `implied` if it was not written itself, `pointed` if it comes from a key with
  points -/
  | table (implied pointed : Bool) (entries : List (String × TomlNode))
  /-- a list of tables that are written as sections -/
  | tables (items : List (List (String × TomlNode)))

namespace TomlNode

/-- The entries of a table in the tree. -/
abbrev Entries := List (String × TomlNode)

mutual

/-- What a part of the tree holds. -/
def content : TomlNode → ConfigValue
  | value v => v
  | table _ _ entries => .table (contents entries)
  | tables items => .list (rows items)

/-- What the entries of a table hold. -/
def contents : Entries → ConfigValue.Entries
  | [] => []
  | (key, node) :: rest => (key, content node) :: contents rest

/-- What the tables of a list hold. -/
def rows : List Entries → List ConfigValue
  | [] => []
  | entries :: rest => .table (contents entries) :: rows rest

end

/-- Put a part under a key, in place of the one that was there. -/
def put : Entries → String → TomlNode → Entries
  | [], key, node => [(key, node)]
  | (k, old) :: rest, key, node =>
    if k = key then (key, node) :: rest else (k, old) :: put rest key node

/-- Change the table under a path.  Tables on the way are made if they are missing, and of a list
of tables the last one is meant.  The change is told whether the table comes from a key with
points.  With `pointed`, the path is a key: it does not lead through tables that were written. -/
def alter? (pointed : Bool) (change : Bool → Entries → Option Entries) :
    List String → Bool → Entries → Option Entries
  | [], self, entries => change self entries
  | key :: path, _, entries =>
    match entries.lookup key with
    | none =>
      (alter? pointed change path pointed []).map fun inner =>
        entries ++ [(key, .table true pointed inner)]
    | some (.value _) => none
    | some (.tables items) =>
      match items.getLast? with
      | none => none
      | some last =>
        (alter? pointed change path false last).map fun last =>
          put entries key (.tables (items.dropLast ++ [last]))
    | some (.table implied self inner) =>
      if pointed && !implied then
        none
      else
        (alter? pointed change path self inner).map fun inner =>
          put entries key (.table implied self inner)

/-- Open the section of a path. -/
def open? (path : List String) (root : Entries) : Option Entries :=
  match path.getLast? with
  | none => none
  | some key =>
    alter? false
      (fun _ entries =>
        match entries.lookup key with
        | none => some (entries ++ [(key, .table false false [])])
        | some (.table true false inner) => some (put entries key (.table false false inner))
        | some _ => none)
      path.dropLast false root

/-- Open one more section in the list of a path. -/
def append? (path : List String) (root : Entries) : Option Entries :=
  match path.getLast? with
  | none => none
  | some key =>
    alter? false
      (fun _ entries =>
        match entries.lookup key with
        | none => some (entries ++ [(key, .tables [[]])])
        | some (.tables items) => some (put entries key (.tables (items ++ [[]])))
        | some _ => none)
      path.dropLast false root

/-- Put a value under a key of a table, which must not have it yet. -/
def assign? (key : List String) (v : ConfigValue) (self : Bool) (entries : Entries) :
    Option Entries :=
  match key.getLast? with
  | none => none
  | some last =>
    alter? true
      (fun pointed entries =>
        if pointed == key.dropLast.isEmpty || (entries.lookup last).isSome then none
        else some (entries ++ [(last, .value v)]))
      key.dropLast self entries

/-- Put a value under a key of the section of a path. -/
def assignIn? (path key : List String) (v : ConfigValue) (root : Entries) : Option Entries :=
  alter? false (assign? key v) path false root

end TomlNode

end PathSession
