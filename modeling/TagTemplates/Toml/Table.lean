import TagTemplates.Datum

/-!
# Tables of TOML

The tables of a document while it is read.  How a table came to be decides who may add to it: one
that is the value of a key is complete, one that has a heading gets no second heading, and one that
only lies on the way to another may still be given its heading.  Keys with dots only add to tables
that came from such keys.
-/

namespace TagTemplates.Toml

/-- How a table came to be. -/
inductive Origin where
  /-- By its heading, or as the document. -/
  | heading
  /-- By a heading of a table inside of it. -/
  | path
  /-- By a key with dots. -/
  | dots
  deriving DecidableEq, Repr

/-- What stands under a key. -/
inductive Entry where
  | value (datum : Datum)
  | table (origin : Origin) (entries : List (String × Entry))
  /-- A list of tables, each with a heading of its own. -/
  | tables (items : List (List (String × Entry)))

namespace Entry

/-- The entries of a table, by their names. -/
abbrev Entries := List (String × Entry)

/-- Change the entry of a name, which may be missing; `none` when the change is refused. -/
def change (f : Option Entry → Option Entry) (name : String) : Entries → Option Entries
  | [] => do return [(name, ← f none)]
  | (n, entry) :: rest =>
    if n = name then do return (n, ← f (some entry)) :: rest
    else do return (n, entry) :: (← change f name rest)

/-- Change the last one of some tables. -/
def changeLast (f : Entries → Option Entries) : List Entries → Option (List Entries)
  | [] => none
  | [entries] => do return [← f entries]
  | entries :: rest => do return entries :: (← changeLast f rest)

/-- Change the table at the end of a path, along which missing tables are added.  A key with dots
does not lead through a table that has a heading. -/
def descend (byDots : Bool) (f : Origin → Entries → Option Entries) :
    List String → Origin → Entries → Option Entries
  | [], origin, entries => f origin entries
  | name :: names, _, entries =>
    change (fun
      | none => do
        let origin := if byDots then Origin.dots else .path
        return .table origin (← descend byDots f names origin [])
      | some (.value _) => none
      | some (.tables items) => do
        return .tables (← changeLast (descend byDots f names .heading) items)
      | some (.table origin entries) =>
        if byDots && origin == .heading then none
        else do return .table origin (← descend byDots f names origin entries))
      name entries

/-- Give a table its heading. -/
def addHeading (path : List String) (name : String) (root : Entries) : Option Entries :=
  descend false (fun _ entries =>
    change (fun
      | none => some (.table .heading [])
      | some (.table .path entries) => some (.table .heading entries)
      | some _ => none) name entries) path .heading root

/-- Add a table to a list of tables. -/
def addItem (path : List String) (name : String) (root : Entries) : Option Entries :=
  descend false (fun _ entries =>
    change (fun
      | none => some (.tables [[]])
      | some (.tables items) => some (.tables (items ++ [[]]))
      | some _ => none) name entries) path .heading root

/-- Set a key, perhaps with dots, inside of a table. -/
def set (path : List String) (name : String) (datum : Datum) (entries : Entries) :
    Option Entries :=
  descend true (fun origin entries =>
    if (origin == .dots) == path.isEmpty then none
    else
      change (fun
        | none => some (.value datum)
        | some _ => none) name entries) path .heading entries

/-- Set a key inside of the table under a heading. -/
def setBelow (heading path : List String) (name : String) (datum : Datum) (root : Entries) :
    Option Entries :=
  descend false (fun _ entries => set path name datum entries) heading .heading root

mutual

def toDatum : Entry → Datum
  | value datum => datum
  | table _ entries => .map (entriesToData entries)
  | tables items => .list (tablesToData items)

def entriesToData : List (String × Entry) → List (Datum × Datum)
  | [] => []
  | (name, entry) :: rest => (.text name, entry.toDatum) :: entriesToData rest

def tablesToData : List (List (String × Entry)) → List Datum
  | [] => []
  | entries :: rest => .map (entriesToData entries) :: tablesToData rest

end

end Entry

end TagTemplates.Toml
