import PasswordGate.Value
/-!
# Tables — nested tables, and which of them are closed

A path leads through nested tables; a list of tables on the way stands for its last one, unless the path is that of an
inline table.  `Marks` says which paths have been opened as a table of their own (`opened`), and below which paths
nothing may change any more, because an inline value stands there (`frozen`).
-/
namespace PasswordGate
namespace Toml

abbrev Entries := List (String × Value)

abbrev Path := List String

/-- An entry is replaced where it stands. -/
def replaceAt (entries : Entries) (name : String) (value : Value) : Entries :=
  entries.map fun entry => if entry.1 == name then (name, value) else entry

/-- **The table at a path is changed**; tables that are missing on the way are made. -/
def modify (throughLists : Bool) : Path → (Entries → Option Entries) → Entries → Option Entries
  | [], change, entries => change entries
  | name :: rest, change, entries =>
    match entries.lookup name with
    | none => (modify throughLists rest change []).map fun inner => entries ++ [(name, .dict inner)]
    | some (.dict inner) =>
      (modify throughLists rest change inner).map fun inner => replaceAt entries name (.dict inner)
    | some (.list items) =>
      match throughLists, items.getLast? with
      | true, some (.dict inner) =>
        (modify throughLists rest change inner).map fun inner =>
          replaceAt entries name (.list (items.dropLast ++ [.dict inner]))
      | _, _ => none
    | some _ => none

def addEntry (name : String) (value : Value) (entries : Entries) : Option Entries :=
  match entries.lookup name with
  | none => some (entries ++ [(name, value)])
  | some _ => none

/-- A new empty table at the end of a list of tables, which may have to be made. -/
def addTable (name : String) (entries : Entries) : Option Entries :=
  match entries.lookup name with
  | none => some (entries ++ [(name, .list [.dict []])])
  | some (.list items) => some (replaceAt entries name (.list (items ++ [.dict []])))
  | some _ => none

/-- **Which paths are closed.**  Paths in `pending` count as opened once the next header comes. -/
structure Marks where
  opened : List Path := []
  frozen : List Path := []
  pending : List Path := []

namespace Marks

def isOpened (m : Marks) (path : Path) : Bool := m.opened.contains path

/-- A path at or below a frozen one. -/
def isFrozen (m : Marks) (path : Path) : Bool := m.frozen.any fun mark => mark.isPrefixOf path

def openAt (m : Marks) (path : Path) : Marks := { m with opened := path :: m.opened }

def freeze (m : Marks) (path : Path) : Marks := { m with frozen := path :: m.frozen }

def await (m : Marks) (path : Path) : Marks := { m with pending := path :: m.pending }

/-- The pending paths count from now on. -/
def settle (m : Marks) : Marks := { m with opened := m.pending ++ m.opened, pending := [] }

def clear (m : Marks) (path : Path) : Marks :=
  { m with opened := m.opened.filter (!path.isPrefixOf ·), frozen := m.frozen.filter (!path.isPrefixOf ·) }

end Marks

/-- Whether a value is closed once it is written: a list or an inline table. -/
def isClosed : Value → Bool
  | .dict _ | .list _ => true
  | _ => false

end Toml
end PasswordGate
