import CandleRelay.Toml.Syntax

/-!
# TOML documents

The statements of a document are put together section by section. A header may give its own table to
one that was only on the way to another so far, and to none else; a header of an array adds a table
to what is an array of tables or nothing yet. The key of a statement is set in the table of the last
header.
-/

namespace CandleRelay.Toml

/-- Where the keys of the current section go: the document itself, a table with a header, or one
more table of an array. -/
inductive Section where
  | top
  | table (path : List String) (key : String)
  | item (path : List String) (key : String)

/-- A document in the making: what is complete, the current section, and its entries so far. -/
structure Draft where
  root : Entries := []
  place : Section := .top
  current : Entries := []

namespace Draft

/-- The current section is complete and takes its place. -/
def finish? (d : Draft) : Option Entries :=
  match d.place with
  | .top => some d.current
  | .table path key =>
    Table.update? false
      (fun _ entries =>
        match entries.lookup key with
        | none => some (entries ++ [(key, .table .header d.current)])
        | some _ => none)
      path .header d.root
  | .item path key =>
    Table.update? false
      (fun _ entries =>
        match entries.lookup key with
        | none => some (entries ++ [(key, .tables [d.current])])
        | some (.tables items) => some (Table.put entries key (.tables (d.current :: items)))
        | some _ => none)
      path .header d.root

/-- The entries of the table at the end of a header's path. -/
def entriesAt? : List String → Entries → Option Entries
  | [], entries => some entries
  | key :: path, entries =>
    match entries.lookup key with
    | none => some []
    | some (.table _ inner) => entriesAt? path inner
    | some (.tables (last :: _)) => entriesAt? path last
    | some _ => none

/-- A header begins a section. -/
def start? (root : Entries) (array : Bool) (path : List String) (key : String) : Option Draft :=
  match entriesAt? path root with
  | none => none
  | some entries =>
    match array, entries.lookup key with
    | true, none | true, some (.tables _) => some { root, place := .item path key }
    | false, none => some { root, place := .table path key }
    | false, some (.table ⟨true, false⟩ inner) =>
      let clear (_ : Origin) (entries : Entries) := some (entries.filter (·.1 != key))
      (Table.update? false clear path .header root).map
        fun root => { root, place := .table path key, current := inner }
    | _, _ => none

/-- One statement. -/
def add? (d : Draft) : Statement → Option Draft
  | .header array path key => d.finish?.bind fun root => start? root array path key
  | .pair path key v =>
    (Table.insert? path key v .header d.current).map fun current => { d with current }

end Draft

/-- The table that a document writes, if it writes one. A mark of byte order in front is passed
over. -/
def parse? (input : String) : Option (List (String × Value)) :=
  let cs :=
    match input.toList with
    | '\uFEFF' :: rest => rest
    | cs => cs
  match statements? [] (cs.length + 1) cs with
  | none => none
  | some statements => ((statements.foldlM Draft.add? {}).bind Draft.finish?).map valuesOf

end CandleRelay.Toml
