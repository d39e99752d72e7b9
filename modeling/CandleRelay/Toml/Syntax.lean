import CandleRelay.Toml.Scalar

/-!
# TOML notation

A document is a sequence of statements, each on lines of its own: a table header, or a key with its
value. Keys are dotted paths of bare or quoted names. Arrays may stretch over lines and hold
comments; inline tables stay on one line. Neither nests deeper than 79 levels, and no path has more
than 79 names.

Inline tables obey the same rule of assembly as whole documents, see `Table.insert?`: a dotted key
goes through tables that dotted keys made, and nothing is set twice.
-/

namespace CandleRelay.Toml

/-- How a table came to be: by being on the way to another one, and then perhaps by a dotted key. -/
structure Origin where
  implied : Bool
  dotted : Bool
  deriving DecidableEq, Repr

/-- What stands under a key while a document is put together. -/
inductive Node where
  | value (v : Value)
  | table (origin : Origin) (entries : List (String × Node))
  /-- An array of tables, latest first; each of them has its own header. -/
  | tables (items : List (List (String × Node)))
  deriving Inhabited

/-- The entries of a table. -/
abbrev Entries := List (String × Node)

/-- A table with a header, or the document itself. -/
def Origin.header : Origin := ⟨false, false⟩

namespace Table

/-- The entries with another node under a key. -/
def put (entries : Entries) (key : String) (node : Node) : Entries :=
  if (entries.lookup key).isSome then
    entries.map fun e => if e.1 == key then (key, node) else e
  else entries ++ [(key, node)]

/-- Changes the table at the end of a path, which leads through the last one of an array of tables.
Tables that are not there are made. A dotted path does not go into tables with a header. -/
def update? (dotted : Bool) (change : Origin → Entries → Option Entries) :
    List String → Origin → Entries → Option Entries
  | [], origin, entries => change origin entries
  | key :: path, _, entries =>
    match entries.lookup key with
    | none =>
      (update? dotted change path ⟨true, dotted⟩ []).map fun inner =>
        put entries key (.table ⟨true, dotted⟩ inner)
    | some (.value _) => none
    | some (.tables []) => none
    | some (.tables (last :: items)) =>
      (update? dotted change path .header last).map fun last =>
        put entries key (.tables (last :: items))
    | some (.table origin inner) =>
      if dotted && !origin.implied then none
      else (update? dotted change path origin inner).map fun inner =>
        put entries key (.table origin inner)

/-- Sets a value under a dotted key. The table it goes to was made by a dotted key too, unless the
key has no dots, and has no such entry yet. -/
def insert? (path : List String) (key : String) (v : Value) (origin : Origin) (entries : Entries) :
    Option Entries :=
  update? true
    (fun origin entries =>
      if origin.dotted == path.isEmpty then none
      else if (entries.lookup key).isSome then none
      else some (entries ++ [(key, .value v)]))
    path origin entries

end Table

mutual

/-- The value that a node stands for. -/
def Node.toValue : Node → Value
  | .value v => v
  | .table _ entries => .table (valuesOf entries)
  | .tables items => .array (tablesOf items).reverse

/-- The values under the keys of a table. -/
def valuesOf : List (String × Node) → List (String × Value)
  | [] => []
  | (k, n) :: rest => (k, n.toValue) :: valuesOf rest

/-- The tables of an array. -/
def tablesOf : List (List (String × Node)) → List Value
  | [] => []
  | entries :: rest => .table (valuesOf entries) :: tablesOf rest

end

/-- Drops the blanks at the beginning. -/
def skipBlanks (cs : List Char) : List Char := cs.dropWhile isBlank

/-- What follows a line end. -/
def afterLineEnd? : List Char → Option (List Char)
  | '\n' :: rest => some rest
  | '\r' :: '\n' :: rest => some rest
  | _ => none

/-- What follows a comment, if there is one; its line end stays. -/
def skipComment : List Char → List Char
  | '#' :: rest => rest.dropWhile isPlain
  | cs => cs

/-- What follows the end of a statement: blanks, perhaps a comment, and a line end or nothing. -/
def endStatement? (cs : List Char) : Option (List Char) :=
  match skipComment (skipBlanks cs) with
  | [] => some []
  | cs => afterLineEnd? cs

/-- Drops blanks, comments and line ends, at most `fuel` lines of them. A comment has to end with
its line. -/
def skipLines? : (fuel : Nat) → List Char → Option (List Char)
  | 0, cs => some cs
  | fuel + 1, cs =>
    match skipBlanks cs with
    | '#' :: rest => (afterLineEnd? (rest.dropWhile isPlain)).bind (skipLines? fuel)
    | cs =>
      match afterLineEnd? cs with
      | some rest => skipLines? fuel rest
      | none => some cs

/-- The characters of bare names. -/
def isNameChar (c : Char) : Bool := c.isAlphanum || c == '_' || c == '-'

/-- One name of a path. -/
def name? : List Char → Option (String × List Char)
  | '"' :: rest => lineString? '"' rest
  | '\'' :: rest => lineString? '\'' rest
  | cs =>
    let run := cs.takeWhile isNameChar
    if run.isEmpty then none else some (String.ofList run, cs.dropWhile isNameChar)

/-- The names of a path, at most `fuel` of them, with blanks around each. -/
def path? : (fuel : Nat) → List Char → Option (List String × List Char)
  | 0, _ => none
  | fuel + 1, cs =>
    match name? (skipBlanks cs) with
    | none => none
    | some (name, rest) =>
      match skipBlanks rest with
      | '.' :: rest => (path? fuel rest).map fun (names, rest) => (name :: names, rest)
      | rest => some ([name], rest)

/-- How many names a path may have, and how many arrays and inline tables may be open at once. -/
def limit : Nat := 79

/-- A path as the tables to go through and the key in the last one. -/
def key? (cs : List Char) : Option (List String × String × List Char) :=
  match path? limit cs with
  | some (names, rest) => names.getLast?.map fun key => (names.dropLast, key, rest)
  | none => none

/-- The items of an array after its bracket or a comma; `value?` reads one of them. -/
def items? (value? : List Char → Option (Value × List Char)) (done : List Value) :
    (fuel : Nat) → List Char → Option (Value × List Char)
  | 0, _ => none
  | fuel + 1, cs =>
    match skipLines? cs.length cs with
    | some (']' :: rest) => some (.array done.reverse, rest)
    | some cs =>
      match value? cs with
      | none => none
      | some (v, rest) =>
        match skipLines? rest.length rest with
        | some (',' :: rest) => items? value? (v :: done) fuel rest
        | some (']' :: rest) => some (.array (v :: done).reverse, rest)
        | _ => none
    | none => none

/-- One key of an inline table with its value. -/
def pair? (value? : List Char → Option (Value × List Char)) (entries : Entries) (cs : List Char) :
    Option (Entries × List Char) :=
  match key? cs with
  | some (path, key, '=' :: rest) =>
    match value? (skipBlanks rest) with
    | some (v, rest) =>
      (Table.insert? path key v .header entries).map fun entries => (entries, skipBlanks rest)
    | none => none
  | _ => none

/-- The keys of an inline table, of which there is one at least. -/
def pairs? (value? : List Char → Option (Value × List Char)) (entries : Entries) :
    (fuel : Nat) → List Char → Option (Value × List Char)
  | 0, _ => none
  | fuel + 1, cs =>
    match pair? value? entries cs with
    | some (entries, '}' :: rest) => some (.table (valuesOf entries), rest)
    | some (entries, ',' :: rest) => pairs? value? entries fuel rest
    | _ => none

/-- The value at the beginning of a text, in which `room` arrays and inline tables may be open at
once. -/
def value? : (room : Nat) → List Char → Option (Value × List Char)
  | _, '"' :: rest => (string? '"' rest).map fun (s, rest) => (.text s, rest)
  | _, '\'' :: rest => (string? '\'' rest).map fun (s, rest) => (.text s, rest)
  | room + 1, '[' :: rest => items? (value? room) [] rest.length rest
  | room + 1, '{' :: rest =>
    match skipBlanks rest with
    | '}' :: rest => some (.table [], rest)
    | rest => pairs? (value? room) [] rest.length rest
  | _, cs => bare? cs

/-- One statement. -/
inductive Statement where
  /-- The header of a table, or of one more table of an array. -/
  | header (array : Bool) (path : List String) (key : String)
  | pair (path : List String) (key : String) (v : Value)

/-- The statement at the beginning of a text. -/
def statement? : List Char → Option (Statement × List Char)
  | '[' :: '[' :: rest =>
    match key? rest with
    | some (path, key, ']' :: ']' :: rest) =>
      (endStatement? rest).map fun rest => (.header true path key, rest)
    | _ => none
  | '[' :: rest =>
    match key? rest with
    | some (path, key, ']' :: rest) =>
      (endStatement? rest).map fun rest => (.header false path key, rest)
    | _ => none
  | cs =>
    match key? cs with
    | some (path, key, '=' :: rest) =>
      match value? limit (skipBlanks rest) with
      | some (v, rest) => (endStatement? rest).map fun rest => (.pair path key v, rest)
      | none => none
    | _ => none

/-- The statements of a text, of which there are at most `fuel`. -/
def statements? (done : List Statement) : (fuel : Nat) → List Char → Option (List Statement)
  | 0, _ => none
  | fuel + 1, cs =>
    match skipBlanks cs with
    | [] => some done.reverse
    | '#' :: rest =>
      match rest.dropWhile isPlain with
      | [] => some done.reverse
      | rest => (afterLineEnd? rest).bind (statements? done fuel)
    | cs =>
      match afterLineEnd? cs with
      | some rest => statements? done fuel rest
      | none =>
        match statement? cs with
        | some (s, rest) => statements? (s :: done) fuel rest
        | none => none

end CandleRelay.Toml
