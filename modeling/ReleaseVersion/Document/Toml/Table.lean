import ReleaseVersion.Document.Node
import ReleaseVersion.Document.Span

/-!
# Tables of TOML documents

A document builds its tables piece by piece: headers open tables and rows of tables, keys with dots
open tables on the way.  A table remembers how it came about, because that decides who may add to
it: a table that only lies on the way to another is open to a header of its own, one made by dotted
keys is open to further dotted keys, and one with a header is complete.
-/

namespace ReleaseVersion.Document.Toml

/-- How a table came about. -/
inductive Origin where
  /-- It has a header or braces of its own, or is the document itself. -/
  | own
  /-- It lies on the way of a header. -/
  | passed
  /-- It lies on the way of a dotted key. -/
  | dotted
deriving DecidableEq, Repr

/-- The content of a table under construction. -/
inductive Item where
  /-- A finished value. -/
  | value (node : Node Span)
  /-- A table, with the span of its header and values if it has any. -/
  | table (origin : Origin) (span? : Option Span) (entries : List (Key Span × Item))
  /-- A row of tables, the latest in front. -/
  | tables (latestFirst : List (Option Span × List (Key Span × Item)))

/-- The entries of a table. -/
abbrev Entries :=
  List (Key Span × Item)

/-- A table under construction. -/
structure Table where
  origin : Origin
  span? : Option Span
  entries : Entries

namespace Table

/-- A table without entries. -/
def empty (origin : Origin) : Table :=
  ⟨origin, none, []⟩

/-- A table as an item. -/
def item (table : Table) : Item :=
  .table table.origin table.span? table.entries

end Table

/-- The item of a key. -/
def Entries.item? (entries : Entries) (name : String) : Option Item :=
  (List.find? (fun entry => entry.1.label = name) entries).map Prod.snd

/-- The entries with a new one at the end. -/
def Entries.add (entries : Entries) (key : Key Span) (item : Item) : Entries :=
  entries ++ [(key, item)]

/-- The entries with another item for a key that is there. -/
def Entries.replace (entries : Entries) (name : String) (item : Item) : Entries :=
  entries.map fun entry => if entry.1.label = name then (entry.1, item) else entry

/-- The entries without a key. -/
def Entries.remove (entries : Entries) (name : String) : Entries :=
  entries.filter fun entry => entry.1.label ≠ name

/-- Changes the table at the end of a path, making tables of the given origin where there are none
on the way.  A row of tables is entered at its latest table; a dotted key may not pass through a
table that is complete. -/
def changeAt (origin : Origin) (change : Table → Option Table) :
    List (Key Span) → Table → Option Table
  | [], table => change table
  | key :: path, table => do
    match table.entries.item? key.label with
    | none => do
      let made ← changeAt origin change path (Table.empty origin)
      some { table with entries := table.entries.add key made.item }
    | some (.value _) => none
    | some (.table kind span? entries) =>
      if origin = .dotted ∧ kind = .own then none
      else do
        let changed ← changeAt origin change path ⟨kind, span?, entries⟩
        some { table with entries := table.entries.replace key.label changed.item }
    | some (.tables []) => none
    | some (.tables ((span?, entries) :: earlier)) => do
      let changed ← changeAt origin change path ⟨.own, span?, entries⟩
      some
        { table with
          entries := table.entries.replace key.label
            (.tables ((changed.span?, changed.entries) :: earlier)) }

/-- Adds a value under a key that is not there yet. -/
def addValue (key : Key Span) (node : Node Span) (table : Table) : Option Table :=
  match table.entries.item? key.label with
  | some _ => none
  | none => some { table with entries := table.entries.add key (.value node) }

/-- Assigns a value to a dotted key, of which `path` are all parts but the last.  The values of a
table made by dotted keys are given by dotted keys, and those of any other table are not. -/
def assign (path : List (Key Span)) (key : Key Span) (node : Node Span) (table : Table) :
    Option Table :=
  changeAt .dotted
    (fun inner =>
      if inner.origin = .dotted ↔ path ≠ [] then addValue key node inner else none)
    path table

/-- Lengthens the span of a table to the end of a value. -/
def lengthen (stop : Nat) (table : Table) : Table :=
  { table with span? := table.span?.map fun span => { span with stop := stop } }

/-- Opens a table by its header.  A table that so far only lay on the way of another keeps its
entries and moves to the end. -/
def openTable (path : List (Key Span)) (key : Key Span) (span : Span) (root : Table) :
    Option Table :=
  changeAt .passed
    (fun parent => do
      let entries ←
        match parent.entries.item? key.label with
        | none => some []
        | some (.table .passed _ entries) => some entries
        | some _ => none
      some
        { parent with
          entries :=
            (parent.entries.remove key.label).add key (.table .own (some span) entries) })
    path root

/-- Opens one more table of a row of tables by its header. -/
def openRow (path : List (Key Span)) (key : Key Span) (span : Span) (root : Table) :
    Option Table :=
  changeAt .passed
    (fun parent =>
      match parent.entries.item? key.label with
      | none =>
        some
          { parent with entries := parent.entries.add key (.tables [(some span, [])]) }
      | some (.tables rows) =>
        some
          { parent with
            entries := parent.entries.replace key.label (.tables ((some span, []) :: rows)) }
      | some _ => none)
    path root

/-! ## Finished tables -/

/-- The span of a row of tables, from its first to its latest. -/
def rowSpan? (latestFirst : List (Option Span × Entries)) : Option Span :=
  match latestFirst.getLast?, latestFirst.head? with
  | some (some first, _), some (some latest, _) => some ⟨first.start, latest.stop⟩
  | _, _ => none

mutual

/-- The node of an item.  An item without a span of its own stands where its key does. -/
def Item.node (fallback : Span) : Item → Node Span
  | .value node => node
  | .table _ span? entries => .table (span?.getD fallback) (entryNodes entries)
  | .tables latestFirst =>
      .row ((rowSpan? latestFirst).getD fallback) (rowNodes fallback latestFirst).reverse

/-- The nodes of entries. -/
def entryNodes : List (Key Span × Item) → List (Key Span × Node Span)
  | [] => []
  | (key, item) :: rest => (key, item.node key.mark) :: entryNodes rest

/-- The nodes of the tables in a row. -/
def rowNodes (fallback : Span) :
    List (Option Span × List (Key Span × Item)) → List (Node Span)
  | [] => []
  | (span?, entries) :: rest =>
      .table (span?.getD fallback) (entryNodes entries) :: rowNodes fallback rest

end

end ReleaseVersion.Document.Toml
