import ModalKeymap.Toml.Reading
import ModalKeymap.Value

/-!
# Building the tables of a TOML document

A document fills one tree of tables.  Which tables may still be extended is
kept beside the tree: a table may be declared once, a value in brackets or
braces is complete when it is written, and a table that a dotted key creates
is closed when the next header begins.
-/

namespace ModalKeymap.Toml

/-- The names that lead to a value. -/
abbrev Key := List String

/-- A document as far as it has been read. -/
structure Builder where
  tables : Members := []
  /-- Tables that may not be declared again. -/
  declared : List Key := []
  /-- Tables that will count as declared from the next header on. -/
  pending : List Key := []
  /-- Values that are complete, with everything in them. -/
  complete : List Key := []
  /-- The table that the current header names. -/
  header : Key := []

namespace Builder

/-- Whether a key is, or is inside, a complete value. -/
def isComplete (builder : Builder) (key : Key) : Bool :=
  builder.complete.any (·.isPrefixOf key)

/-- Whether a table may not be declared again. -/
def isDeclared (builder : Builder) (key : Key) : Bool :=
  builder.declared.contains key

/-- The marks when a new header begins. -/
def beginHeader (builder : Builder) : Builder :=
  { builder with
    declared := builder.pending ++ builder.declared
    pending := [] }

/-- Forget the marks of a key and of everything below it. -/
def release (builder : Builder) (key : Key) : Builder :=
  { builder with
    declared := builder.declared.filter fun other => !key.isPrefixOf other
    complete := builder.complete.filter fun other => !key.isPrefixOf other }

end Builder

/--
Change the table at a key, creating tables on the way.  Where an array of
tables is met its last table is meant, if arrays may be entered at all.
-/
def updateTable (enterArrays : Bool) (update : Members → Option Members) :
    Key → Members → Option Members
  | [], table => update table
  | name :: rest, table =>
      match Members.get? name table with
      | none => do
          let inner ← updateTable enterArrays update rest []
          return Members.insert (.text name) (.mapping inner) table
      | some (.mapping inner) => do
          let changed ← updateTable enterArrays update rest inner
          return Members.insert (.text name) (.mapping changed) table
      | some (.list items) =>
          match enterArrays, items.getLast? with
          | true, some (.mapping inner) => do
              let changed ← updateTable enterArrays update rest inner
              return Members.insert (.text name)
                (.list (items.dropLast ++ [.mapping changed])) table
          | _, _ => none
      | some _ => none

/-- Add a member that must be new. -/
def addNew (name : String) (value : Value) (table : Members) :
    Option Members :=
  match table.get? name with
  | some _ => none
  | none => some (table.insert (.text name) value)

/-- Add a new table to an array of tables, which may be new too. -/
def appendTable (name : String) (table : Members) : Option Members :=
  match table.get? name with
  | none =>
      some (table.insert (.text name) (.list [.mapping []]))
  | some (.list items) =>
      some (table.insert (.text name) (.list (items ++ [.mapping []])))
  | some _ => none

/-- Whether a value is written in brackets or braces. -/
def isNested : Value → Bool
  | .list _ => true
  | .mapping _ => true
  | _ => false

namespace Builder

/-- Store what has become of the tables, unless that failed. -/
def store (builder : Builder) (tables : Option Members) :
    Except ReadFault Builder :=
  match tables with
  | some tables => .ok { builder with tables := tables }
  | none => malformed

/-- Declare the table at a key and make it the current one. -/
def declareTable (builder : Builder) (key : Key) :
    Except ReadFault Builder :=
  if builder.isDeclared key || builder.isComplete key then
    malformed
  else
    { builder with
      declared := key :: builder.declared
      header := key }.store (updateTable true some key builder.tables)

/-- Add a table to the array of tables at a key and make it the current one. -/
def declareArrayTable (builder : Builder) (key : Key) :
    Except ReadFault Builder :=
  if builder.isComplete key then
    malformed
  else
    let released := builder.release key
    { released with
      declared := key :: released.declared
      header := key }.store
        (updateTable true (appendTable (key.getLastD "")) key.dropLast
          builder.tables)

/-- Store a value under a dotted key of the current table. -/
def assign (builder : Builder) (key : Key) (value : Value) :
    Except ReadFault Builder :=
  let parents := key.dropLast
  let parentPath := builder.header ++ parents
  let between := (List.range parents.length).map fun count =>
    builder.header ++ key.take (count + 1)
  if between.any builder.isDeclared || builder.isComplete parentPath then
    malformed
  else
    let marked :=
      { builder with pending := between ++ builder.pending }
    let closed :=
      if isNested value then
        { marked with complete := (builder.header ++ key) :: marked.complete }
      else
        marked
    closed.store (updateTable true (addNew (key.getLastD "") value)
      parentPath builder.tables)

end Builder

/-- The table in braces that is being read, and its complete values. -/
structure InlineBuilder where
  table : Members := []
  complete : List Key := []

/-- Store a value under a dotted key of a table in braces. -/
def InlineBuilder.assign (builder : InlineBuilder) (key : Key)
    (value : Value) : Except ReadFault InlineBuilder :=
  if builder.complete.any (·.isPrefixOf key) then
    malformed
  else
    match updateTable false (addNew (key.getLastD "") value) key.dropLast
        builder.table with
    | none => malformed
    | some table =>
        .ok
          { table := table
            complete :=
              if isNested value then key :: builder.complete
              else builder.complete }

end ModalKeymap.Toml
