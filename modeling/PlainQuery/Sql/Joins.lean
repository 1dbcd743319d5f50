import PlainQuery.Schema.Basic
import PlainQuery.Sql.Statement

/-!
# Inferring joins

`inferJoins` connects the requested tables to the first of them through the foreign keys of the
schema.  In each round the first table that can be joined to those already joined is taken; the
tables that cannot be reached are left out.
-/

namespace PlainQuery.Sql

/-- The join of `target` through a foreign key of its own on one of the tables. -/
def joinByOwnKey? (target : Table) (included : List Table) : Option Join :=
  target.columns.findSome? fun column =>
    column.reference?.bind fun (table, referenced) =>
      (included.find? fun source => Text.equalIgnoringCase source.name table).map fun source =>
        { target := .ofName target.name
          source := .ofName source.name
          sourceColumn := .ofName referenced
          targetColumn := .ofName column.name }

/-- The join of `target` through a foreign key of one of the tables on it. -/
def joinByOtherKey? (target : Table) (included : List Table) : Option Join :=
  included.findSome? fun source =>
    source.columns.findSome? fun column =>
      column.reference?.bind fun (table, referenced) =>
        if Text.equalIgnoringCase table target.name then
          some
            { target := .ofName target.name
              source := .ofName source.name
              sourceColumn := .ofName column.name
              targetColumn := .ofName referenced }
        else none

/-- The join of `target` to one of the tables; a key of its own comes first. -/
def joinTo? (included : List Table) (target : Table) : Option Join :=
  (joinByOwnKey? target included).or (joinByOtherKey? target included)

/-- The first table that can be joined, with its join and the other tables. -/
def takeJoinable? (included : List Table) : List Table → Option ((Join × Table) × List Table)
  | [] => none
  | table :: pending =>
    match joinTo? included table with
    | some join => some ((join, table), pending)
    | none =>
      (takeJoinable? included pending).map fun (found, others) => (found, table :: others)

/-- Joins pending tables one after the other, at most `rounds` of them. -/
def joinPending (rounds : Nat) (included pending : List Table) : List (Join × Table) :=
  match rounds with
  | 0 => []
  | rounds + 1 =>
    match takeJoinable? included pending with
    | none => []
    | some (found, others) => found :: joinPending rounds (included ++ [found.2]) others

/-- The known tables among the names, without those in `seen` and without repetition. -/
def pendingTables (schema : Schema) (seen : List Table) : List String → List Table
  | [] => []
  | name :: names =>
    match schema.table? name with
    | some table =>
      if seen.any fun other => other.name == table.name then pendingTables schema seen names
      else table :: pendingTables schema (seen ++ [table]) names
    | none => pendingTables schema seen names

/-- The joins that connect the later tables to the first, each with the table it adds. -/
def inferJoins (schema : Schema) : List String → List (Join × Table)
  | [] => []
  | first :: others =>
    match schema.table? first with
    | none => []
    | some anchor =>
      let pending := pendingTables schema [anchor] others
      joinPending pending.length [anchor] pending

end PlainQuery.Sql
