import Depot.Sql.Migration

namespace Depot.Sql

/-- `recorded` are the migrations whose records it was sent, also those that it refused or that were
rolled back. -/
structure Migrated where
  applied : List Migration.Applied
  unfinished : Option Int
  refuses : String → Bool
  recorded : List (Int × String)

namespace Migrated

def recordOf? : Command → Option (Int × String)
  | .execute ⟨sql, .int version :: .text description :: _, _⟩ =>
    if sql = Migration.recordStatement then some (version, description) else none
  | _ => none

/-- The statements ask for the name of the database, for what was left half done, or for what was
applied. -/
def rows (s : Migrated) (columns : Columns) : List Row :=
  if columns = Migration.databaseName.columns then [[("current_database", .text "depot")]]
  else if columns = Migration.unfinished.columns then
    s.unfinished.toList.map fun version => [("version", .int version)]
  else if columns = Migration.applied.columns then
    s.applied.map fun a => [("version", .int a.version), ("checksum", .text a.checksum)]
  else []

def respond : Script.Database Migrated := fun c s =>
  (if s.refuses c.text then .error (.refused .other none)
    else match c with
      | .execute st => .ok ⟨s.rows st.columns, 0⟩
      | _ => .ok ⟨[], 0⟩,
    { s with recorded := s.recorded ++ (recordOf? c).toList })

end Migrated

end Depot.Sql
