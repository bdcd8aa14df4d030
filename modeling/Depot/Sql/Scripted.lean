import Depot.Json.Access
import Depot.Sql.Script

namespace Depot.Sql

/-- `answers` are given to the statements one by one; when none is left nothing is found and nothing
touched. `refusals` are the faults of the commands around transactions. -/
structure Scripted where
  answers : List (Columns → Except DatabaseFault Reply)
  refusals : Command → Option DatabaseFault
  log : List Command

def Scripted.respond : Script.Database Scripted
  | .execute st, s =>
    let log := s.log ++ [.execute st]
    match s.answers with
    | [] => (.ok ⟨[], 0⟩, { s with log := log })
    | a :: rest => (a st.columns, { s with answers := rest, log := log })
  | c, s =>
    (match s.refusals c with
      | some f => .error f
      | none => .ok ⟨[], 0⟩, { s with log := s.log ++ [c] })

namespace CellType

def blank : CellType → Cell
  | .int => .int 0
  | .bool => .bool false
  | .text => .text ""
  | .texts => .texts []
  | .uid => .uid ⟨0⟩
  | .time => .time Timestamp.y2000
  | .optional t => t.blank

/-- A value that does not suit the column counts as null. -/
def ofJson : CellType → Json → Cell
  | .optional t, j => t.ofJson j
  | .int, .int n => .int n
  | .bool, .bool b => .bool b
  | .text, .str s => .text s
  | .texts, .arr xs => .texts (xs.filterMap Json.str?)
  | .time, .int n => .time ⟨n⟩
  | .uid, .str s => (Uid.ofText? s).elim .null .uid
  | _, _ => .null

end CellType

def Row.ofJson (columns : Columns) (j : Json) : Row :=
  columns.map fun (name, t) => (name, (j.get? name).elim t.blank t.ofJson)

def faultOfJson (j : Json) : DatabaseFault :=
  .refused (.ofState (j.textAt "code")) (j.textAt? "constraint")

/-- A statement touches as many rows as it gives back unless it is said otherwise. -/
def Reply.ofJson (columns : Columns) (j : Json) : Except DatabaseFault Reply :=
  match j.get? "error" with
  | some e => .error (faultOfJson e)
  | none =>
    let rows := (j.itemsAt "rows").map (Row.ofJson columns)
    .ok ⟨rows, (j.natAt? "affected").getD rows.length⟩

/-- `replies` are for the statements in their order, `transaction` holds faults by the text of the
command. -/
def Scripted.ofJson (j : Json) : Scripted :=
  ⟨(j.itemsAt "replies").map fun r columns => Reply.ofJson columns r,
    fun c => ((j.member "transaction").get? c.text).map faultOfJson, []⟩

def Param.toJson : Param → Json
  | .null => .null
  | .int n => .int n
  | .bool b => .bool b
  | .text s => .str s
  | .texts ss => Json.ofList .str ss
  | .ints ns => Json.ofList .int ns
  | .uid u => .str u.text
  | .hash h => .str h.shown

end Depot.Sql
