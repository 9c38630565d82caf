import ScopedStore.Database.Content

/-!
# Direct access to a database

What anybody can do to a database who opens it without this library: read and write rows and
tombstones of any content, and set the schema version. Nothing is checked but that the table is
there, and that the database can be written. The repository has to cope with whatever is found
afterwards.
-/

set_option autoImplicit false

namespace ScopedStore

/-- What is done to a database directly. A row or a tombstone is put there whatever was in its
place. -/
inductive DirectAction
  | putRow (kind : Kind) (id : String) (row : Row)
  | removeRow (kind : Kind) (id : String)
  | putTombstone (key : TombstoneKey) (time : Int)
  | readRows (kind : Kind)
  | setVersion (version : Int)

/-- What comes of it; of rows that were written or removed it is the number. -/
inductive DirectAnswer
  | done
  | count (rows : Nat)
  | rows (table : Table)

namespace DirectAction

/-- The name of the table that an action needs, if it needs one. -/
def table? : DirectAction → Option String
  | putRow kind .. | removeRow kind _ | readRows kind => some kind.tableName
  | putTombstone .. => some Database.tombstoneTableName
  | setVersion _ => none

/-- Does an action write anything? -/
def isChange : DirectAction → Bool
  | readRows _ => false
  | _ => true

/-- What an action gives, and what it makes of the content if it changes anything. -/
def effect (database : Database) :
    DirectAction → Except EngineError (DirectAnswer × Option Database)
  | putRow kind id row => do
      let table ← database.rows kind
      return (.count 1, some (database.withTable kind (table.insert id row)))
  | removeRow kind id => do
      let table ← database.rows kind
      let removed := if table.contains id then 1 else 0
      return (.count removed, some (database.withTable kind (table.erase id)))
  | putTombstone key time => do
      let tombstones := (← database.deletions).insert key time
      return (.count 1, some { database with tombstones := some tombstones })
  | readRows kind => do return (.rows (← database.rows kind), none)
  | setVersion version =>
      .ok (.done, some { database with userVersion := Database.headerVersion version })

/-- Does an action: what it gives, and the content if it writes any. -/
def run (found : Found) (action : DirectAction) :
    Except EngineError (DirectAnswer × Option Database) := do
  let (answer, content) ← action.effect found.content
  return (answer, ← content.mapM found.changed)

end DirectAction

end ScopedStore
