import ScopedStore.Database.Content
import ScopedStore.Json.Parser
import ScopedStore.Json.Structure

/-!
# Databases as texts

The file of a database holds one JSON object: the schema version, the tables of objects that
exist, and the table of tombstones if it exists. Bodies are texts inside that text, so that they
come back exactly as they were stored.
-/

set_option autoImplicit false

namespace ScopedStore

open Json (Structure Fields Format Field)

/-- A row as a structure. -/
def Row.described : Structure Row where
  title := "Row"
  fields := Fields.build Row.mk
    |>.andThen (.required "version" .counter Row.version)
    |>.andThen (.required "body" .text Row.body)

/-- A table as a structure, with the kind of its objects. -/
def Table.described : Structure (Kind × Table) where
  title := "Table"
  fields := Fields.build Prod.mk
    |>.andThen (.required "kind" Kind.format Prod.fst)
    |>.andThen (.required "rows" (.map Row.described.format) Prod.snd)

/-- A tombstone as a structure, with the time of the deletion. -/
def TombstoneKey.described : Structure (TombstoneKey × Int) where
  title := "Tombstone"
  fields := Fields.build (fun tag id time => (⟨tag, id⟩, time))
    |>.andThen (.required "tag" .text fun entry => entry.1.tag)
    |>.andThen (.required "id" .text fun entry => entry.1.id)
    |>.andThen (.required "time" .counter Prod.snd)

namespace Database

/-- A database as a structure. -/
def described : Structure Database where
  title := "Database"
  fields :=
    Fields.build (fun userVersion tables tombstones =>
        ⟨userVersion, .ofList tables, tombstones.map .ofList⟩)
    |>.andThen (.required "version" .counter Database.userVersion)
    |>.andThen (.required "tables" (.list Table.described.format) fun database =>
        database.tables.entries)
    |>.andThen (.required "tombstones" (.optional (.list TombstoneKey.described.format))
        fun database => database.tombstones.map SortedMap.entries)

/-- The text of a database. -/
def toText (database : Database) : String := (described.format.write database).render

/-- The database of a text, if it is the text of one. -/
def ofText? (text : String) : Option Database :=
  (Json.parse? text).bind fun value => (described.format.read value).toOption

end Database

end ScopedStore
