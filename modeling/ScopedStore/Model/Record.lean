import ScopedStore.Model.Entity

/-!
# Records

The body that an object has depends on its kind, so the types of bodies form a family over the
kinds and every operation that works for all kinds is a function of the kind. A record is a body
with its kind.

As JSON, a record is the object of its own fields with the tag of its kind among them.
-/

set_option autoImplicit false

namespace ScopedStore

namespace Kind

/-- The type of the objects of a kind. -/
@[reducible] def Body : Kind → Type
  | client => Client
  | window => Window
  | workspace => Workspace
  | tab => Tab
  | block => Block

instance (kind : Kind) : DecidableEq kind.Body :=
  match kind with
  | client => inferInstanceAs (DecidableEq Client)
  | window => inferInstanceAs (DecidableEq Window)
  | workspace => inferInstanceAs (DecidableEq Workspace)
  | tab => inferInstanceAs (DecidableEq Tab)
  | block => inferInstanceAs (DecidableEq Block)

/-- The description of the objects of a kind as structures. -/
def described : (kind : Kind) → Json.Structure kind.Body
  | client => Client.described
  | window => Window.described
  | workspace => Workspace.described
  | tab => Tab.described
  | block => Block.described

/-- The objects of a kind as JSON, without the tag of the kind. -/
def bodyFormat (kind : Kind) : Json.Format kind.Body := kind.described.format

/-- The id of an object. -/
def id : (kind : Kind) → kind.Body → String
  | client, body => Client.id body
  | window, body => Window.id body
  | workspace, body => Workspace.id body
  | tab, body => Tab.id body
  | block, body => Block.id body

/-- The version of an object. -/
def version : (kind : Kind) → kind.Body → Int
  | client, body => Client.version body
  | window, body => Window.version body
  | workspace, body => Workspace.version body
  | tab, body => Tab.version body
  | block, body => Block.version body

/-- An object with another version. -/
def withVersion : (kind : Kind) → kind.Body → Int → kind.Body
  | client, body, version => { (body : Client) with version }
  | window, body, version => { (body : Window) with version }
  | workspace, body, version => { (body : Workspace) with version }
  | tab, body, version => { (body : Tab) with version }
  | block, body, version => { (body : Block) with version }

/-- The address of an object. -/
def ref (kind : Kind) (body : kind.Body) : Ref := ⟨kind, kind.id body⟩

end Kind

/-- An object of some kind. -/
structure Record where
  kind : Kind
  body : kind.Body

namespace Record

instance : DecidableEq Record
  | ⟨kind, body⟩, ⟨kind', body'⟩ =>
      if sameKind : kind = kind' then by
        subst sameKind
        exact decidable_of_iff (body = body') ⟨fun same => same ▸ rfl, fun same => by
          injection same with _ sameBody⟩
      else isFalse fun same => sameKind (congrArg Record.kind same)

instance : Inhabited Record := ⟨⟨.client, (default : Client)⟩⟩

/-- The id of the object. -/
def id (record : Record) : String := record.kind.id record.body

/-- The version of the object. -/
def version (record : Record) : Int := record.kind.version record.body

/-- The address of the object. -/
def ref (record : Record) : Ref := record.kind.ref record.body

/-- The object, if it is of the given kind. -/
def as? (kind : Kind) (record : Record) : Option kind.Body :=
  if same : record.kind = kind then some (same ▸ record.body) else none

/-- Reads an object of a known kind. -/
def read (kind : Kind) (value : Json) : Except Json.Fault Record :=
  (kind.bodyFormat.read value).map fun body => ⟨kind, body⟩

/-- The name of the member that holds the tag of the kind. -/
def kindMember : String := "otype"

/-- The members of the object, the tag of its kind among them. -/
def members (record : Record) : List (String × Json) :=
  Entries.insert kindMember (.text record.kind.tag)
    (record.kind.described.fields.members record.body |> SortedMap.ofList).entries

/-- The object as JSON, with the tag of its kind. -/
def write (record : Record) : Json := .object record.members

/-- The object after some of its members, as JSON, were replaced. -/
def withMembers (record : Record) (members : List (String × Json)) : Except Json.Fault Record :=
  read record.kind (.object (Entries.insertAll members record.members))

end Record

end ScopedStore
