import ScopedStore.Proofs.Readings

/-!
# The two readers

An object is read by its kind and id (`Handle.get`) or by its address (`Handle.getRef`). Both take
the version from the column of the row, but in different ways: the first one reads the body and
then sets the version, the second one puts the version into the JSON of the body and then reads
that.

**Objects.** A structure is read from the members of an object field by field. So the version can
be taken out (`Json.Fields.SetsApart`): the body is read exactly if its version is and the rest is,
and the second reader needs the rest only. It reads a body whose version makes no sense, and the
first reader does not.

**Arrays.** A body may also be the array of its fields. There is no member under the name of the
version then, so the second reader gives the version of the body, not that of the column.

In every other row the readers find the same (`readers_agree_iff`).
-/

set_option autoImplicit false

namespace ScopedStore

open Json (Fields Format)

/-! ## One field of a structure -/

namespace Json.Fields

variable {σ α β : Type}

/-- The members without the one under a name. -/
def without (name : String) (member : String → Option Json) (other : String) : Option Json :=
  if other = name then none else member other

/-- The number that a member counts; without a member it is zero. -/
def Counts (number : Int) : Option Json → Prop
  | none => number = 0
  | some inside => Format.counter.read inside = .ok number

/-- A value is read exactly if the number under a name is, and the value is without it; the number
is then set in the value. -/
def SetsApart (name : String) (set : α → Int → α) (fields : Fields σ α) : Prop :=
  ∀ (member : String → Option Json) (value : α), fields.fromMembers member = .ok value ↔
    ∃ number rest, Counts number (member name) ∧
      fields.fromMembers (without name member) = .ok rest ∧ value = set rest number

variable {member other : String → Option Json} {name : String}

/-- Only the members under the names of the fields are read. -/
theorem fromMembers_congr {fields : Fields σ α}
    (same : ∀ name ∈ fields.names, other name = member name) :
    fields.fromMembers other = fields.fromMembers member := by
  induction fields with
  | build value => rfl
  | andThen earlier field ih =>
      rw [names] at same
      have before := ih fun name named => same name (List.mem_append_left _ named)
      rw [fromMembers, fromMembers, before, same field.name (List.mem_append_right _ (by simp))]

/-- What a field is read as. -/
def fieldOf (field : Field σ β) (held : Option Json) : Except Fault β :=
  match held with
  | some value => field.format.read value
  | none => field.absent

theorem fromMembers_andThen {earlier : Fields σ (β → α)} {field : Field σ β} {value : α} :
    (earlier.andThen field).fromMembers member = .ok value ↔
      ∃ make inside, earlier.fromMembers member = .ok make ∧
        fieldOf field (member field.name) = .ok inside ∧ value = make inside := by
  have read : (earlier.andThen field).fromMembers member =
      earlier.fromMembers member >>= fun make =>
        fieldOf field (member field.name) >>= fun inside => .ok (make inside) := by
    rw [fromMembers]
    cases member field.name <;> rfl
  simp only [read, bind_eq_ok, Except.ok.injEq]
  constructor
  · rintro ⟨make, read, inside, found, rfl⟩
    exact ⟨make, inside, read, found, rfl⟩
  · rintro ⟨make, inside, read, found, rfl⟩
    exact ⟨make, read, inside, found, rfl⟩

/-- The number is in a field in front of the last one. -/
theorem SetsApart.andThen {set : α → Int → α} {earlier : Fields σ (β → α)}
    (apart : earlier.SetsApart name fun make number inside => set (make inside) number)
    {field : Field σ β} (different : field.name ≠ name) :
    (earlier.andThen field).SetsApart name set := by
  intro member value
  have here : without name member field.name = member field.name := if_neg different
  simp only [fromMembers_andThen, apart member, here]
  constructor
  · rintro ⟨make, inside, ⟨number, rest, counts, read, rfl⟩, found, rfl⟩
    exact ⟨number, rest inside, counts, ⟨rest, inside, read, found, rfl⟩, rfl⟩
  · rintro ⟨number, _, counts, ⟨rest, inside, read, found, rfl⟩, rfl⟩
    exact ⟨_, inside, ⟨number, rest, counts, read, rfl⟩, found, rfl⟩

/-- The number is in the last field. -/
theorem setsApart_counter {set : α → Int → α} {earlier : Fields σ (Int → α)} {get : σ → Int}
    (new : name ∉ earlier.names)
    (sets : ∀ member, earlier.Ensures member fun make =>
      ∀ number old, set (make old) number = make number) :
    (earlier.andThen (.defaulting name .counter get 0)).SetsApart name set := by
  intro member value
  have before : earlier.fromMembers (without name member) = earlier.fromMembers member :=
    fromMembers_congr fun other named => if_neg fun same : other = name => new (same ▸ named)
  have missing : without name member name = none := if_pos rfl
  have counted (held : Option Json) (number : Int) :
      fieldOf (Field.defaulting name .counter get 0) held = .ok number ↔ Counts number held := by
    cases held with
    | some inside => exact Iff.rfl
    | none => exact ⟨fun same => (Except.ok.inj same).symm, fun same => congrArg _ same.symm⟩
  have named : (Field.defaulting name Format.counter get 0).name = name := rfl
  simp only [fromMembers_andThen, named, before, missing, counted]
  constructor
  · rintro ⟨make, number, read, counts, rfl⟩
    exact ⟨number, make 0, counts, ⟨make, 0, read, rfl, rfl⟩, (sets member make read number 0).symm⟩
  · rintro ⟨number, _, counts, ⟨make, _, read, rfl, rfl⟩, rfl⟩
    exact ⟨make, number, read, counts, sets member make read number 0⟩

/-- What is built from members has looked at them. -/
theorem check_of_fromMembers {fields : Fields σ α} {value : α}
    (built : fields.fromMembers member = .ok value) {name : String} {held : Json}
    (found : member name = some held) : fields.check name held = .ok () := by
  induction fields with
  | build value => rfl
  | andThen earlier field ih =>
      obtain ⟨make, inside, read, there, _⟩ := fromMembers_andThen.1 built
      rw [check]
      split
      · rename_i same
        rw [same, found, fieldOf] at there
        rw [there]
        rfl
      · exact ih read

end Json.Fields

namespace Json

/-- An object that holds its members in order is read exactly if its fields are. -/
theorem Structure.read_object_iff {σ : Type} {description : Structure σ}
    {members : List (String × Json)} (increasing : Entries.Increasing members) {value : σ} :
    description.format.read (.object members) = .ok value ↔
      description.fields.fromMembers (fun name => Entries.lookup name members) = .ok value := by
  refine ⟨fun read => ?_, fun built => ?_⟩
  · obtain ⟨_, _, built⟩ := bind_eq_ok.1 read
    exact built
  · have checked : members.forM (fun entry => description.fields.check entry.1 entry.2) = .ok () :=
      forM_eq_ok fun entry member =>
        Fields.check_of_fromMembers built (Entries.lookup_of_mem increasing member)
    exact bind_eq_ok.2 ⟨(), checked, built⟩

/-- A number is no object. -/
theorem readNumber_ne_object {characters rest : List Char} {members : List (String × Json)} :
    readNumber characters ≠ some (.object members, rest) := by
  intro read
  obtain ⟨⟨literal, behind⟩, _, valued⟩ := Option.bind_eq_some_iff.1 read
  obtain ⟨number, _, given⟩ := Option.bind_eq_some_iff.1 valued
  cases number with
  | integer value => cases given
  | double value => cases given

theorem increasing_of_readValue {fuel levels : Nat} {characters rest : List Char}
    {members : List (String × Json)}
    (read : readValue fuel levels characters = some (.object members, rest)) :
    Entries.Increasing members := by
  cases fuel with
  | zero => cases read
  | succ fuel =>
      rw [readValue] at read
      split at read
      · cases read
      · cases read
      · cases read
      · obtain ⟨text, _, given⟩ := Option.map_eq_some_iff.1 read
        cases given
      · split at read
        · cases read
        · split at read
          · cases read
          · obtain ⟨items, _, given⟩ := Option.map_eq_some_iff.1 read
            cases given
      · split at read
        · cases read
        · split at read
          · cases read
            exact .nil
          · obtain ⟨held, _, given⟩ := Option.map_eq_some_iff.1 read
            cases given
            exact (SortedMap.ofList held.1).increasing
      · exact absurd read readNumber_ne_object

/-- An object that is read from a text holds its members in order. -/
theorem increasing_of_parse? {text : String} {members : List (String × Json)}
    (parsed : parse? text = some (.object members)) : Entries.Increasing members := by
  rw [parse?, parseWithin?] at parsed
  split at parsed
  · rename_i value rest read
    split at parsed
    · cases parsed
      exact increasing_of_readValue read
    · cases parsed
  · cases parsed

end Json

namespace Kind

open Json.Fields

/-- **The version of an object can be taken out.** -/
theorem setsApart_version (kind : Kind) :
    kind.described.fields.SetsApart "version" kind.withVersion := by
  cases kind with
  | client =>
      refine .andThen (setsApart_counter (by decide) fun member => ?_) (by decide)
      exact .andThen (ensures_build fun id number old => rfl) _
  | window =>
      refine .andThen (.andThen (.andThen (.andThen (.andThen (.andThen
        (setsApart_counter (by decide) fun member => ?_) (by decide)) (by decide)) (by decide))
        (by decide)) (by decide)) (by decide)
      exact .andThen (ensures_build fun id number old => rfl) _
  | workspace =>
      refine .andThen (.andThen (setsApart_counter (by decide) fun member => ?_) (by decide))
        (by decide)
      exact .andThen (ensures_build fun id number old => rfl) _
  | tab =>
      refine .andThen (.andThen (setsApart_counter (by decide) fun member => ?_) (by decide))
        (by decide)
      exact .andThen (ensures_build fun id number old => rfl) _
  | block =>
      refine .andThen (.andThen (.andThen (.andThen (.andThen
        (setsApart_counter (by decide) fun member => ?_) (by decide)) (by decide)) (by decide))
        (by decide)) (by decide)
      exact .andThen (ensures_build fun id number old => rfl) _

theorem withVersion_withVersion (kind : Kind) (body : kind.Body) (first second : Int) :
    kind.withVersion (kind.withVersion body first) second = kind.withVersion body second := by
  cases kind <;> rfl

variable {kind : Kind} {members : List (String × Json)} {body : kind.Body} {version : Int}

/-- A body is read exactly if its version and the rest are. -/
theorem read_object_iff (increasing : Entries.Increasing members) :
    kind.bodyFormat.read (.object members) = .ok body ↔
      ∃ number rest, Counts number (Entries.lookup "version" members) ∧
        kind.bodyFormat.read (.object (Entries.erase "version" members)) = .ok rest ∧
        body = kind.withVersion rest number := by
  have erased : (fun name => Entries.lookup name (Entries.erase "version" members)) =
      without "version" fun name => Entries.lookup name members :=
    funext fun name => Entries.lookup_erase "version" name members
  simp only [bodyFormat, Json.Structure.read_object_iff increasing,
    Json.Structure.read_object_iff (Entries.increasing_erase "version" increasing), erased]
  exact kind.setsApart_version _ body

/-- With the version of the column put into it, it is read exactly if the rest is. -/
theorem read_withColumnVersion_iff (increasing : Entries.Increasing members)
    (fits : -Bounds.signed64 ≤ version ∧ version < Bounds.signed64) :
    kind.bodyFormat.read (Handle.withColumnVersion (.object members) version) = .ok body ↔
      ∃ rest, kind.bodyFormat.read (.object (Entries.erase "version" members)) = .ok rest ∧
        body = kind.withVersion rest version := by
  have erased : Entries.erase "version" (Entries.insert "version" (.integer version) members) =
      Entries.erase "version" members := by
    refine Entries.eq_of_lookup
      (Entries.increasing_erase _ (Entries.increasing_insert _ _ increasing))
      (Entries.increasing_erase _ increasing) fun name => ?_
    rw [Entries.lookup_erase, Entries.lookup_erase, Entries.lookup_insert]
    split
    · rfl
    · rfl
  have counted (number : Int) : Counts number (some (.integer version)) ↔ number = version := by
    have read : Format.counter.read (.integer version) = .ok version := if_pos fits
    rw [Counts, read, Except.ok.injEq, eq_comm]
  rw [Handle.withColumnVersion, read_object_iff (Entries.increasing_insert _ _ increasing),
    Entries.lookup_insert, if_pos rfl, erased]
  simp only [counted]
  exact ⟨fun ⟨_, rest, same, read, built⟩ => ⟨rest, read, same ▸ built⟩,
    fun ⟨rest, read, built⟩ => ⟨version, rest, rfl, read, built⟩⟩

/-- The two readers make the same of a body in a row with a version. -/
def ReadAlike (kind : Kind) (version : Int) (data : Json) : Prop :=
  ∀ body, kind.bodyFormat.read (Handle.withColumnVersion data version) = .ok body ↔
    ∃ held, kind.bodyFormat.read data = .ok held ∧ body = kind.withVersion held version

/-- The version of a body cannot come between the two readers: in an object it makes sense, unless
nothing else does, and in an array it is that of the column. -/
def VersionInPlace (kind : Kind) (version : Int) : Json → Prop
  | .object members =>
      (∃ number, Counts number (Entries.lookup "version" members)) ∨
        ∀ rest, kind.bodyFormat.read (.object (Entries.erase "version" members)) ≠ .ok rest
  | .array items =>
      ∀ body, kind.bodyFormat.read (.array items) = .ok body → kind.version body = version
  | _ => True

/-- The first reader finds what the second one finds, if it makes sense of the version. -/
theorem exists_read_object_iff (increasing : Entries.Increasing members)
    (fits : -Bounds.signed64 ≤ version ∧ version < Bounds.signed64) :
    (∃ held, kind.bodyFormat.read (.object members) = .ok held ∧
        body = kind.withVersion held version) ↔
      (∃ number, Counts number (Entries.lookup "version" members)) ∧
        kind.bodyFormat.read (Handle.withColumnVersion (.object members) version) = .ok body := by
  simp only [read_object_iff increasing, read_withColumnVersion_iff increasing fits]
  constructor
  · rintro ⟨_, ⟨number, rest, counts, read, rfl⟩, rfl⟩
    exact ⟨⟨number, counts⟩, rest, read, kind.withVersion_withVersion rest number version⟩
  · rintro ⟨⟨number, counts⟩, rest, read, rfl⟩
    exact ⟨_, ⟨number, rest, counts, read, rfl⟩,
      (kind.withVersion_withVersion rest number version).symm⟩

theorem readAlike_object_iff (increasing : Entries.Increasing members)
    (fits : -Bounds.signed64 ≤ version ∧ version < Bounds.signed64) :
    kind.ReadAlike version (.object members) ↔ kind.VersionInPlace version (.object members) := by
  simp only [ReadAlike, exists_read_object_iff increasing fits,
    read_withColumnVersion_iff increasing fits]
  constructor
  · intro alike
    by_cases readable : ∃ rest,
        kind.bodyFormat.read (.object (Entries.erase "version" members)) = .ok rest
    · obtain ⟨rest, read⟩ := readable
      exact .inl ((alike _).1 ⟨rest, read, rfl⟩).1
    · exact .inr fun rest read => readable ⟨rest, read⟩
  · rintro (counts | unreadable) body
    · exact ⟨fun read => ⟨counts, read⟩, fun both => both.2⟩
    · exact ⟨fun ⟨rest, read, _⟩ => absurd read (unreadable rest), fun both => both.2⟩

theorem readAlike_array_iff {items : List Json} :
    kind.ReadAlike version (.array items) ↔ kind.VersionInPlace version (.array items) := by
  constructor
  · intro alike body read
    obtain ⟨held, same, built⟩ := (alike body).1 read
    obtain rfl : body = held := Except.ok.inj (read.symm.trans same)
    rw [built]
    exact kind.version_withVersion body version
  · intro place body
    constructor
    · intro read
      exact ⟨body, read, (place body read ▸ kind.withVersion_version body).symm⟩
    · rintro ⟨held, read, rfl⟩
      have same := kind.withVersion_version held
      rw [place held read] at same
      rw [same]
      exact read

theorem readAlike_iff {data : Json}
    (increasing : ∀ members, data = .object members → Entries.Increasing members)
    (fits : -Bounds.signed64 ≤ version ∧ version < Bounds.signed64) :
    kind.ReadAlike version data ↔ kind.VersionInPlace version data := by
  cases data with
  | object members => exact readAlike_object_iff (increasing members rfl) fits
  | array items => exact readAlike_array_iff
  | null | bool _ | integer _ | double _ | text _ =>
      exact iff_of_true (fun body => ⟨nofun, nofun⟩) trivial

end Kind

/-! ## Rows -/

/-- The version of the row is a signed integer of 64 bits, as the engine keeps them. -/
def Row.VersionFits (row : Row) : Prop :=
  -Bounds.signed64 ≤ row.version ∧ row.version < Bounds.signed64

namespace Handle

variable {handle : Handle} {kind : Kind} {id : String} {row : Row} {data : Json}

/-- The readers find nothing, or find an object, or fail in the same cases, and they find the same
object. -/
structure ReadersAgree (handle : Handle) (kind : Kind) (id : String) : Prop where
  nothing : handle.getRef ⟨kind, id⟩ = .ok none ↔ handle.get kind id = .ok none
  object : ∀ record, handle.getRef ⟨kind, id⟩ = .ok (some record) ↔
    ∃ body, handle.get kind id = .ok (some body) ∧ record = ⟨kind, body⟩

section Data

variable (found : handle.content.row? ⟨kind, id⟩ = some row)
  (parsed : Json.parse? row.body = some data)
include found parsed

theorem get_of_data : handle.get kind id =
    (decode kind ⟨⟨kind, id⟩, row.version, data⟩).map some := by
  rw [get_of_row found, readRow, Repository.toRecord, parsed]
  rfl

theorem get_eq_ok_of_data {body : kind.Body} :
    handle.get kind id = .ok (some body) ↔
      ∃ held, kind.bodyFormat.read data = .ok held ∧ body = kind.withVersion held row.version := by
  rw [get_of_data found parsed, decode]
  cases kind.bodyFormat.read data with
  | error fault => simp [Except.map]
  | ok held =>
      constructor
      · rintro ⟨⟩
        exact ⟨held, rfl, rfl⟩
      · rintro ⟨_, ⟨⟩, rfl⟩
        rfl

theorem getRef_of_data : handle.getRef ⟨kind, id⟩ =
    ((Record.read kind (withColumnVersion data row.version)).mapError .malformed).map some := by
  obtain ⟨table, tabled, inTable⟩ := Database.table_of_row found
  have read : Repository.toRecord ⟨kind, id⟩ row = .ok ⟨⟨kind, id⟩, row.version, data⟩ := by
    rw [Repository.toRecord, parsed]
  have stored : Repository.get handle.content ⟨kind, id⟩ =
      .ok (some ⟨⟨kind, id⟩, row.version, data⟩) := by
    refine bind_eq_ok.2 ⟨table, Repository.table_eq_ok.2 tabled, ?_⟩
    rw [show table.get? id = some row from inTable]
    exact bind_eq_ok.2 ⟨_, read, rfl⟩
  rw [getRef, stored]
  dsimp only [lift, Except.mapError, bind, Except.bind]
  cases Record.read kind (withColumnVersion data row.version) <;> rfl

theorem getRef_eq_ok_of_data {record : Record} :
    handle.getRef ⟨kind, id⟩ = .ok (some record) ↔
      ∃ body, kind.bodyFormat.read (withColumnVersion data row.version) = .ok body ∧
        record = ⟨kind, body⟩ := by
  rw [getRef_of_data found parsed, Record.read]
  cases kind.bodyFormat.read (withColumnVersion data row.version) with
  | error fault => exact ⟨nofun, nofun⟩
  | ok body =>
      refine ⟨fun given => ⟨body, rfl, ?_⟩, fun ⟨_, same, built⟩ => ?_⟩
      · cases given
        rfl
      · cases same
        rw [built]
        rfl

theorem getRef_eq_body_of_data {body : kind.Body} :
    handle.getRef ⟨kind, id⟩ = .ok (some ⟨kind, body⟩) ↔
      kind.bodyFormat.read (withColumnVersion data row.version) = .ok body := by
  rw [getRef_eq_ok_of_data found parsed]
  exact ⟨fun ⟨_, read, same⟩ => by cases same; exact read, fun read => ⟨body, read, rfl⟩⟩

/-- Where there is a row, neither reader finds nothing. -/
theorem ne_nothing_of_data :
    handle.getRef ⟨kind, id⟩ ≠ .ok none ∧ handle.get kind id ≠ .ok none := by
  rw [getRef_of_data found parsed, get_of_data found parsed]
  constructor
  · cases Record.read kind (withColumnVersion data row.version) <;> exact nofun
  · cases decode kind ⟨⟨kind, id⟩, row.version, data⟩ <;> exact nofun

theorem readersAgree_of_data : handle.ReadersAgree kind id ↔ kind.ReadAlike row.version data := by
  constructor
  · intro agree body
    rw [← getRef_eq_body_of_data found parsed, agree.object, ← get_eq_ok_of_data found parsed]
    exact ⟨fun ⟨_, given, same⟩ => by cases same; exact given, fun given => ⟨body, given, rfl⟩⟩
  · intro alike
    obtain ⟨one, other⟩ := ne_nothing_of_data found parsed
    refine ⟨iff_of_false one other, fun record => ?_⟩
    rw [getRef_eq_ok_of_data found parsed]
    refine exists_congr fun body => and_congr_left fun _ => ?_
    rw [alike, get_eq_ok_of_data found parsed]

end Data

/-- Where there is no row, or its body is no JSON, both find nothing or both fail. -/
theorem readersAgree_of_noData (missing : ∀ row ∈ handle.content.row? ⟨kind, id⟩,
    Json.parse? row.body = none) : handle.ReadersAgree kind id := by
  cases stored : Repository.get handle.content ⟨kind, id⟩ with
  | error cause =>
      have typed : handle.get kind id = .error (.ofRepository cause) := by rw [get, stored]; rfl
      have untyped : handle.getRef ⟨kind, id⟩ = .error (.ofRepository cause) := by
        rw [getRef, stored]; rfl
      constructor
      · simp [typed, untyped]
      · simp [typed, untyped]
  | ok held =>
      cases held with
      | none =>
          have typed : handle.get kind id = .ok none := by rw [get, stored]; rfl
          have untyped : handle.getRef ⟨kind, id⟩ = .ok none := by rw [getRef, stored]; rfl
          constructor
          · exact iff_of_true untyped typed
          · simp [typed, untyped]
      | some record =>
          obtain ⟨table, tabled, asked⟩ := bind_eq_ok.1 stored
          have row : handle.content.row? ⟨kind, id⟩ = table.get? id :=
            Database.row?_of_table (Repository.table_eq_ok.1 tabled)
          cases found : table.get? id with
          | none =>
              rw [show table.get? (Ref.mk kind id).id = none from found] at asked
              cases asked
          | some held =>
              rw [show table.get? (Ref.mk kind id).id = some held from found] at asked
              obtain ⟨_, read, _⟩ := bind_eq_ok.1 asked
              rw [Repository.toRecord, missing held (row.trans found)] at read
              cases read

end Handle

/-- **The readers find the same, unless the version of the body comes between them.** Take any
handle, kind and id, and whatever the row there holds; its version is one that the engine can keep.
The readers agree exactly if there is no row, its body is no JSON, or the version of the body is in
place (`Kind.VersionInPlace`).

If the body is an object, the reader by address takes the version from the column, whatever stands
under the name of the version, and the reader by kind finds the same if it can make sense of that;
otherwise it fails. If the body is an array, the reader by address finds exactly what the array
says, and the reader by kind puts the version of the column into that. -/
theorem readers_agree_iff (handle : Handle) (kind : Kind) (id : String)
    (fits : ∀ row ∈ handle.content.row? ⟨kind, id⟩, row.VersionFits) :
    (handle.ReadersAgree kind id ↔ ∀ row ∈ handle.content.row? ⟨kind, id⟩,
      ∀ data ∈ Json.parse? row.body, kind.VersionInPlace row.version data) ∧
    ∀ row ∈ handle.content.row? ⟨kind, id⟩, ∀ body,
      (∀ members, Json.parse? row.body = some (.object members) →
        (handle.getRef ⟨kind, id⟩ = .ok (some ⟨kind, body⟩) ↔
          ∃ rest, kind.bodyFormat.read (.object (Entries.erase "version" members)) = .ok rest ∧
            body = kind.withVersion rest row.version) ∧
        (handle.get kind id = .ok (some body) ↔
          (∃ number, Json.Fields.Counts number (Entries.lookup "version" members)) ∧
            handle.getRef ⟨kind, id⟩ = .ok (some ⟨kind, body⟩))) ∧
      ∀ items, Json.parse? row.body = some (.array items) →
        (handle.getRef ⟨kind, id⟩ = .ok (some ⟨kind, body⟩) ↔
          kind.bodyFormat.read (.array items) = .ok body) ∧
        (handle.get kind id = .ok (some body) ↔
          ∃ held, handle.getRef ⟨kind, id⟩ = .ok (some ⟨kind, held⟩) ∧
            body = kind.withVersion held row.version) := by
  constructor
  · cases found : handle.content.row? ⟨kind, id⟩ with
    | none => exact iff_of_true (Handle.readersAgree_of_noData (by simp [found])) nofun
    | some row =>
        cases parsed : Json.parse? row.body with
        | none =>
            refine iff_of_true (Handle.readersAgree_of_noData (by simp [found, parsed])) ?_
            simp [parsed]
        | some data =>
            have ordered (members : List (String × Json)) (same : data = .object members) :=
              Json.increasing_of_parse? (same ▸ parsed)
            rw [Handle.readersAgree_of_data found parsed,
              Kind.readAlike_iff ordered (fits row found)]
            simp [parsed]
  · intro row found body
    constructor
    · intro members parsed
      have increasing := Json.increasing_of_parse? parsed
      rw [Handle.get_eq_ok_of_data found parsed, Handle.getRef_eq_body_of_data found parsed]
      exact ⟨Kind.read_withColumnVersion_iff increasing (fits row found),
        Kind.exists_read_object_iff increasing (fits row found)⟩
    · intro items parsed
      simp only [Handle.getRef_eq_body_of_data found parsed, Handle.get_eq_ok_of_data found parsed]
      exact ⟨Iff.rfl, Iff.rfl⟩

/-- A database with one row, the tab `t`, that nobody needs to have written through a store. -/
def Database.withTabRow (version : Int) (body : String) : Database :=
  vacant.withTable .tab ((∅ : Table).insert "t" ⟨version, body⟩)

/-- Both readers find the tab in an array that has the version of its row. -/
theorem array_with_column_version_read_alike :
    let handle := Handle.start (.withTabRow 7 "[\"t\",7,\"n\",[]]") true default 0
    (∀ row ∈ handle.content.row? ⟨.tab, "t"⟩, row.VersionFits) ∧ handle.ReadersAgree .tab "t" ∧
      handle.getRef ⟨.tab, "t"⟩ = .ok (some ⟨.tab, ⟨"t", 7, "n", []⟩⟩) := by
  intro handle
  have fits : ∀ row ∈ handle.content.row? ⟨.tab, "t"⟩, row.VersionFits := by
    rintro row ⟨⟩
    exact ⟨by decide, by decide⟩
  refine ⟨fits, (readers_agree_iff handle .tab "t" fits).1.2 ?_, by decide +kernel⟩
  rintro row ⟨⟩ data parsed
  have whole : Json.parse? "[\"t\",7,\"n\",[]]" =
      some (.array [.text "t", .integer 7, .text "n", .array []]) := by decide +kernel
  obtain rfl := Option.some.inj (whole.symm.trans parsed)
  rintro body ⟨⟩
  rfl

/-- A tab is stored as an array, with version 7 in the column and 3 in the array. The reader by kind
gives version 7, and the reader by address version 3. -/
theorem array_read_with_its_own_version :
    let handle := Handle.start (.withTabRow 7 "[\"t\",3,\"n\",[]]") true default 0
    handle.get .tab "t" = .ok (some ⟨"t", 7, "n", []⟩) ∧
      handle.getRef ⟨.tab, "t"⟩ = .ok (some ⟨.tab, ⟨"t", 3, "n", []⟩⟩) ∧
      ¬handle.ReadersAgree .tab "t" := by
  intro handle
  have typed : handle.get .tab "t" = .ok (some ⟨"t", 7, "n", []⟩) := by decide +kernel
  have untyped : handle.getRef ⟨.tab, "t"⟩ = .ok (some ⟨.tab, ⟨"t", 3, "n", []⟩⟩) := by
    decide +kernel
  refine ⟨typed, untyped, fun agree => ?_⟩
  obtain ⟨body, given, same⟩ := (agree.object _).1 untyped
  cases same
  cases typed.symm.trans given

end ScopedStore
