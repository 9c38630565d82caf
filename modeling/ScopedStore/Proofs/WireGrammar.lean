import ScopedStore.Proofs.TwoReaders
import ScopedStore.Proofs.WireForm

/-!
# What is read as a change

A change is read from an object that says what was done, to an object of which kind and id, and, if
it was written, what it is now. Three things are settled here for every JSON value.

**What is accepted** is exactly what is spelled like that (`Change.Spelled`).

**What is passed over.** Reading a deletion looks at the address alone, and reading an update at the
kind and the fields that objects of this kind have. A structure passes over all members that
belong to none of its fields (`Json.Structure.read_filter`), so from two objects that agree on its
fields it reads the same (`Json.Structure.read_congr`), or reports the same fault.

**What is reported** of an object that is not accepted is the fault of the first part that has one,
in the order of the kind of change, the tag, the id and the fields (`Change.FirstFault`).
-/

set_option autoImplicit false

namespace ScopedStore

open Json (Fault Fields Structure)

/-! ## Members that belong to no field -/

namespace Json

variable {σ α : Type}

/-- What belongs to no field is passed over. -/
theorem Fields.check_of_not_mem {fields : Fields σ α} {name : String} (value : Json)
    (other : name ∉ fields.names) : fields.check name value = .ok () := by
  induction fields with
  | build value => rfl
  | andThen earlier field ih =>
      rw [names, List.mem_append, not_or, List.mem_singleton] at other
      rw [check, if_neg (Ne.symm other.2)]
      exact ih other.1

namespace Structure

variable {description : Structure σ} {members others : List (String × Json)}

/-- What is left out makes no difference to a check that it passes. -/
theorem forM_filter {check : String × Json → Except Fault Unit} {keeps : String × Json → Bool}
    (passes : ∀ entry, keeps entry = false → check entry = .ok ())
    (members : List (String × Json)) : (members.filter keeps).forM check = members.forM check := by
  induction members with
  | nil => rfl
  | cons entry rest ih =>
      cases kept : keeps entry with
      | true =>
          rw [List.filter_cons_of_pos kept]
          exact congrArg (fun checked => check entry >>= fun _ => checked) ih
      | false =>
          rw [List.filter_cons_of_neg (Bool.eq_false_iff.1 kept), ih]
          exact (congrArg (fun checked : Except Fault Unit => checked >>= fun _ => rest.forM check)
            (passes entry kept)).symm

/-- **Members that belong to no field make no difference**, neither to what is read nor to the
fault that is reported. -/
theorem read_filter {keeps : String → Bool}
    (kept : ∀ name ∈ description.fields.names, keeps name = true)
    (members : List (String × Json)) :
    description.format.read (.object (members.filter fun entry => keeps entry.1)) =
      description.format.read (.object members) := by
  have checks : (members.filter fun entry => keeps entry.1).forM (fun entry =>
        description.fields.check entry.1 entry.2) =
      members.forM fun entry => description.fields.check entry.1 entry.2 :=
    forM_filter (fun entry left => Fields.check_of_not_mem entry.2 fun named =>
      Bool.eq_false_iff.1 left (kept entry.1 named)) members
  have built : (description.fields.fromMembers fun name =>
        Entries.lookup name (members.filter fun entry => keeps entry.1)) =
      description.fields.fromMembers fun name => Entries.lookup name members :=
    Fields.fromMembers_congr fun name named => by
      rw [Entries.lookup_filter, if_pos (kept name named)]
  have read (members : List (String × Json)) : description.format.read (.object members) =
      members.forM (fun entry => description.fields.check entry.1 entry.2) >>= fun _ =>
        description.fields.fromMembers fun name => Entries.lookup name members := rfl
  rw [read, read, checks, built]

/-- **Objects with the same members under the names of the fields are read alike.** -/
theorem read_congr (increasing : Entries.Increasing members)
    (increasing' : Entries.Increasing others)
    (same : ∀ name ∈ description.fields.names,
      Entries.lookup name others = Entries.lookup name members) :
    description.format.read (.object others) = description.format.read (.object members) := by
  let keeps (name : String) : Bool := decide (name ∈ description.fields.names)
  have kept : ∀ name ∈ description.fields.names, keeps name = true := fun _ => decide_eq_true
  have chosen : (others.filter fun entry => keeps entry.1) =
      members.filter fun entry => keeps entry.1 := by
    refine Entries.eq_of_lookup (increasing'.sublist List.filter_sublist)
      (increasing.sublist List.filter_sublist) fun name => ?_
    rw [Entries.lookup_filter, Entries.lookup_filter]
    split
    · rename_i named
      exact same name (of_decide_eq_true named)
    · rfl
  rw [← read_filter kept others, chosen, read_filter kept]

end Structure

end Json

namespace Record

variable {kind : Kind} {members others : List (String × Json)}

theorem read_filter {keeps : String → Bool}
    (kept : ∀ name ∈ kind.described.fields.names, keeps name = true)
    (members : List (String × Json)) :
    read kind (.object (members.filter fun entry => keeps entry.1)) =
      read kind (.object members) :=
  congrArg (Except.map (Record.mk kind)) (Structure.read_filter kept members)

theorem read_congr (increasing : Entries.Increasing members)
    (increasing' : Entries.Increasing others)
    (same : ∀ name ∈ kind.described.fields.names,
      Entries.lookup name others = Entries.lookup name members) :
    read kind (.object others) = read kind (.object members) :=
  congrArg (Except.map (Record.mk kind)) (Structure.read_congr increasing increasing' same)

theorem read_insert {name : String} (other : name ∉ kind.described.fields.names) (value : Json)
    (members : List (String × Json)) :
    read kind (.object (Entries.insert name value members)) = read kind (.object members) := by
  let keeps (field : String) : Bool := field != name
  have kept : ∀ field ∈ kind.described.fields.names, keeps field = true :=
    fun field named => bne_iff_ne.2 fun same => other (same ▸ named)
  have left : keeps name = false := bne_self_eq_false name
  rw [← read_filter kept (Entries.insert name value members), Entries.filter_insert left,
    read_filter kept]

end Record

/-! ## What spells an action -/

/-- **A case is read from its name**, and from the object whose only member has this name and is
null. -/
theorem Json.Format.choice_eq_ok_iff {α : Type} {cases : List (String × α)} {name : α → String}
    {value : Json} {found : α} : (choice cases name).read value = .ok found ↔
      ∃ given, (value = .text given ∨ value = .object [(given, .null)]) ∧
        cases.lookup given = some found := by
  constructor
  · intro read
    cases value with
    | text given =>
        refine ⟨given, .inl rfl, ?_⟩
        dsimp only [choice] at read
        split at read
        · cases read
          assumption
        · cases read
    | object members =>
        rcases members with _ | ⟨⟨given, inside⟩, _ | ⟨second, more⟩⟩
        · cases read
        · obtain ⟨held, spelled, rest⟩ := bind_eq_ok.1 read
          cases inside with
          | null =>
              cases rest
              refine ⟨given, .inr rfl, ?_⟩
              dsimp only at spelled
              split at spelled
              · cases spelled
                assumption
              · cases spelled
          | _ => cases rest
        · cases read
    | null | bool _ | integer _ | double _ | array _ => cases read
  · rintro ⟨given, rfl | rfl, spelled⟩
    · simp only [choice, spelled]
    · simp only [choice, spelled]
      rfl

namespace Action

/-- A value spells an action: it is the name of the action, or the object whose only member has this
name and is null. -/
inductive Spells (action : Action) : Json → Prop
  | name : Spells action (.text action.name)
  | member : Spells action (.object [(action.name, .null)])

theorem lookup_eq_some_iff {given : String} {action : Action} :
    [("update", update), ("delete", delete)].lookup given = some action ↔
      given = action.name := by
  refine ⟨fun found => ?_, fun same => by rw [same]; cases action <;> rfl⟩
  obtain ⟨before, behind, split, _⟩ := List.lookup_eq_some_iff.1 found
  have member : (given, action) ∈ [("update", update), ("delete", delete)] :=
    split ▸ List.mem_append_right before List.mem_cons_self
  simp only [List.mem_cons, List.not_mem_nil, or_false, Prod.mk.injEq] at member
  obtain ⟨rfl, rfl⟩ | ⟨rfl, rfl⟩ := member
  · rfl
  · rfl

theorem read_eq_ok_iff {value : Json} {action : Action} :
    format.read value = .ok action ↔ action.Spells value := by
  rw [format, Json.Format.choice_eq_ok_iff]
  simp only [lookup_eq_some_iff]
  constructor
  · rintro ⟨given, rfl | rfl, rfl⟩
    · exact .name
    · exact .member
  · rintro (_ | _)
    · exact ⟨_, .inl rfl, rfl⟩
    · exact ⟨_, .inr rfl, rfl⟩

end Action

namespace Change

variable {members others : List (String × Json)}

/-! ## The parts of a change -/

/-- The action that the members ask for. -/
def readAction (members : List (String × Json)) : Except Fault Action :=
  match Entries.lookup actionMember members with
  | some value => Action.format.read value
  | none => .error (.missingField actionMember)

/-- The kind that the members name. -/
def readKind (members : List (String × Json)) : Except Fault Kind := do
  let tag ← readText Record.kindMember members
  match Kind.ofTag? tag with
  | some kind => return kind
  | none => throw (.unknownKind tag)

/-- What became of the object at an address. -/
def readOutcome (members : List (String × Json)) (ref : Ref) : Action → Except Fault Change
  | .delete => .ok (.deleted ref)
  | .update =>
      (Record.read ref.kind (.object members)).map fun record => ⟨.update, ref, some record⟩

theorem id_mem_names (kind : Kind) : idMember ∈ kind.described.fields.names := by
  cases kind <;> decide

/-- **A change is read part by part.** The kind of change belongs to no object, so it makes no
difference that it is taken away before the object is read. -/
theorem read_object (members : List (String × Json)) : read (.object members) =
    readAction members >>= fun action => readKind members >>= fun kind =>
      readText idMember members >>= fun id => readOutcome members ⟨kind, id⟩ action := by
  have noField (kind : Kind) : ∀ name ∈ kind.described.fields.names,
      (compare actionMember name != .eq) = true := by
    intro name named
    have other : actionMember ≠ name := fun same => (reserved_not_mem_names kind).1 (same ▸ named)
    simpa using other
  have record (kind : Kind) : Record.read kind (.object (Entries.erase actionMember members)) =
      Record.read kind (.object members) := Record.read_filter (noField kind) members
  rw [read, readAction, readKind]
  cases Entries.lookup actionMember members with
  | none => rfl
  | some value =>
      dsimp only
      cases Action.format.read value with
      | error fault => rfl
      | ok action =>
          cases readText Record.kindMember members with
          | error fault => rfl
          | ok tag =>
              dsimp only [bind, Except.bind]
              cases Kind.ofTag? tag with
              | none => rfl
              | some kind =>
                  dsimp only [pure, Except.pure]
                  cases readText idMember members with
                  | error fault => rfl
                  | ok id =>
                      cases action with
                      | delete => rfl
                      | update =>
                          simp only [record, readOutcome]
                          cases Record.read kind (.object members) <;> rfl

/-! ## What is accepted -/

/-- The members ask for an action. -/
def Asks (members : List (String × Json)) (action : Action) : Prop :=
  ∃ value, Entries.lookup actionMember members = some value ∧ action.Spells value

/-- The members name a kind. -/
def Names (members : List (String × Json)) (kind : Kind) : Prop :=
  Entries.lookup Record.kindMember members = some (.text kind.tag)

/-- The members spell a change: a kind of change, an address and, if an object was written, a record
of it. -/
inductive Spelled (members : List (String × Json)) : Change → Prop
  | deleted {ref : Ref} (asks : Asks members .delete) (names : Names members ref.kind)
      (id : Entries.lookup idMember members = some (.text ref.id)) : Spelled members (.deleted ref)
  | updated {record : Record} (asks : Asks members .update) (names : Names members record.kind)
      (id : Entries.lookup idMember members = some (.text record.id))
      (body : Record.read record.kind (.object members) = .ok record) :
      Spelled members (.updated record)

theorem readAction_eq_ok_iff {action : Action} :
    readAction members = .ok action ↔ Asks members action := by
  rw [readAction, Asks]
  cases Entries.lookup actionMember members with
  | none => exact ⟨nofun, nofun⟩
  | some value => simp [Action.read_eq_ok_iff]

theorem readText_eq_ok_iff {name text : String} :
    readText name members = .ok text ↔ Entries.lookup name members = some (.text text) :=
  ⟨lookup_of_readText, fun found => by rw [readText, found]⟩

theorem readKind_eq_ok_iff {kind : Kind} : readKind members = .ok kind ↔ Names members kind := by
  rw [readKind, bind_eq_ok, Names, ← readText_eq_ok_iff]
  constructor
  · rintro ⟨tag, text, given⟩
    cases named : Kind.ofTag? tag with
    | none => rw [named] at given; cases given
    | some held =>
        rw [named] at given
        cases given
        rwa [← Kind.ofTag?_eq_some_iff.1 named]
  · intro text
    exact ⟨kind.tag, text, by rw [kind.ofTag?_tag]; rfl⟩

/-- **What is accepted is what is spelled as a change.** -/
theorem read_object_eq_ok_iff {change : Change} :
    read (.object members) = .ok change ↔ Spelled members change := by
  simp only [read_object, bind_eq_ok, readAction_eq_ok_iff, readKind_eq_ok_iff,
    readText_eq_ok_iff]
  constructor
  · rintro ⟨action, asks, kind, names, id, text, given⟩
    cases action with
    | delete =>
        cases given
        exact .deleted asks names text
    | update =>
        cases body : Record.read kind (.object members) with
        | error fault =>
            rw [readOutcome, body] at given
            cases given
        | ok record =>
            rw [readOutcome, body] at given
            cases given
            obtain ⟨address, _⟩ := Record.of_read body text
            have same : record.kind = kind := congrArg Ref.kind address
            have sameId : record.id = id := congrArg Ref.id address
            subst same sameId
            exact .updated asks names text body
  · rintro (⟨asks, names, text⟩ | ⟨asks, names, text, body⟩)
    · exact ⟨.delete, asks, _, names, _, text, rfl⟩
    · refine ⟨.update, asks, _, names, _, text, ?_⟩
      rw [readOutcome, body]
      rfl

/-! ## What is reported -/

/-- The parts of a change, in the order in which they are looked at. -/
inductive Part
  | action
  | kind
  | id
  | body
  deriving DecidableEq

/-- The place of a part in the order. -/
def Part.place : Part → Nat
  | action => 0
  | kind => 1
  | id => 2
  | body => 3

/-- A member that has to be a text is missing or is none. -/
inductive NoText (name : String) (members : List (String × Json)) : Fault → Prop
  | missing (absent : Entries.lookup name members = none) :
      NoText name members (.missingField name)
  | other {value : Json} (found : Entries.lookup name members = some value)
      (noText : ∀ text, value ≠ .text text) : NoText name members (.notText name)

/-- A part is wrong, taken by itself, and this is its fault. The fields of an object are looked at
for a known kind, and if the object was written. -/
inductive Faulty (members : List (String × Json)) : Part → Fault → Prop
  | noAction (absent : Entries.lookup actionMember members = none) :
      Faulty members .action (.missingField actionMember)
  | action {value : Json} {fault : Fault}
      (found : Entries.lookup actionMember members = some value)
      (wrong : Action.format.read value = .error fault) : Faulty members .action fault
  | kind {fault : Fault} (noText : NoText Record.kindMember members fault) :
      Faulty members .kind fault
  | unknownKind {tag : String}
      (found : Entries.lookup Record.kindMember members = some (.text tag))
      (unknown : ∀ kind : Kind, tag ≠ kind.tag) : Faulty members .kind (.unknownKind tag)
  | id {fault : Fault} (noText : NoText idMember members fault) : Faulty members .id fault
  | body {kind : Kind} {fault : Fault} (asks : Asks members .update) (names : Names members kind)
      (wrong : Record.read kind (.object members) = .error fault) : Faulty members .body fault

/-- A fault is that of the first part that is wrong. -/
def FirstFault (members : List (String × Json)) (fault : Fault) : Prop :=
  ∃ part, Faulty members part fault ∧
    ∀ earlier other, earlier.place < part.place → ¬Faulty members earlier other

theorem readText_eq_error_iff {name : String} {fault : Fault} :
    readText name members = .error fault ↔ NoText name members fault := by
  constructor
  · intro given
    rw [readText] at given
    split at given
    · cases given
    · rename_i value noText found
      cases given
      exact .other found fun text same => noText text same
    · rename_i absent
      cases given
      exact .missing absent
  · rintro (absent | ⟨found, noText⟩)
    · rw [readText, absent]
    · rw [readText, found]
      split
      · rename_i text same
        exact absurd (Option.some.inj same) (noText text)
      · rfl
      · rename_i none
        cases none

theorem readAction_eq_error_iff {fault : Fault} :
    readAction members = .error fault ↔ Faulty members .action fault := by
  constructor
  · intro given
    rw [readAction] at given
    split at given
    · rename_i found
      exact .action found given
    · rename_i absent
      cases given
      exact .noAction absent
  · rintro (absent | ⟨found, wrong⟩)
    · rw [readAction, absent]
    · rw [readAction, found]
      exact wrong

theorem readKind_eq_error_iff {fault : Fault} :
    readKind members = .error fault ↔ Faulty members .kind fault := by
  rw [readKind, bind_eq_error, readText_eq_error_iff]
  simp only [readText_eq_ok_iff]
  constructor
  · rintro (noText | ⟨tag, found, given⟩)
    · exact .kind noText
    · cases named : Kind.ofTag? tag with
      | some kind => rw [named] at given; cases given
      | none =>
          rw [named] at given
          cases given
          refine .unknownKind found fun kind same => ?_
          rw [Kind.ofTag?_eq_some_iff.2 same] at named
          cases named
  · rintro (_ | _ | noText | ⟨found, unknown⟩)
    · exact .inl noText
    · refine .inr ⟨_, found, ?_⟩
      split
      · rename_i kind named
        exact absurd (Kind.ofTag?_eq_some_iff.1 named) (unknown kind)
      · rfl

theorem readId_eq_error_iff {fault : Fault} :
    readText idMember members = .error fault ↔ Faulty members .id fault := by
  rw [readText_eq_error_iff]
  refine ⟨.id, ?_⟩
  rintro (_ | _ | _ | _ | noText)
  exact noText

theorem readOutcome_eq_error_iff {action : Action} {ref : Ref} {fault : Fault}
    (asks : readAction members = .ok action) (names : readKind members = .ok ref.kind) :
    readOutcome members ref action = .error fault ↔ Faulty members .body fault := by
  constructor
  · intro given
    cases action with
    | delete => cases given
    | update =>
        exact .body (readAction_eq_ok_iff.1 asks) (readKind_eq_ok_iff.1 names)
          (map_eq_error.1 given)
  · rintro (_ | _ | _ | _ | _ | ⟨asks', names', wrong⟩)
    rw [readAction_eq_ok_iff.2 asks'] at asks
    rw [readKind_eq_ok_iff.2 names'] at names
    cases asks
    cases names
    exact map_eq_error.2 wrong

/-! A part that was read is not wrong. -/

theorem not_faulty_action {action : Action} {fault : Fault}
    (asks : readAction members = .ok action) : ¬Faulty members .action fault := fun faulty =>
  nomatch asks.symm.trans (readAction_eq_error_iff.2 faulty)

theorem not_faulty_kind {kind : Kind} {fault : Fault} (names : readKind members = .ok kind) :
    ¬Faulty members .kind fault := fun faulty =>
  nomatch names.symm.trans (readKind_eq_error_iff.2 faulty)

theorem not_faulty_id {id : String} {fault : Fault} (text : readText idMember members = .ok id) :
    ¬Faulty members .id fault := fun faulty =>
  nomatch text.symm.trans (readId_eq_error_iff.2 faulty)

theorem exists_ok_of_no_error {ε α : Type} {result : Except ε α}
    (noError : ∀ cause, result ≠ .error cause) : ∃ value, result = .ok value := by
  cases result with
  | error cause => exact absurd rfl (noError cause)
  | ok value => exact ⟨value, rfl⟩

/-- **What is reported is the fault of the first part that is wrong.** -/
theorem read_object_eq_error_iff {fault : Fault} :
    read (.object members) = .error fault ↔ FirstFault members fault := by
  simp only [read_object, bind_eq_error]
  constructor
  · rintro (wrong | ⟨action, asks, wrong | ⟨kind, names, wrong | ⟨id, text, wrong⟩⟩⟩)
    · exact ⟨.action, readAction_eq_error_iff.1 wrong, fun earlier _ before => by
        cases earlier <;> simp [Part.place] at before⟩
    · refine ⟨.kind, readKind_eq_error_iff.1 wrong, fun earlier other before faulty => ?_⟩
      cases earlier with
      | action => exact not_faulty_action asks faulty
      | _ => simp [Part.place] at before
    · refine ⟨.id, readId_eq_error_iff.1 wrong, fun earlier other before faulty => ?_⟩
      cases earlier with
      | action => exact not_faulty_action asks faulty
      | kind => exact not_faulty_kind names faulty
      | _ => simp [Part.place] at before
    · refine ⟨.body, (readOutcome_eq_error_iff asks names).1 wrong,
        fun earlier other before faulty => ?_⟩
      cases earlier with
      | action => exact not_faulty_action asks faulty
      | kind => exact not_faulty_kind names faulty
      | id => exact not_faulty_id text faulty
      | body => simp [Part.place] at before
  · rintro ⟨part, faulty, first⟩
    have asked (behind : 0 < part.place) : ∃ action, readAction members = .ok action :=
      exists_ok_of_no_error fun other wrong =>
        first .action other behind (readAction_eq_error_iff.1 wrong)
    have named (behind : 1 < part.place) : ∃ kind, readKind members = .ok kind :=
      exists_ok_of_no_error fun other wrong =>
        first .kind other behind (readKind_eq_error_iff.1 wrong)
    have called (behind : 2 < part.place) : ∃ id, readText idMember members = .ok id :=
      exists_ok_of_no_error fun other wrong =>
        first .id other behind (readId_eq_error_iff.1 wrong)
    cases part with
    | action => exact .inl (readAction_eq_error_iff.2 faulty)
    | kind =>
        obtain ⟨action, asks⟩ := asked (by decide)
        exact .inr ⟨action, asks, .inl (readKind_eq_error_iff.2 faulty)⟩
    | id =>
        obtain ⟨action, asks⟩ := asked (by decide)
        obtain ⟨kind, names⟩ := named (by decide)
        exact .inr ⟨action, asks, .inr ⟨kind, names, .inl (readId_eq_error_iff.2 faulty)⟩⟩
    | body =>
        obtain ⟨action, asks⟩ := asked (by decide)
        obtain ⟨kind, names⟩ := named (by decide)
        obtain ⟨id, text⟩ := called (by decide)
        exact .inr ⟨action, asks, .inr ⟨kind, names, .inr ⟨id, text,
          (readOutcome_eq_error_iff asks names).2 faulty⟩⟩⟩

/-! ## What is passed over -/

theorem readText_congr {name : String}
    (same : Entries.lookup name others = Entries.lookup name members) :
    readText name others = readText name members := by
  rw [readText, readText, same]

theorem readKind_congr
    (same : Entries.lookup Record.kindMember others = Entries.lookup Record.kindMember members) :
    readKind others = readKind members := by
  rw [readKind, readKind, readText_congr same]

/-- Objects are read alike if their parts are, of which each is looked at only if those in front of
it are right. -/
theorem read_object_congr (action : readAction others = readAction members)
    (kind : readKind others = readKind members)
    (rest : ∀ action kind, readAction members = .ok action → readKind members = .ok kind →
      readText idMember others = readText idMember members ∧
        ∀ id, readOutcome others ⟨kind, id⟩ action = readOutcome members ⟨kind, id⟩ action) :
    read (.object others) = read (.object members) := by
  rw [read_object, read_object, action, kind]
  cases asks : readAction members with
  | error fault => rfl
  | ok action =>
      cases names : readKind members with
      | error fault => rfl
      | ok kind =>
          obtain ⟨id, outcome⟩ := rest action kind asks names
          show (readText idMember others >>= fun id => readOutcome others ⟨kind, id⟩ action) = _
          rw [id, funext outcome]
          rfl

/-- **A deletion is read from its address alone.** -/
theorem read_deletion_congr (deletes : Asks members .delete) (deletes' : Asks others .delete)
    (kind : Entries.lookup Record.kindMember others = Entries.lookup Record.kindMember members)
    (id : Entries.lookup idMember others = Entries.lookup idMember members) :
    read (.object others) = read (.object members) := by
  have asks := readAction_eq_ok_iff.2 deletes
  refine read_object_congr ((readAction_eq_ok_iff.2 deletes').trans asks.symm)
    (readKind_congr kind) fun action kind asks' _ => ⟨readText_congr id, fun id => ?_⟩
  cases asks.symm.trans asks'
  rfl

/-- **An update is read from the kind and the fields of objects of this kind alone**, of which the
id is one. -/
theorem read_update_congr (increasing : Entries.Increasing members)
    (increasing' : Entries.Increasing others)
    (updates : Asks members .update) (updates' : Asks others .update)
    (kind : Entries.lookup Record.kindMember others = Entries.lookup Record.kindMember members)
    (fields : ∀ kind, Names members kind → ∀ name ∈ kind.described.fields.names,
      Entries.lookup name others = Entries.lookup name members) :
    read (.object others) = read (.object members) := by
  have asks := readAction_eq_ok_iff.2 updates
  refine read_object_congr ((readAction_eq_ok_iff.2 updates').trans asks.symm)
    (readKind_congr kind) fun action kind asks' named => ?_
  have same := fields kind (readKind_eq_ok_iff.1 named)
  refine ⟨readText_congr (same idMember (id_mem_names kind)), fun id => ?_⟩
  cases asks.symm.trans asks'
  rw [readOutcome, readOutcome, Record.read_congr increasing increasing' same]

/-- **Any other member may be added**: it says nothing of what was done, nor of the kind, and it is
no field of objects of the kind. -/
theorem read_insert {name : String} (noAction : name ≠ actionMember)
    (noKind : name ≠ Record.kindMember)
    (noField : ∀ kind, Names members kind → name ∉ kind.described.fields.names) (value : Json) :
    read (.object (Entries.insert name value members)) = read (.object members) := by
  have elsewhere {other : String} (different : name ≠ other) :
      Entries.lookup other (Entries.insert name value members) = Entries.lookup other members := by
    rw [Entries.lookup_insert, if_neg (Ne.symm different)]
  have action : readAction (Entries.insert name value members) = readAction members := by
    rw [readAction, readAction, elsewhere noAction]
  refine read_object_congr action (readKind_congr (elsewhere noKind)) fun action kind _ named => ?_
  have new := noField kind (readKind_eq_ok_iff.1 named)
  refine ⟨readText_congr (elsewhere fun same => new (same ▸ id_mem_names kind)), fun id => ?_⟩
  cases action with
  | delete => rfl
  | update => rw [readOutcome, readOutcome, Record.read_insert new]

end Change

/-- **Changes are read by their grammar.** Whatever is no object is refused. An object is read as a
change exactly if it spells this change, and otherwise the fault of its first part that is wrong
is reported, in the order of the kind of change, the tag, the id and the fields. A deletion is read
from its address alone, and an update from the kind and its fields; a member under any other name
can be added to any object and makes no difference to what is read or reported. -/
theorem changes_are_read_by_their_grammar :
    (∀ value : Json, (∀ members, value ≠ .object members) →
      Change.read value = .error (.wrongType value.found .map)) ∧
    ∀ members : List (String × Json),
      (∀ change, Change.read (.object members) = .ok change ↔ Change.Spelled members change) ∧
      (∀ fault, Change.read (.object members) = .error fault ↔
        Change.FirstFault members fault) ∧
      (Change.Asks members .delete → ∀ others, Change.Asks others .delete →
        (∀ name ∈ [Record.kindMember, Change.idMember],
          Entries.lookup name others = Entries.lookup name members) →
        Change.read (.object others) = Change.read (.object members)) ∧
      (Entries.Increasing members → Change.Asks members .update →
        ∀ others, Entries.Increasing others → Change.Asks others .update →
        (Entries.lookup Record.kindMember others = Entries.lookup Record.kindMember members) →
        (∀ kind, Change.Names members kind → ∀ name ∈ kind.described.fields.names,
          Entries.lookup name others = Entries.lookup name members) →
        Change.read (.object others) = Change.read (.object members)) ∧
      ∀ name, name ≠ Change.actionMember → name ≠ Record.kindMember →
        (∀ kind, Change.Names members kind → name ∉ kind.described.fields.names) →
        ∀ value, Change.read (.object (Entries.insert name value members)) =
          Change.read (.object members) := by
  refine ⟨fun value noObject => ?_, fun members => ⟨fun _ => Change.read_object_eq_ok_iff,
    fun _ => Change.read_object_eq_error_iff, ?_, ?_, ?_⟩⟩
  · cases value with
    | object members => exact absurd rfl (noObject members)
    | _ => rfl
  · intro deletes others deletes' same
    exact Change.read_deletion_congr deletes deletes' (same _ (by simp)) (same _ (by simp))
  · intro increasing updates others increasing' updates' kind fields
    exact Change.read_update_congr increasing increasing' updates updates' kind fields
  · intro name noAction noKind noField value
    exact Change.read_insert noAction noKind noField value

/-- A tab is read whose kind of change is spelled as an object and beside which there is a member of
no field; and where tag and id are both wrong the tag is reported. -/
theorem odd_tab_is_read :
    let members : List (String × Json) := [("name", .text "home"), ("oid", .text "t"),
      ("otype", .text "tab"), ("updatetype", .object [("update", .null)])]
    let wrong : List (String × Json) := [("otype", .text "pane"), ("updatetype", .text "delete")]
    Change.Names members .tab ∧
      Change.read (.object (Entries.insert "junk" (.array []) members)) =
        .ok (.updated ⟨.tab, Tab.new "t" "home"⟩) ∧
      Change.Faulty wrong .id (.missingField "oid") ∧
      Change.read (.object wrong) = .error (.unknownKind "pane") := by
  intro members wrong
  have names : Change.Names members .tab := rfl
  obtain ⟨read, _, _, _, added⟩ := changes_are_read_by_their_grammar.2 members
  obtain ⟨_, reported, _⟩ := changes_are_read_by_their_grammar.2 wrong
  have spelled : Change.Spelled members (.updated ⟨.tab, Tab.new "t" "home"⟩) :=
    .updated ⟨_, rfl, .member⟩ names rfl (by decide +kernel)
  refine ⟨names, ?_, .id (.missing rfl), (reported _).2 ⟨.kind, ?_, ?_⟩⟩
  · rw [added "junk" (by decide) (by decide) ?_ (.array [])]
    · exact (read _).2 spelled
    · intro kind named
      cases kind <;> decide
  · exact .unknownKind rfl fun kind => by cases kind <;> decide
  · intro earlier other before faulty
    have asks : Change.readAction wrong = .ok .delete := rfl
    cases earlier with
    | action => exact Change.not_faulty_action asks faulty
    | _ => simp [Change.Part.place] at before

end ScopedStore
