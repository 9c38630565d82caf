import ScopedStore.Proofs.Scopes

/-!
# What a handle remembers of versions

A handle keeps, for each open scope, a span of versions for each object that was updated in it,
and for what was undone one span for each object. What these spans say is told here without them,
in terms of what the program has done. A journal keeps the writes that are in effect, scope by
scope, and everything that happened, the writes that were undone together in one entry. Of the
writes in effect in a scope the span of an object is its first and its last update (`spanOf`).
What is remembered of an object is the span of the last scope that was discarded with an update of
it in effect, unless the object has been updated since (`memory`).

The handle agrees with the journal of its deeds at every point (`Handle.Lockstep.follows_play`).
So a caller whose update was undone is remembered as long as no later update of the object is in
effect (`Journal.Covers.memory_of_undone`), but what is remembered need not be the version that
this caller holds.
-/

set_option autoImplicit false

namespace ScopedStore

/-! ## Journals -/

/-- Something that happened to the versions of objects: a write, or a scope was discarded with some
writes in effect, of which the last one is first. -/
inductive Entry
  | wrote (write : Write)
  | undid (writes : List Write)

/-- What a program has written: a page for each open scope, innermost scope first, and one for what
was done outside of all scopes, with the writes in effect; and all that happened. On each page and
among the entries the last one is first. -/
structure Journal where
  pages : List (List Write)
  entries : List Entry

namespace Pages

/-- The pages with a write on the innermost one. -/
def wrote (write : Write) : List (List Write) → List (List Write)
  | [] => []
  | page :: outer => (write :: page) :: outer

/-- The pages when the innermost one is added to the next. Where there is no other it stays. -/
def kept : List (List Write) → List (List Write)
  | page :: outer :: pages => (page ++ outer) :: pages
  | pages => pages

/-- The pages without the innermost one. Where there is no other an empty one is left. -/
def dropped : List (List Write) → List (List Write)
  | _ :: outer :: pages => outer :: pages
  | _ => [[]]

variable {pages : List (List Write)} {write : Write}

theorem length_wrote (write : Write) (pages : List (List Write)) :
    (wrote write pages).length = pages.length := by
  cases pages <;> rfl

theorem flatten_kept (pages : List (List Write)) : (kept pages).flatten = pages.flatten := by
  match pages with
  | [] | [_] => rfl
  | page :: outer :: pages => exact List.append_assoc page outer pages.flatten

theorem mem_flatten_wrote (other : Write) (member : write ∈ pages.flatten) :
    write ∈ (wrote other pages).flatten := by
  cases pages with
  | nil => exact member
  | cons page outer => exact List.mem_cons_of_mem other member

/-- A write in effect is undone with the innermost page or stays in effect. -/
theorem mem_flatten_dropped (member : write ∈ pages.flatten) :
    write ∈ pages.head?.getD [] ∨ write ∈ (dropped pages).flatten := by
  match pages with
  | [] => exact .inl member
  | [page] => exact .inl (List.append_nil page ▸ member)
  | page :: outer :: pages => exact List.mem_append.1 member

end Pages

namespace Journal

/-- The journal of a program that has done nothing. -/
def blank : Journal := ⟨[[]], []⟩

/-- The journal after a deed. -/
def after (journal : Journal) : Deed → Journal
  | .wrote write => ⟨Pages.wrote write journal.pages, .wrote write :: journal.entries⟩
  | .opened => { journal with pages := [] :: journal.pages }
  | .kept => { journal with pages := Pages.kept journal.pages }
  | .discarded =>
      ⟨Pages.dropped journal.pages, .undid (journal.pages.head?.getD []) :: journal.entries⟩
  | .quiet | .recorded _ => journal

/-- The journal after some deeds. -/
def afterAll (journal : Journal) (deeds : List Deed) : Journal := deeds.foldl after journal

/-- The writes that are in effect. -/
def inEffect (journal : Journal) : List Write := journal.pages.flatten

theorem afterAll_append (journal : Journal) (first second : List Deed) :
    journal.afterAll (first ++ second) = (journal.afterAll first).afterAll second :=
  List.foldl_append

theorem afterAll_concat (journal : Journal) (deeds : List Deed) (deed : Deed) :
    journal.afterAll (deeds ++ [deed]) = (journal.afterAll deeds).after deed :=
  journal.afterAll_append deeds [deed]

end Journal

/-! ## Spans -/

/-- From the version in front of the first update of an object to the version behind the last
one, among writes of which the last one is first. -/
def spanOf (ref : Ref) : List Write → Option VersionSpan
  | [] => none
  | .updated record :: earlier =>
      if record.ref = ref then
        some ⟨((spanOf ref earlier).map VersionSpan.base).getD (record.version - 1),
          record.version⟩
      else spanOf ref earlier
  | .inserted _ :: earlier | .deleted _ :: earlier => spanOf ref earlier

/-- What is remembered of an object: the span of the last discarded scope with an update of it in
effect, unless it has been updated since. -/
def memory (ref : Ref) : List Entry → Option VersionSpan
  | [] => none
  | .wrote (.updated record) :: earlier => if record.ref = ref then none else memory ref earlier
  | .wrote (.inserted _) :: earlier | .wrote (.deleted _) :: earlier => memory ref earlier
  | .undid writes :: earlier => (spanOf ref writes).or (memory ref earlier)

/-- A span, and then another one behind it. -/
def VersionSpan.join : Option VersionSpan → Option VersionSpan → Option VersionSpan
  | first, none => first
  | none, some later => some later
  | some first, some later => some ⟨first.base, later.latest⟩

theorem spanOf_append (ref : Ref) (later earlier : List Write) :
    spanOf ref (later ++ earlier) = VersionSpan.join (spanOf ref earlier) (spanOf ref later) := by
  induction later with
  | nil => rfl
  | cons write rest ih =>
      cases write with
      | inserted record | deleted gone => exact ih
      | updated record =>
          rw [List.cons_append, spanOf, spanOf]
          by_cases same : record.ref = ref
          · rw [if_pos same, if_pos same, ih]
            cases spanOf ref earlier <;> cases spanOf ref rest <;> rfl
          · rw [if_neg same, if_neg same, ih]

/-- There is a span exactly if there is an update. -/
theorem spanOf_eq_none {ref : Ref} {writes : List Write} :
    spanOf ref writes = none ↔ ∀ record, .updated record ∈ writes → record.ref ≠ ref := by
  induction writes with
  | nil => exact ⟨fun _ _ => nofun, fun _ => rfl⟩
  | cons write rest ih =>
      cases write with
      | inserted record | deleted gone => simpa [spanOf] using ih
      | updated record =>
          by_cases same : record.ref = ref
          · simp [spanOf, same]
          · simp [spanOf, same, ih]

namespace VersionSpans

theorem get?_note (spans : VersionSpans) (ref other : Ref) (base latest : Int) :
    (spans.note ref base latest).get? other =
      if other = ref then some ⟨((spans.get? ref).map VersionSpan.base).getD base, latest⟩
      else spans.get? other :=
  SortedMap.get?_insert spans ref other _

theorem get?_foldl_note {entries : List (Ref × VersionSpan)}
    (increasing : Entries.Increasing entries) (spans : VersionSpans) (ref : Ref) :
    SortedMap.get? (entries.foldl (fun (held : VersionSpans) (entry : Ref × VersionSpan) =>
        held.note entry.1 entry.2.base entry.2.latest) spans) ref =
      VersionSpan.join (spans.get? ref) (Entries.lookup ref entries) := by
  induction entries generalizing spans with
  | nil =>
      rw [List.foldl_nil, Entries.lookup_nil]
      cases spans.get? ref <;> rfl
  | cons entry rest ih =>
      obtain ⟨key, span⟩ := entry
      have ordered : Entries.Increasing rest := (List.pairwise_cons.1 increasing).2
      rw [List.foldl_cons, ih ordered, get?_note, Entries.lookup_cons]
      by_cases same : ref = key
      · subst same
        rw [if_pos rfl, if_pos rfl, Entries.lookup_rest_of_increasing increasing]
        cases spans.get? ref <;> rfl
      · rw [if_neg same, if_neg same]

theorem get?_followedBy (spans inner : VersionSpans) (ref : Ref) :
    (spans.followedBy inner).get? ref = VersionSpan.join (spans.get? ref) (inner.get? ref) :=
  get?_foldl_note inner.increasing spans ref

end VersionSpans

/-! ## The handle follows its journal -/

/-- The spans of the open scopes are those of the pages of their writes. -/
inductive SpansOfPages : List VersionSpans → List (List Write) → Prop
  | outside (page : List Write) : SpansOfPages [] [page]
  | scope {spans : VersionSpans} {page : List Write} {outer : List VersionSpans}
      {pages : List (List Write)} (same : ∀ ref, spans.get? ref = spanOf ref page)
      (rest : SpansOfPages outer pages) : SpansOfPages (spans :: outer) (page :: pages)

namespace SpansOfPages

variable {written : List VersionSpans} {pages : List (List Write)}

/-- A write that is no update moves no version. -/
theorem wrote (spans : SpansOfPages written pages) {write : Write}
    (still : ∀ ref page, spanOf ref (write :: page) = spanOf ref page) :
    SpansOfPages written (Pages.wrote write pages) := by
  cases spans with
  | outside page => exact .outside _
  | scope same rest => exact .scope (fun ref => (same ref).trans (still ref _).symm) rest

/-- The spans of the innermost scope when an update was noted in it. -/
theorem updated {handle : Handle} (spans : SpansOfPages handle.written pages) (record : Record) :
    SpansOfPages
      (handle.noteVersion record.ref (record.version - 1) record.version).written
      (Pages.wrote (.updated record) pages) := by
  obtain ⟨_, _, written, _, _, _, _, _⟩ := handle
  dsimp only at spans
  cases spans with
  | outside page => exact .outside _
  | scope same rest =>
      refine .scope (fun ref => ?_) rest
      rw [VersionSpans.get?_note, spanOf, same, same]
      by_cases here : record.ref = ref
      · subst here
        rw [if_pos rfl]
      · rw [if_neg here, if_neg fun equal => here equal.symm]

theorem kept (spans : SpansOfPages written pages) :
    SpansOfPages (Handle.joinInnermost written) (Pages.kept pages) := by
  cases spans with
  | outside page => exact .outside page
  | scope same rest =>
      cases rest with
      | outside page => exact .outside _
      | scope sameOuter rest =>
          refine .scope (fun ref => ?_) rest
          rw [VersionSpans.get?_followedBy, spanOf_append, same, sameOuter]

theorem dropped (spans : SpansOfPages written pages) :
    SpansOfPages written.tail (Pages.dropped pages) := by
  cases spans with
  | outside page => exact .outside []
  | scope _ rest =>
      cases rest with
      | outside page => exact .outside page
      | scope same rest => exact .scope same rest

/-- The spans of the innermost scope, if one is open. -/
theorem head (spans : SpansOfPages written pages) (opened : 0 < written.length) (ref : Ref) :
    (written.head?.getD ∅).get? ref = spanOf ref (pages.head?.getD []) := by
  cases spans with
  | outside page => exact absurd opened (Nat.lt_irrefl 0)
  | scope same _ => exact same ref

end SpansOfPages

/-- The handle keeps of the journal what concerns versions. -/
structure Handle.Follows (handle : Handle) (journal : Journal) : Prop where
  written : SpansOfPages handle.written journal.pages
  undone : ∀ ref, handle.undone.get? ref = memory ref journal.entries

namespace Handle

theorem follows_start (content : Database) (tracked : Bool) (ids : IdSource) (now : Int) :
    (start content tracked ids now).Follows .blank where
  written := .outside []
  undone _ := rfl

variable {before after : Handle} {journal : Journal}

/-- **A deed changes what a handle remembers as it changes the journal.** -/
theorem Does.follows {deed : Deed} (does : Does deed before after) (lockstep : before.Lockstep)
    (follows : before.Follows journal) : after.Follows (journal.after deed) := by
  cases does with
  | quiet ids log => exact ⟨follows.written, follows.undone⟩
  | recorded _ change => exact ⟨follows.written, follows.undone⟩
  | @wrote _ write fits =>
      cases write with
      | inserted record | deleted ref =>
          exact ⟨follows.written.wrote fun _ _ => rfl, follows.undone⟩
      | updated record =>
          refine ⟨follows.written.updated record, fun ref => ?_⟩
          have erased : (before.wrote (.updated record)).undone = before.undone.erase record.ref :=
            rfl
          rw [erased, SortedMap.get?_erase, Journal.after, memory]
          by_cases here : record.ref = ref
          · rw [if_pos here, if_pos here.symm]
          · rw [if_neg here, if_neg fun equal => here equal.symm]
            exact follows.undone ref
  | opened => exact ⟨.scope (fun _ => rfl) follows.written, follows.undone⟩
  | kept opened => exact ⟨follows.written.kept, follows.undone⟩
  | discarded opened =>
      refine ⟨follows.written.dropped, fun ref => ?_⟩
      rw [dropped, SortedMap.get?_insertAll, Journal.after, memory, follows.undone,
        follows.written.head (lockstep.written ▸ opened)]

/-- **What a handle remembers is what its journal tells.** -/
theorem Lockstep.follows_play {handle : Handle} (lockstep : handle.Lockstep)
    (follows : handle.Follows journal) (moves : List Move) :
    (handle.play moves).Follows (journal.afterAll (handle.history moves)) :=
  lockstep.play_induction (motive := fun past handle => handle.Follows (journal.afterAll past))
    (fun lockstep does follows => by
      rw [Journal.afterAll_concat]
      exact does.follows lockstep follows)
    follows moves

end Handle

/-! ## What is not forgotten -/

namespace Journal

/-- The pages of a journal hold those of one that was begun later, between the same deeds. -/
inductive Covers : List (List Write) → List (List Write) → Prop
  | outside (page earlier : List Write) (pages : List (List Write)) :
      Covers ((page ++ earlier) :: pages) [page]
  | scope {pages later : List (List Write)} (page : List Write) (rest : Covers pages later) :
      Covers (page :: pages) (page :: later)

/-- The later journal has an update of the object in effect, or else something is remembered of
the object. -/
def Remembers (ref : Ref) (journal later : Journal) : Prop :=
  memory ref journal.entries ≠ none ∨ ∃ record, .updated record ∈ later.inEffect ∧ record.ref = ref

variable {journal later : Journal}

theorem Covers.after (covers : Covers journal.pages later.pages) (deed : Deed) :
    Covers (journal.after deed).pages (later.after deed).pages := by
  obtain ⟨pages, entries⟩ := journal
  obtain ⟨laterPages, laterEntries⟩ := later
  dsimp only at covers
  cases deed with
  | quiet | recorded change => exact covers
  | wrote write =>
      cases covers with
      | outside page earlier below => exact .outside (write :: page) earlier below
      | scope page rest => exact .scope (write :: page) rest
  | opened => exact .scope [] covers
  | kept =>
      -- The later journal may be at its last page where the other one has still one to join.
      cases covers with
      | outside page earlier below =>
          cases below with
          | nil => exact .outside page earlier []
          | cons outer below =>
              rw [Journal.after, Pages.kept, List.append_assoc]
              exact .outside page (earlier ++ outer) below
      | scope page rest =>
          cases rest with
          | outside outer earlier below =>
              rw [Journal.after, Pages.kept, ← List.append_assoc]
              exact .outside (page ++ outer) earlier below
          | scope outer rest => exact .scope (page ++ outer) rest
  | discarded =>
      cases covers with
      | outside page earlier below =>
          cases below with
          | nil => exact .outside [] [] []
          | cons outer below => exact .outside [] outer below
      | scope page rest =>
          cases rest with
          | outside outer earlier below => exact .outside outer earlier below
          | scope outer rest => exact .scope outer rest

/-- A write is in effect when it is made. -/
theorem Covers.mem_wrote (covers : Covers journal.pages later.pages) {write : Write} :
    write ∈ (later.after (.wrote write)).inEffect := by
  obtain ⟨laterPages, laterEntries⟩ := later
  generalize journal.pages = pages at covers
  cases covers with
  | outside page earlier below => exact List.mem_cons_self
  | scope page rest => exact List.mem_cons_self

theorem Covers.head_subset {pages laterPages : List (List Write)}
    (covers : Covers pages laterPages) :
    laterPages.head?.getD [] ⊆ pages.head?.getD [] := by
  cases covers with
  | outside page earlier below => exact List.subset_append_left page earlier
  | scope page rest => exact List.Subset.refl page

/-- An update is in effect when it is made; other writes leave what is remembered. -/
theorem Covers.remembers_wrote (covers : Covers journal.pages later.pages) {ref : Ref}
    (write : Write) (remembered : memory ref journal.entries ≠ none) :
    Remembers ref (journal.after (.wrote write)) (later.after (.wrote write)) := by
  cases write with
  | inserted record | deleted gone => exact .inl remembered
  | updated record =>
      by_cases same : record.ref = ref
      · exact .inr ⟨record, covers.mem_wrote, same⟩
      · refine .inl ?_
        rw [Journal.after, memory, if_neg same]
        exact remembered

/-- **An update that was noted is in effect or remembered**, whatever is done. -/
theorem Covers.remembers_after (covers : Covers journal.pages later.pages) {ref : Ref}
    (remembers : Remembers ref journal later) (deed : Deed) :
    Remembers ref (journal.after deed) (later.after deed) := by
  cases deed with
  | quiet | recorded change | opened => exact remembers
  | wrote write =>
      have stays {record : Record} (member : .updated record ∈ later.inEffect) :
          .updated record ∈ (later.after (.wrote write)).inEffect :=
        Pages.mem_flatten_wrote write member
      have still : memory ref journal.entries ≠ none → Remembers ref _ _ := fun remembered =>
        covers.remembers_wrote write remembered
      rcases remembers with remembered | ⟨record, member, same⟩
      · exact still remembered
      · exact .inr ⟨record, stays member, same⟩
  | kept =>
      refine remembers.imp_right fun ⟨record, member, same⟩ => ⟨record, ?_, same⟩
      rw [inEffect, Journal.after, Pages.flatten_kept]
      exact member
  | discarded =>
      rcases remembers with remembered | ⟨record, member, same⟩
      · refine .inl fun forgotten => remembered ?_
        exact (Option.or_eq_none_iff.1 forgotten).2
      · rcases Pages.mem_flatten_dropped member with inPage | stays
        · refine .inl fun forgotten => ?_
          have noUpdate := spanOf_eq_none.1 (Option.or_eq_none_iff.1 forgotten).1
          exact noUpdate record (covers.head_subset inPage) same
        · exact .inr ⟨record, stays, same⟩

theorem Covers.afterAll (covers : Covers journal.pages later.pages) (deeds : List Deed) :
    Covers (journal.afterAll deeds).pages (later.afterAll deeds).pages := by
  induction deeds generalizing journal later with
  | nil => exact covers
  | cons deed rest ih => exact ih (covers.after deed)

theorem Covers.remembers_afterAll (covers : Covers journal.pages later.pages) {ref : Ref}
    (remembers : Remembers ref journal later) (deeds : List Deed) :
    Remembers ref (journal.afterAll deeds) (later.afterAll deeds) := by
  induction deeds generalizing journal later with
  | nil => exact remembers
  | cons deed rest ih => exact ih (covers.after deed) (covers.remembers_after remembers deed)

theorem Covers.of_ne_nil {pages : List (List Write)} (begun : pages ≠ []) :
    Covers pages blank.pages := by
  cases pages with
  | nil => exact absurd rfl begun
  | cons page below => exact .outside [] page below

theorem Covers.ne_nil {pages laterPages : List (List Write)} (covers : Covers pages laterPages) :
    pages ≠ [] := by
  cases covers with
  | outside page earlier below => exact List.cons_ne_nil _ _
  | scope page rest => exact List.cons_ne_nil _ _

/-- From its update on, an object is remembered or has an update in effect. -/
theorem Covers.remembers_updated (covers : Covers journal.pages later.pages) {deeds : List Deed}
    {record : Record} (updated : .wrote (.updated record) ∈ deeds) :
    Remembers record.ref (journal.afterAll deeds) (later.afterAll deeds) := by
  obtain ⟨earlier, rest, rfl⟩ := List.append_of_mem updated
  have atUpdate := covers.afterAll earlier
  rw [afterAll_append, afterAll_append]
  exact (atUpdate.after _).remembers_afterAll (.inr ⟨record, atUpdate.mem_wrote, rfl⟩) rest

/-- **An update in a discarded scope is remembered** as long as no later update of its object is
in effect. -/
theorem memory_of_undone (journal : Journal) {inside since : List Deed} {record : Record}
    (updated : .wrote (.updated record) ∈ inside)
    (nested : (blank.afterAll inside).pages.length = 1)
    (rest : ∀ other, .updated other ∈ (blank.afterAll since).inEffect → other.ref ≠ record.ref) :
    memory record.ref (journal.afterAll (.opened :: inside ++ .discarded :: since)).entries ≠
      none := by
  have covers : Covers (journal.after .opened).pages blank.pages :=
    .of_ne_nil (List.cons_ne_nil [] journal.pages)
  -- Nothing of the scope stays in effect when it is discarded, so the object is remembered then.
  obtain ⟨page, held⟩ := List.length_eq_one_iff.1 nested
  have undone := (covers.afterAll inside).remembers_after (covers.remembers_updated updated)
    .discarded
  have remembered := undone.resolve_right fun ⟨other, member, _⟩ => by
    rw [inEffect, after, held] at member
    cases member
  -- From there on it is forgotten only for an update that stays in effect.
  have begun := ((covers.afterAll inside).after .discarded).ne_nil
  have now := (Covers.of_ne_nil begun).remembers_afterAll (.inl remembered) since
  have still := now.resolve_right fun ⟨other, member, same⟩ => rest other member same
  rw [List.cons_append, afterAll, List.foldl_cons, ← afterAll, afterAll_append]
  exact still

end Journal

theorem Journal.length_pages_of_flat (journal : Journal) {deed : Deed}
    (flat : deed ≠ .opened ∧ deed ≠ .kept ∧ deed ≠ .discarded) :
    (journal.after deed).pages.length = journal.pages.length := by
  cases deed with
  | quiet | recorded change => rfl
  | wrote write => exact Pages.length_wrote write journal.pages
  | opened => exact absurd rfl flat.1
  | kept => exact absurd rfl flat.2.1
  | discarded => exact absurd rfl flat.2.2

theorem Journal.length_pages_of_closed {journal : Journal} {deed : Deed}
    (closed : deed = .kept ∨ deed = .discarded) {level : Nat}
    (pages : journal.pages.length = level + 2) :
    (journal.after deed).pages.length = level + 1 := by
  obtain ⟨page, _, held⟩ := List.exists_cons_of_length_eq_add_one pages
  rw [held] at pages
  obtain ⟨outer, rest, rfl⟩ := List.exists_cons_of_length_eq_add_one (Nat.succ.inj pages)
  rcases closed with rfl | rfl
  · rw [Journal.after, held]
    exact Nat.succ.inj pages
  · rw [Journal.after, held]
    exact Nat.succ.inj pages

namespace Handle.Lockstep

/-- The journal of moves has a page more than there are open scopes among them. -/
theorem length_pages {handle : Handle} (lockstep : handle.Lockstep) {moves : List Move}
    {level last : Nat} (levels : levelAfter moves level = some last)
    (opened : level ≤ handle.depth) {journal : Journal}
    (pages : journal.pages.length = level + 1) :
    (journal.afterAll (handle.history moves)).pages.length = last + 1 := by
  induction moves generalizing handle level journal with
  | nil =>
      cases levels
      exact pages
  | cons first rest ih =>
      have next := (lockstep.does_move first).lockstep lockstep
      have below {level' : Nat} (levels : levelAfter [first] level = some level') :=
        lockstep.play_below levels opened
      cases first with
      | perform operation =>
          have flat := operation.deed_flat (handle.perform operation).1
          refine ih next levels ?_ ((journal.length_pages_of_flat flat).trans pages)
          have := (below rfl).depth
          simp only [play_cons, play_nil] at this
          omega
      | openScope => exact ih next levels (Nat.succ_le_succ opened) (congrArg Nat.succ pages)
      | keepScope =>
          cases level with
          | zero => cases levels
          | succ level =>
              have deed : handle.deed .keepScope = .kept := if_pos (Nat.zero_lt_of_lt opened)
              refine ih next levels ?_ ?_
              · have := (below rfl).depth
                simp only [play_cons, play_nil] at this
                omega
              · rw [deed]
                exact Journal.length_pages_of_closed (.inl rfl) pages
      | discardScope =>
          cases level with
          | zero => cases levels
          | succ level =>
              have deed : handle.deed .discardScope = .discarded :=
                if_pos (Nat.zero_lt_of_lt opened)
              refine ih next levels ?_ ?_
              · have := (below rfl).depth
                simp only [play_cons, play_nil] at this
                omega
              · rw [deed]
                exact Journal.length_pages_of_closed (.inr rfl) pages

end Handle.Lockstep

/-! ## What an update expects -/

/-- The version that a row should have for a caller with a version, by what is remembered. -/
def leadBack (remembered : Option VersionSpan) (version : Int) : Int :=
  match remembered with
  | some span => if span.latest = version then span.base else version
  | none => version

namespace Handle

variable {handle : Handle} {journal : Journal} {kind : Kind} {value : kind.Body} {row : Row}

/-- The handle takes a value and stores it as a version of its object; the caller gets the value
with that version. -/
def Accepts (handle : Handle) (kind : Kind) (value : kind.Body) (version : Int) : Prop :=
  ∃ after, handle.update kind value = .ok (kind.withVersion value version, after) ∧
    after.content.row? (kind.ref value) = some (Record.row ⟨kind, kind.withVersion value version⟩)

theorem Follows.expectedVersion_eq (follows : handle.Follows journal) (ref : Ref)
    (version : Int) :
    handle.expectedVersion ref version = leadBack (memory ref journal.entries) version := by
  rw [expectedVersion, follows.undone]
  rfl

/-- **Whether a value is taken** is decided by what the journal remembers of its object: its
version, led back, has to be that of the row. Otherwise the versions are in conflict. -/
theorem Follows.accepts_iff (follows : handle.Follows journal)
    (found : handle.content.row? (kind.ref value) = some row) :
    let expected := leadBack (memory (kind.ref value) journal.entries) (kind.version value)
    (handle.Accepts kind value (row.version + 1) ↔ expected = row.version) ∧
      (expected ≠ row.version → handle.update kind value =
        .error (.versionConflict (kind.ref value) expected row.version)) := by
  intro expected
  have outcome := update_of_row found (follows.expectedVersion_eq _ _)
  have conflict (other : expected ≠ row.version) : handle.update kind value =
      .error (.versionConflict (kind.ref value) expected row.version) := by
    rw [outcome]
    exact if_neg fun equal => other equal.symm
  refine ⟨⟨fun ⟨after, taken, _⟩ => ?_, fun same => ?_⟩, conflict⟩
  · refine Decidable.byContradiction fun other => ?_
    rw [conflict other] at taken
    cases taken
  · have back : row.version = expected := same.symm
    rw [if_pos back] at outcome
    rw [back]
    refine ⟨_, outcome, ?_⟩
    have fits := (update_eq_ok outcome).2.1
    have stored := Write.row?_apply_self fits handle.now
    rw [content_wrote]
    exact (congrArg _ (Kind.ref_withVersion kind value _).symm).trans stored

end Handle

end ScopedStore
