import ScopedStore.Proofs.References
import ScopedStore.Proofs.Tombstones

/-!
# The order of tombstones

A list of tombstones is ordered by time, then by tag, then by id (`Grave.Earlier`). The table itself
is ordered by tag and id, so the rows are sorted by time alone and keep the order of the table
where the times are the same (`Grave.pairwise_inOrder`). That order leaves no choice, so it makes no
difference whether rows are chosen first and sorted then, or the other way round
(`Grave.filter_inOrder`).

The tags of the table are texts, and may be those of no kind. The list of a kind never looks at such
a row, and is there whatever else the table holds; the list of all kinds is refused for the first
row of this sort. Where it is there, the list of each kind is a part of it
(`tombstones_are_listed_faithfully`).
-/

set_option autoImplicit false

namespace ScopedStore

/-! ## Sorting -/

/-- What is sorted by a key keeps its order where the keys are the same. -/
theorem filter_mergeSort_of_ties {α : Type} {le : α → α → Bool} (chosen : α → Bool)
    (trans : ∀ first second third, le first second → le second third → le first third)
    (total : ∀ first second, le first second || le second first)
    (ties : ∀ first second, chosen first → chosen second → le first second) (items : List α) :
    (items.mergeSort le).filter chosen = items.filter chosen := by
  have tied : (items.filter chosen).Pairwise fun first second => le first second :=
    List.pairwise_of_forall_mem_list fun first member second member' =>
      ties first second (List.mem_filter.1 member).2 (List.mem_filter.1 member').2
  have inside : (items.filter chosen).Sublist (items.mergeSort le) :=
    List.sublist_mergeSort trans total tied List.filter_sublist
  have whole := inside.filter chosen
  rw [List.filter_filter] at whole
  simp only [Bool.and_self] at whole
  exact (whole.eq_of_length ((List.mergeSort_perm items le).filter chosen).length_eq.symm).symm

/-- A row of the table of tombstones: what was deleted, and when. -/
abbrev Grave : Type := TombstoneKey × Int

namespace Grave

/-- One row stands in front of the other in a list: by time, then by tag, then by id. -/
def Earlier (first second : Grave) : Prop :=
  first.2 < second.2 ∨
    first.2 = second.2 ∧ (first.1.tag < second.1.tag ∨
      first.1.tag = second.1.tag ∧ first.1.id < second.1.id)

/-- The tag of the row is that of a kind. -/
def Known (grave : Grave) : Prop := ∃ kind : Kind, kind.tag = grave.1.tag

/-- The row is the first one, in the order of lists, of which the tag is that of no kind. -/
structure FirstForeign (tombstones : Tombstones) (grave : Grave) : Prop where
  member : grave ∈ tombstones.entries
  foreign : ¬grave.Known
  first : ∀ other ∈ tombstones.entries, ¬Known other → other = grave ∨ grave.Earlier other

/-- Rows in the order of their times; where these are the same, in the order in which they were. -/
def inOrder (rows : List Grave) : List Grave :=
  rows.mergeSort fun first second => decide (first.2 ≤ second.2)

theorem lt_of_compare {first second : TombstoneKey} (less : compare first second = .lt) :
    first.tag < second.tag ∨ first.tag = second.tag ∧ first.id < second.id := by
  change (compare first.tag second.tag).then (compare first.id second.id) = .lt at less
  rcases Ordering.then_eq_lt.1 less with tags | ⟨tags, ids⟩
  · exact .inl (compareOfLessAndEq_eq_lt.1 tags)
  · exact .inr ⟨Std.LawfulEqOrd.eq_of_compare tags, compareOfLessAndEq_eq_lt.1 ids⟩

theorem not_earlier_of_earlier {first second : Grave} (earlier : first.Earlier second) :
    ¬second.Earlier first := by
  rintro (later | ⟨time, later⟩)
  · rcases earlier with before | ⟨same, _⟩ <;> omega
  · rcases earlier with before | ⟨_, tags | ⟨tag, ids⟩⟩
    · omega
    · rcases later with tags' | ⟨tag, _⟩
      · exact String.lt_asymm tags tags'
      · exact String.lt_irrefl _ (tag ▸ tags)
    · rcases later with tags | ⟨_, ids'⟩
      · exact String.lt_irrefl _ (tag ▸ tags)
      · exact String.lt_asymm ids ids'

/-- Rows with the same tag are told apart by time and id. -/
theorem Earlier.of_tag {first second : Grave} (earlier : first.Earlier second)
    (same : first.1.tag = second.1.tag) :
    first.2 < second.2 ∨ first.2 = second.2 ∧ first.1.id < second.1.id := by
  rcases earlier with before | ⟨time, tags | ⟨_, ids⟩⟩
  · exact .inl before
  · exact absurd (same ▸ tags) (String.lt_irrefl _)
  · exact .inr ⟨time, ids⟩

variable {rows : List Grave}

theorem inOrder_perm (rows : List Grave) : (inOrder rows).Perm rows := List.mergeSort_perm rows _

/-- **Sorting the rows of a table by time orders them by time, tag and id.** -/
theorem pairwise_inOrder (increasing : Entries.Increasing rows) :
    (inOrder rows).Pairwise Earlier := by
  have trans (first second third : Grave) : decide (first.2 ≤ second.2) = true →
      decide (second.2 ≤ third.2) = true → decide (first.2 ≤ third.2) = true := by
    simp only [decide_eq_true_eq]
    exact Int.le_trans
  have total (first second : Grave) :
      (decide (first.2 ≤ second.2) || decide (second.2 ≤ first.2)) = true := by
    simpa using Int.le_total first.2 second.2
  refine List.pairwise_iff_forall_sublist.2 fun {first second} pair => ?_
  have times : first.2 ≤ second.2 := by
    simpa using List.pairwise_iff_forall_sublist.1 (List.pairwise_mergeSort trans total rows) pair
  rcases Int.lt_or_eq_of_le times with less | same
  · exact .inl less
  · -- Rows of one time stand in the order of the table.
    have tied := filter_mergeSort_of_ties (fun grave : Grave => grave.2 = second.2)
      trans total (by simp +contextual) rows
    have inTable := pair.filter fun grave : Grave => grave.2 = second.2
    rw [inOrder, tied] at inTable
    simp [same] at inTable
    exact .inr ⟨same, lt_of_compare (List.pairwise_iff_forall_sublist.1 increasing
      (inTable.trans List.filter_sublist))⟩

/-- It makes no difference whether rows are chosen in front of sorting or behind it. -/
theorem filter_inOrder (increasing : Entries.Increasing rows) (chosen : Grave → Bool) :
    (inOrder rows).filter chosen = inOrder (rows.filter chosen) := by
  have fewer : Entries.Increasing (rows.filter chosen) :=
    List.Pairwise.sublist List.filter_sublist increasing
  refine List.Perm.eq_of_pairwise (fun first second _ _ earlier later => ?_)
    ((pairwise_inOrder increasing).sublist List.filter_sublist) (pairwise_inOrder fewer) ?_
  · exact absurd later (not_earlier_of_earlier earlier)
  · exact ((inOrder_perm rows).filter chosen).trans (inOrder_perm _).symm

/-- Going through the rows in their order, the first one with the tag of no kind is met first. -/
theorem firstForeign_iff {tombstones : Tombstones} {grave : Grave} :
    FirstForeign tombstones grave ↔
      ∃ before behind, inOrder tombstones.entries = before ++ grave :: behind ∧
        (∀ earlier ∈ before, Known earlier) ∧ ¬grave.Known := by
  have ordered := pairwise_inOrder tombstones.increasing
  have same (other : Grave) := (inOrder_perm tombstones.entries).mem_iff (a := other)
  constructor
  · intro first
    obtain ⟨before, behind, split⟩ := List.append_of_mem ((same grave).2 first.member)
    refine ⟨before, behind, split, fun earlier inFront => ?_, first.foreign⟩
    rw [split, List.pairwise_append] at ordered
    have front : Earlier earlier grave := ordered.2.2 earlier inFront grave List.mem_cons_self
    by_contra foreign
    have member : earlier ∈ tombstones.entries :=
      (same earlier).1 (split ▸ List.mem_append_left _ inFront)
    rcases first.first earlier member foreign with rfl | later
    · exact not_earlier_of_earlier front front
    · exact not_earlier_of_earlier front later
  · rintro ⟨before, behind, split, known, foreign⟩
    refine ⟨(same grave).1 (split ▸ List.mem_append_right _ List.mem_cons_self), foreign,
      fun other member unknown => ?_⟩
    rw [← same, split] at member
    rw [split, List.pairwise_append] at ordered
    rcases List.mem_append.1 member with inFront | rest
    · exact absurd (known other inFront) unknown
    · rcases List.mem_cons.1 rest with rfl | later
      · exact .inl rfl
      · exact .inr ((List.pairwise_cons.1 ordered.2.1).1 other later)

end Grave

/-! ## Reading rows -/

/-- Many items fail to be read for the cause for which the first of them that is not read fails. -/
theorem mapM_eq_error_iff {ε α β : Type} {read : α → Except ε β} {items : List α} {cause : ε} :
    items.mapM read = .error cause ↔
      ∃ before item behind, items = before ++ item :: behind ∧
        (∀ earlier ∈ before, ∃ result, read earlier = .ok result) ∧ read item = .error cause := by
  induction items with
  | nil =>
      refine iff_of_false nofun ?_
      rintro ⟨before, item, behind, split, _⟩
      cases before <;> cases split
  | cons item items ih =>
      simp only [List.mapM_cons, bind_eq_error, pure, Except.pure]
      constructor
      · rintro (here | ⟨result, fine, there | ⟨_, _, nothing⟩⟩)
        · exact ⟨[], item, items, rfl, nofun, here⟩
        · obtain ⟨before, other, behind, rfl, read, wrong⟩ := ih.1 there
          exact ⟨item :: before, other, behind, rfl,
            List.forall_mem_cons.2 ⟨⟨result, fine⟩, read⟩, wrong⟩
        · cases nothing
      · rintro ⟨before, other, behind, split, fine, wrong⟩
        cases before with
        | nil =>
            cases split
            exact .inl wrong
        | cons first before =>
            obtain ⟨rfl, rfl⟩ := List.cons.inj split
            obtain ⟨⟨result, here⟩, others⟩ := List.forall_mem_cons.1 fine
            exact .inr ⟨result, here, .inl (ih.2 ⟨before, other, behind, rfl, others, wrong⟩)⟩

namespace Repository

/-- What a row is listed as. -/
def readGrave (grave : Grave) : Except RepositoryError Ref :=
  match Kind.ofTag grave.1.tag with
  | .ok kind => .ok ⟨kind, grave.1.id⟩
  | .error unknown => .error (.invalidData (.unknownTombstone unknown))

theorem readGrave_of_tag {grave : Grave} {kind : Kind} (tag : grave.1.tag = kind.tag) :
    readGrave grave = .ok ⟨kind, grave.1.id⟩ := by
  rw [readGrave, Kind.ofTag_eq_ok_iff.2 tag]

theorem readGrave_eq_ok_iff {grave : Grave} {ref : Ref} :
    readGrave grave = .ok ref ↔ grave.1 = .ofRef ref := by
  constructor
  · intro read
    rw [readGrave] at read
    split at read
    · rename_i kind named
      cases read
      rw [TombstoneKey.ofRef, ← Kind.ofTag_eq_ok_iff.1 named]
    · cases read
  · intro address
    have tag : grave.1.tag = ref.kind.tag := congrArg TombstoneKey.tag address
    rw [readGrave_of_tag tag, address]
    rfl

theorem readGrave_eq_error_iff {grave : Grave} {failure : RepositoryError} :
    readGrave grave = .error failure ↔
      ¬grave.Known ∧ failure = .invalidData (.unknownTombstone ⟨grave.1.tag⟩) := by
  constructor
  · intro refused
    rw [readGrave] at refused
    split at refused
    · cases refused
    · rename_i unknown named
      cases refused
      obtain ⟨same, foreign⟩ := Kind.ofTag_eq_error_iff.1 named
      exact ⟨fun ⟨kind, tag⟩ => foreign kind tag, by rw [same]⟩
  · rintro ⟨foreign, rfl⟩
    have unknown : Kind.ofTag grave.1.tag = .error ⟨grave.1.tag⟩ :=
      Kind.ofTag_eq_error_iff.2 ⟨rfl, fun kind tag => foreign ⟨kind, tag⟩⟩
    rw [readGrave, unknown]

theorem exists_readGrave_iff {grave : Grave} :
    (∃ ref, readGrave grave = .ok ref) ↔ grave.Known := by
  constructor
  · rintro ⟨ref, read⟩
    exact ⟨ref.kind, congrArg TombstoneKey.tag (readGrave_eq_ok_iff.1 read).symm⟩
  · rintro ⟨kind, tag⟩
    exact ⟨_, readGrave_of_tag tag.symm⟩

variable {database : Database} {tombstones : Tombstones}

/-- A list of tombstones is what is read of the chosen rows in their order. -/
theorem tombstones_eq (held : database.tombstones = some tombstones) (kind : Option Kind) :
    Repository.tombstones database kind =
      (Grave.inOrder (tombstones.entries.filter fun grave =>
        kind.all fun kind => grave.1.tag == kind.tag)).mapM readGrave := by
  have tabled : tombstoneTable database = .ok tombstones := by
    rw [tombstoneTable, Database.deletions, held]
    rfl
  rw [Repository.tombstones, tabled]
  rfl

theorem tombstones_of_kind (held : database.tombstones = some tombstones) (kind : Kind) :
    Repository.tombstones database (some kind) =
      .ok ((Grave.inOrder (tombstones.entries.filter fun grave => grave.1.tag == kind.tag)).map
        fun grave => ⟨kind, grave.1.id⟩) := by
  rw [tombstones_eq held, mapM_eq_ok_iff_forall₂, List.forall₂_map_right_iff]
  refine List.forall₂_same.2 fun grave member => ?_
  have chosen := List.mem_filter.1 ((Grave.inOrder_perm _).mem_iff.1 member)
  exact readGrave_of_tag (by simpa using chosen.2)

theorem tombstones_of_all (held : database.tombstones = some tombstones) :
    Repository.tombstones database none =
      (Grave.inOrder tombstones.entries).mapM readGrave := by
  rw [tombstones_eq held]
  exact congrArg (fun rows => (Grave.inOrder rows).mapM readGrave)
    (List.filter_eq_self.2 fun _ _ => rfl)

/-- What is listed of a kind among all tombstones is what is read of the rows with its tag. -/
theorem filter_of_forall₂ {rows : List Grave} {refs : List Ref}
    (listed : List.Forall₂ (fun grave ref => readGrave grave = .ok ref) rows refs) (kind : Kind) :
    (rows.filter fun grave => grave.1.tag == kind.tag).map (fun grave => ⟨kind, grave.1.id⟩) =
      refs.filter fun ref => ref.kind = kind := by
  induction listed with
  | nil => rfl
  | @cons grave ref rows refs read rest ih =>
      have address := readGrave_eq_ok_iff.1 read
      have tag : (grave.1.tag == kind.tag) = decide (ref.kind = kind) := by
        rw [address]
        exact decide_eq_decide.2 Kind.tag_injective.eq_iff
      rw [List.filter_cons, List.filter_cons, tag]
      split
      · rename_i same
        rw [List.map_cons, ih, address, ← of_decide_eq_true same]
        rfl
      · exact ih

end Repository

/-- **Lists of tombstones leave nothing out and add nothing.** Whatever the table holds: the list of
a kind is there, and has one entry for each row with the tag of the kind, by time and then by id.
The list of all kinds is there exactly if each tag is that of a kind, and otherwise it is refused
for the first row of which it is not. Where it is there, it has one entry for each row, by time,
then by tag, then by id, and what it has of a kind is the list of this kind. -/
theorem tombstones_are_listed_faithfully {database : Database} {tombstones : Tombstones}
    (held : database.tombstones = some tombstones) :
    (∀ kind : Kind, ∃ rows : List Grave,
      rows.Perm (tombstones.entries.filter fun grave => grave.1.tag == kind.tag) ∧
      rows.Pairwise (fun first second =>
        first.2 < second.2 ∨ first.2 = second.2 ∧ first.1.id < second.1.id) ∧
      Repository.tombstones database (some kind) =
        .ok (rows.map fun grave => ⟨kind, grave.1.id⟩)) ∧
    ((∃ refs, Repository.tombstones database none = .ok refs) ↔
      ∀ grave ∈ tombstones.entries, Grave.Known grave) ∧
    (∀ failure, Repository.tombstones database none = .error failure ↔
      ∃ grave, Grave.FirstForeign tombstones grave ∧
        failure = .invalidData (.unknownTombstone ⟨grave.1.tag⟩)) ∧
    ∀ refs, Repository.tombstones database none = .ok refs →
      (∃ rows : List Grave, rows.Perm tombstones.entries ∧ rows.Pairwise Grave.Earlier ∧
        rows.map (·.1) = refs.map .ofRef) ∧
      ∀ kind, Repository.tombstones database (some kind) =
        .ok (refs.filter fun ref => ref.kind = kind) := by
  have increasing := tombstones.increasing
  have perm := Grave.inOrder_perm tombstones.entries
  have ordered := Grave.pairwise_inOrder increasing
  have all := Repository.tombstones_of_all held
  refine ⟨fun kind => ⟨_, Grave.inOrder_perm _, ?_, Repository.tombstones_of_kind held kind⟩, ?_,
    fun failure => ?_, fun refs listed => ⟨⟨_, perm, ordered, ?_⟩, fun kind => ?_⟩⟩
  · refine (Grave.pairwise_inOrder ?_).imp_of_mem fun {first second} member member' earlier => ?_
    · exact List.Pairwise.sublist List.filter_sublist increasing
    · have tag {grave : Grave} (chosen : grave ∈ Grave.inOrder (tombstones.entries.filter
          fun grave => grave.1.tag == kind.tag)) : grave.1.tag = kind.tag := by
        simpa using (List.mem_filter.1 ((Grave.inOrder_perm _).mem_iff.1 chosen)).2
      exact earlier.of_tag ((tag member).trans (tag member').symm)
  · rw [all, exists_mapM_eq_ok]
    simp only [Repository.exists_readGrave_iff, perm.mem_iff]
  · rw [all, mapM_eq_error_iff]
    simp only [Repository.exists_readGrave_iff, Repository.readGrave_eq_error_iff,
      Grave.firstForeign_iff]
    constructor
    · rintro ⟨before, grave, behind, split, known, foreign, rfl⟩
      exact ⟨grave, ⟨before, behind, split, known, foreign⟩, rfl⟩
    · rintro ⟨grave, ⟨before, behind, split, known, foreign⟩, rfl⟩
      exact ⟨before, grave, behind, split, known, foreign, rfl⟩
  · exact (Repository.tombstones_eq_ok_iff held).1 listed
  · rw [all, mapM_eq_ok_iff_forall₂] at listed
    rw [Repository.tombstones_of_kind held, ← Grave.filter_inOrder increasing,
      Repository.filter_of_forall₂ listed]

/-- Two tabs and a block were deleted at one time: among all tombstones the block stands first, by
its tag, and the tabs stand there in the order of their list. With a row of another tag there is no
list of all kinds. -/
theorem tabs_are_listed_by_id :
    let tombstones : Tombstones :=
      .ofList [(⟨"tab", "b"⟩, 5), (⟨"block", "x"⟩, 5), (⟨"tab", "a"⟩, 5)]
    let database : Database := { Database.fresh with tombstones := some tombstones }
    let foreign : Tombstones := tombstones.insert ⟨"pane", "p"⟩ 1
    let other : Database := { Database.fresh with tombstones := some foreign }
    database.tombstones = some tombstones ∧
      Repository.tombstones database none = .ok [⟨.block, "x"⟩, ⟨.tab, "a"⟩, ⟨.tab, "b"⟩] ∧
      Repository.tombstones database (some .tab) = .ok [⟨.tab, "a"⟩, ⟨.tab, "b"⟩] ∧
      Repository.tombstones other none =
        .error (.invalidData (.unknownTombstone ⟨"pane"⟩)) := by
  intro tombstones database foreign other
  have listed : Repository.tombstones database none =
      .ok [⟨.block, "x"⟩, ⟨.tab, "a"⟩, ⟨.tab, "b"⟩] := by
    refine (Repository.tombstones_eq_ok_iff rfl).2 ?_
    rw [List.mergeSort_of_pairwise (by decide +kernel)]
    decide +kernel
  obtain ⟨_, _, _, parts⟩ :=
    tombstones_are_listed_faithfully (show database.tombstones = some tombstones from rfl)
  obtain ⟨_, _, refused, _⟩ :=
    tombstones_are_listed_faithfully (show other.tombstones = some foreign from rfl)
  refine ⟨rfl, listed, (parts _ listed).2 .tab, (refused _).2 ⟨(⟨"pane", "p"⟩, 1), ?_, rfl⟩⟩
  have entries : foreign.entries =
      (⟨"block", "x"⟩, 5) :: (⟨"pane", "p"⟩, 1) :: [(⟨"tab", "a"⟩, 5), (⟨"tab", "b"⟩, 5)] := by
    decide +kernel
  refine ⟨by rw [entries]; simp, ?_, fun row member unknown => ?_⟩
  · rintro ⟨kind, tag⟩
    revert tag
    cases kind <;> decide
  · rw [entries] at member
    simp only [List.mem_cons, List.not_mem_nil, or_false] at member
    obtain rfl | rfl | rfl | rfl := member
    · exact absurd ⟨.block, rfl⟩ unknown
    · exact .inl rfl
    · exact absurd ⟨.tab, rfl⟩ unknown
    · exact absurd ⟨.tab, rfl⟩ unknown

end ScopedStore
