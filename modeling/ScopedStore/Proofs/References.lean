import Mathlib.Data.List.TakeWhile
import ScopedStore.Model.Ref

/-!
# Reading references

The written form of a reference is cut at its first colon (`Ref.CutAtColon`). No tag holds a colon,
so the cut of a written reference is the one between its tag and its id, however many colons the id
holds; and a text has one cut at most. What is read of a text is told by its cut alone
(`Ref.parse_of_cut`): first that there is something behind the colon, and only then that there is a
tag in front of it.

So written references are read back, the texts that are read are the written references with an id,
and of any other text the error tells which of the two is wrong (`references_are_read_back`).
-/

set_option autoImplicit false

namespace ScopedStore

namespace Kind

/-- No tag holds a colon. -/
theorem colon_not_mem_tag (kind : Kind) : ':' ∉ kind.tag.toList := by
  cases kind <;> decide

/-- Kinds have different tags. -/
theorem tag_injective : Function.Injective tag := by
  intro first second same
  have named := first.ofTag?_tag
  rw [same, second.ofTag?_tag] at named
  exact (Option.some.inj named).symm

/-- What is no tag is given back as unknown. -/
theorem ofTag_eq_error_iff {tag : String} {unknown : UnknownKind} :
    ofTag tag = .error unknown ↔ tag = unknown.tag ∧ ∀ kind : Kind, kind.tag ≠ tag := by
  cases named : ofTag tag with
  | ok kind =>
      refine iff_of_false nofun fun foreign => foreign.2 kind ?_
      exact (ofTag_eq_ok_iff.1 named).symm
  | error other =>
      have same : other = ⟨tag⟩ := by
        rw [ofTag] at named
        split at named <;> cases named
        rfl
      subst same
      have foreign (kind : Kind) : kind.tag ≠ tag := fun same => by
        rw [ofTag_eq_ok_iff.2 same.symm] at named
        cases named
      constructor
      · intro refused
        cases refused
        exact ⟨rfl, foreign⟩
      · rintro ⟨rfl, _⟩
        rfl

end Kind

namespace Ref

/-! ## The first colon -/

/-- The first colon of a text stands between the one part and the other. -/
structure CutAtColon (text front behind : String) : Prop where
  whole : text = front ++ ":" ++ behind
  first : ':' ∉ front.toList

variable {text front behind : String}

theorem cut_display (ref : Ref) : CutAtColon ref.display ref.kind.tag ref.id :=
  ⟨rfl, ref.kind.colon_not_mem_tag⟩

namespace CutAtColon

theorem toList_eq (cut : CutAtColon text front behind) :
    text.toList = front.toList ++ ':' :: behind.toList := by
  rw [cut.whole, String.toList_append, String.toList_append, List.append_assoc]
  rfl

theorem not_colon (cut : CutAtColon text front behind) :
    ∀ character ∈ front.toList, (character != ':') = true := by
  intro character member
  refine bne_iff_ne.2 fun colon => cut.first ?_
  rwa [← colon]

theorem takeWhile_eq (cut : CutAtColon text front behind) :
    text.toList.takeWhile (· != ':') = front.toList := by
  rw [cut.toList_eq, List.takeWhile_append_of_pos cut.not_colon,
    List.takeWhile_cons_of_neg (by decide), List.append_nil]

theorem dropWhile_eq (cut : CutAtColon text front behind) :
    text.toList.dropWhile (· != ':') = ':' :: behind.toList := by
  rw [cut.toList_eq, List.dropWhile_append_of_pos cut.not_colon,
    List.dropWhile_cons_of_neg (by decide)]

/-- A text has one first colon at most. -/
theorem unique {front' behind' : String} (cut : CutAtColon text front behind)
    (other : CutAtColon text front' behind') : front = front' ∧ behind = behind' := by
  have fronts := cut.takeWhile_eq.symm.trans other.takeWhile_eq
  have behinds := cut.dropWhile_eq.symm.trans other.dropWhile_eq
  exact ⟨String.toList_inj.1 fronts, String.toList_inj.1 (List.cons.inj behinds).2⟩

end CutAtColon

/-- A text with a colon has a first one. -/
theorem exists_cut (colon : ':' ∈ text.toList) : ∃ front behind, CutAtColon text front behind := by
  obtain ⟨front, behind, split, first⟩ := List.eq_append_cons_of_mem colon
  refine ⟨String.ofList front, String.ofList behind, ?_, by rwa [String.toList_ofList]⟩
  rw [← String.toList_inj, split, String.toList_append, String.toList_append, String.toList_ofList,
    String.toList_ofList, List.append_assoc]
  simp

/-! ## What is read -/

theorem parse_of_no_colon (none : ':' ∉ text.toList) : parse text = .error (.malformed text) := by
  have nothing : text.toList.dropWhile (· != ':') = [] :=
    List.dropWhile_eq_nil_iff.2 fun character member =>
      bne_iff_ne.2 fun colon => none (colon ▸ member)
  rw [parse, nothing]

/-- **What is read of a text is told by its cut.** That nothing stands behind the colon counts
before what stands in front of it. -/
theorem parse_of_cut (cut : CutAtColon text front behind) :
    parse text =
      if behind = "" then .error (.malformed text)
      else
        match Kind.ofTag front with
        | .ok kind => .ok ⟨kind, behind⟩
        | .error unknown => .error (.unknownKind unknown) := by
  rw [parse, cut.takeWhile_eq, cut.dropWhile_eq, String.ofList_toList]
  cases characters : behind.toList with
  | nil => rw [if_pos (String.toList_eq_nil_iff.1 characters)]
  | cons first rest =>
      have some : behind ≠ "" := by
        rintro rfl
        cases characters
      obtain rfl : behind = String.ofList (first :: rest) := by
        rw [← characters, String.ofList_toList]
      exact (if_neg some).symm

/-- **A text is read as a reference exactly if it is written so and has an id.** -/
theorem parse_eq_ok_iff {ref : Ref} : parse text = .ok ref ↔ ref.id ≠ "" ∧ text = ref.display := by
  constructor
  · intro read
    by_cases colon : ':' ∈ text.toList
    · obtain ⟨front, behind, cut⟩ := exists_cut colon
      rw [parse_of_cut cut] at read
      split at read
      · cases read
      · rename_i some
        split at read
        · rename_i kind named
          cases read
          exact ⟨some, by rw [cut.whole, Kind.ofTag_eq_ok_iff.1 named, display]⟩
        · cases read
    · rw [parse_of_no_colon colon] at read
      cases read
  · rintro ⟨some, rfl⟩
    rw [parse_of_cut ref.cut_display, if_neg some, Kind.ofTag_eq_ok_iff.2 rfl]

theorem display_injective : Function.Injective display := by
  intro first second same
  have cut := second.cut_display
  rw [← same] at cut
  obtain ⟨tags, ids⟩ := first.cut_display.unique cut
  obtain ⟨kind, id⟩ := first
  rw [show kind = second.kind from Kind.tag_injective tags, show id = second.id from ids]

/-! ## What is refused -/

/-- A text is malformed exactly if it has no colon, or nothing behind the first one. -/
theorem parse_eq_malformed_iff {whole : String} :
    parse text = .error (.malformed whole) ↔
      whole = text ∧ (':' ∉ text.toList ∨ ∃ front, CutAtColon text front "") := by
  by_cases colon : ':' ∈ text.toList
  · obtain ⟨front, behind, cut⟩ := exists_cut colon
    rw [parse_of_cut cut]
    by_cases none : behind = ""
    · subst none
      rw [if_pos rfl]
      simp [colon, eq_comm, (⟨front, cut⟩ : ∃ front, CutAtColon text front "")]
    · rw [if_neg none]
      constructor
      · intro refused
        split at refused <;> cases refused
      · rintro ⟨_, without | ⟨other, empty⟩⟩
        · exact absurd colon without
        · exact absurd (cut.unique empty).2 none
  · rw [parse_of_no_colon colon]
    simp [colon, eq_comm]

/-- A tag is unknown exactly if it stands in front of the first colon and of an id, and is that of
no kind. -/
theorem parse_eq_unknown_iff {unknown : UnknownKind} :
    parse text = .error (.unknownKind unknown) ↔
      ∃ id, id ≠ "" ∧ CutAtColon text unknown.tag id ∧ ∀ kind : Kind, kind.tag ≠ unknown.tag := by
  constructor
  · intro refused
    by_cases colon : ':' ∈ text.toList
    · obtain ⟨front, behind, cut⟩ := exists_cut colon
      rw [parse_of_cut cut] at refused
      split at refused
      · cases refused
      · rename_i some
        split at refused
        · cases refused
        · rename_i other named
          cases refused
          obtain ⟨rfl, foreign⟩ := Kind.ofTag_eq_error_iff.1 named
          exact ⟨behind, some, cut, foreign⟩
    · rw [parse_of_no_colon colon] at refused
      cases refused
  · rintro ⟨id, some, cut, foreign⟩
    rw [parse_of_cut cut, if_neg some, Kind.ofTag_eq_error_iff.2 ⟨rfl, foreign⟩]

end Ref

/-- **References are read back exactly.** A text is read as a reference exactly if it is the tag of
a kind, a colon and a rest that is not empty, whatever colons the rest holds; and then the written
form of what is read is the text. Every reference with an id is read back from its written form, and
no two references have the same written form. A text that is not read is malformed exactly if it has
no colon or nothing behind its first one, and otherwise what stands in front of the first colon is
reported as unknown. -/
theorem references_are_read_back :
    (∀ text : String,
      ((∃ ref, Ref.parse text = .ok ref) ↔
        ∃ (kind : Kind) (rest : String), rest ≠ "" ∧ text = kind.tag ++ ":" ++ rest) ∧
      (∀ ref, Ref.parse text = .ok ref → ref.display = text) ∧
      (∀ whole, Ref.parse text = .error (.malformed whole) ↔
        whole = text ∧ (':' ∉ text.toList ∨ ∃ front, Ref.CutAtColon text front "")) ∧
      ∀ unknown, Ref.parse text = .error (.unknownKind unknown) ↔
        ∃ rest, rest ≠ "" ∧ Ref.CutAtColon text unknown.tag rest ∧
          ∀ kind : Kind, kind.tag ≠ unknown.tag) ∧
    (∀ ref : Ref, ref.id ≠ "" → Ref.parse ref.display = .ok ref) ∧
    Function.Injective Ref.display := by
  refine ⟨fun text => ⟨?_, fun ref read => ?_, fun _ => Ref.parse_eq_malformed_iff,
    fun _ => Ref.parse_eq_unknown_iff⟩, fun ref some => Ref.parse_eq_ok_iff.2 ⟨some, rfl⟩,
    Ref.display_injective⟩
  · constructor
    · rintro ⟨ref, read⟩
      exact ⟨ref.kind, ref.id, Ref.parse_eq_ok_iff.1 read⟩
    · rintro ⟨kind, rest, some, written⟩
      exact ⟨⟨kind, rest⟩, Ref.parse_eq_ok_iff.2 ⟨some, written⟩⟩
  · exact (Ref.parse_eq_ok_iff.1 read).2.symm

/-- An id may itself be written as a reference. -/
theorem reference_in_id_is_read_back :
    let ref : Ref := ⟨.block, "tab:3f:"⟩
    ref.id ≠ "" ∧ Ref.parse "block:tab:3f:" = .ok ref ∧
      Ref.parse "pane:" = .error (.malformed "pane:") ∧
      Ref.parse "pane::" = .error (.unknownKind ⟨"pane"⟩) := by
  intro ref
  have some : ref.id ≠ "" := by decide
  obtain ⟨texts, written, _⟩ := references_are_read_back
  refine ⟨some, written ref some, ((texts "pane:").2.2.1 _).2 ⟨rfl, .inr ⟨"pane", rfl, by decide⟩⟩,
    ((texts "pane::").2.2.2 _).2 ⟨":", by decide, ⟨rfl, by decide⟩, fun kind => ?_⟩⟩
  cases kind <;> decide

end ScopedStore
