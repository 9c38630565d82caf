import ScopedStore.Proofs.Json.Rereading

/-!
# Values are read back, but for some doubles

A double is written in as few digits as tell it apart, but the reader rounds more than once, so it
reads some of these texts as a neighbour of the double (`ReadsBack`). A value in which every double
is read back is read back as it is, if its integers have 64 bits, the members of its objects stand
in order and the reader accepts as many levels as it has (`readValue_chars`). So whether such a
value is read back is a matter of its depth alone (`parse?_render`). All values without doubles are
among them.

The proof follows the value. The reader spends one unit of its fuel for every value and one for
every item or member, and each of these stands for at least one character.
-/

set_option autoImplicit false

namespace ScopedStore.Json

/-! ## Values without doubles -/

mutual

/-- Is every number in the value an integer? -/
def Whole : Json → Prop
  | .double _ => False
  | .array items => WholeItems items
  | .object members => WholeMembers members
  | _ => True

/-- Is every number in a list of values an integer? -/
def WholeItems : List Json → Prop
  | [] => True
  | item :: rest => item.Whole ∧ WholeItems rest

/-- Is every number in the values of members an integer? -/
def WholeMembers : List (String × Json) → Prop
  | [] => True
  | (_, value) :: rest => value.Whole ∧ WholeMembers rest

end

/-- The value has no doubles, its integers have 64 bits and its objects hold their members in
order. -/
def Plain (value : Json) : Prop := value.Canonical ∧ value.Whole

theorem plain_array {items : List Json} (plain : ∀ item ∈ items, item.Plain) :
    Plain (.array items) := by
  induction items with
  | nil => exact ⟨trivial, trivial⟩
  | cons item items ih =>
      obtain ⟨here, there⟩ := List.forall_mem_cons.1 plain
      exact ⟨⟨here.1, (ih there).1⟩, here.2, (ih there).2⟩

/-! ## Values whose doubles are read back -/

/-- The text of a double is read as that double. -/
def ReadsBack (number : Decimal.Double) : Prop :=
  readNumber (number.render numberLayout) = some (.double number, [])

instance (number : Decimal.Double) : Decidable (ReadsBack number) :=
  inferInstanceAs (Decidable (_ = _))

mutual

/-- Is every double in the value read back? -/
def Faithful : Json → Prop
  | .double number => ReadsBack number
  | .array items => FaithfulItems items
  | .object members => FaithfulMembers members
  | _ => True

/-- Is every double in a list of values read back? -/
def FaithfulItems : List Json → Prop
  | [] => True
  | item :: rest => item.Faithful ∧ FaithfulItems rest

/-- Is every double in the values of members read back? -/
def FaithfulMembers : List (String × Json) → Prop
  | [] => True
  | (_, value) :: rest => value.Faithful ∧ FaithfulMembers rest

end

/-- Every double in the value is read back, its integers have 64 bits and its objects hold their
members in order. -/
def Exact (value : Json) : Prop := value.Canonical ∧ value.Faithful

theorem exact_integer {number : Int} (range : IntegerRange number) : Exact (.integer number) :=
  ⟨range, trivial⟩

theorem exact_array {items : List Json} (exact : ∀ item ∈ items, item.Exact) :
    Exact (.array items) := by
  induction items with
  | nil => exact ⟨trivial, trivial⟩
  | cons item items ih =>
      obtain ⟨here, there⟩ := List.forall_mem_cons.1 exact
      exact ⟨⟨here.1, (ih there).1⟩, here.2, (ih there).2⟩

theorem exact_object {members : List (String × Json)} (increasing : Entries.Increasing members)
    (exact : ∀ entry ∈ members, entry.2.Exact) : Exact (.object members) := by
  induction members with
  | nil => exact ⟨⟨.nil, trivial⟩, trivial⟩
  | cons entry members ih =>
      obtain ⟨here, there⟩ := List.forall_mem_cons.1 exact
      have rest := ih (List.pairwise_cons.1 increasing).2 there
      exact ⟨⟨increasing, here.1, rest.1.2⟩, here.2, rest.2⟩

mutual

theorem Whole.faithful : ∀ {value : Json}, value.Whole → value.Faithful
  | .null, _ | .bool _, _ | .integer _, _ | .text _, _ => trivial
  | .array _, whole => faithful_of_wholeItems whole
  | .object _, whole => faithful_of_wholeMembers whole

theorem faithful_of_wholeItems : ∀ {items : List Json}, WholeItems items → FaithfulItems items
  | [], _ => trivial
  | _ :: _, ⟨here, there⟩ => ⟨here.faithful, faithful_of_wholeItems there⟩

theorem faithful_of_wholeMembers :
    ∀ {members : List (String × Json)}, WholeMembers members → FaithfulMembers members
  | [], _ => trivial
  | (_, _) :: _, ⟨here, there⟩ => ⟨here.faithful, faithful_of_wholeMembers there⟩

end

theorem Plain.exact {value : Json} (plain : value.Plain) : value.Exact :=
  ⟨plain.1, plain.2.faithful⟩

/-! ## Nesting -/

theorem depth_array_le {items : List Json} {levels : Nat}
    (bounded : ∀ item ∈ items, item.depth ≤ levels) : (Json.array items).depth ≤ levels + 1 := by
  induction items with
  | nil => exact Nat.succ_le_succ (Nat.zero_le levels)
  | cons item items ih =>
      obtain ⟨here, there⟩ := List.forall_mem_cons.1 bounded
      exact Nat.succ_le_succ (Nat.max_le.2 ⟨here, Nat.le_of_succ_le_succ (ih there)⟩)

theorem depth_object_le {members : List (String × Json)} {levels : Nat}
    (bounded : ∀ entry ∈ members, entry.2.depth ≤ levels) :
    (Json.object members).depth ≤ levels + 1 := by
  induction members with
  | nil => exact Nat.succ_le_succ (Nat.zero_le levels)
  | cons entry members ih =>
      obtain ⟨here, there⟩ := List.forall_mem_cons.1 bounded
      exact Nat.succ_le_succ (Nat.max_le.2 ⟨here, Nat.le_of_succ_le_succ (ih there)⟩)

/-! ## Reading -/

/-- The members of an object in order are those of the object that is built from them. -/
theorem ofMembers_of_increasing {members : List (String × Json)}
    (increasing : Entries.Increasing members) : Json.ofMembers members = .object members := by
  refine congrArg Json.object (Entries.eq_of_lookup (SortedMap.ofList members).increasing
    increasing fun key => ?_)
  rw [SortedMap.ofList, Entries.lookup_insertAll key increasing, Entries.lookup, Option.or_none]

theorem chars_length_pos (value : Json) : 0 < value.chars.length := by
  obtain ⟨first, rest, begins, _⟩ := begins_chars value
  rw [begins]
  exact Nat.succ_pos _

section Steps

variable {fuel levels : Nat} {characters behind : List Char} {value : Json}

/-- Behind an item and a comma the further items are read. -/
theorem readItems_more
    (first : readValue fuel levels characters = some (value, ',' :: behind)) :
    readItems (fuel + 1) levels characters =
      (readItems fuel levels behind).map fun (items, behind) => (value :: items, behind) := by
  rw [readItems, first]
  rfl

/-- Behind an item and a bracket there is no further one. -/
theorem readItems_last
    (first : readValue fuel levels characters = some (value, ']' :: behind)) :
    readItems (fuel + 1) levels characters = some ([value], behind) := by
  rw [readItems, first]
  rfl

/-- What is read of the members that begin with a name depends on what follows its value. -/
theorem readMembers_textChars (name : String) {next : Char} (mark : isSpace next = false)
    (first : readValue fuel levels characters = some (value, next :: behind)) :
    readMembers (fuel + 1) levels (textChars name ++ ':' :: characters) =
      match next :: behind with
      | ',' :: behind =>
          (readMembers fuel levels behind).map fun (members, behind) =>
            ((name, value) :: members, behind)
      | '\x7d' :: behind => some ([(name, value)], behind)
      | _ => none := by
  rw [textChars_append, readMembers, skipSpaces_cons rfl]
  split
  · rename_i inside quoted
    cases quoted
    rw [readText_quoted]
    dsimp only
    rw [skipSpaces_cons rfl]
    split
    · rename_i rest colon
      cases colon
      rw [first]
      dsimp only
      rewrite [skipSpaces_cons mark]
      rfl
    · rename_i noColon
      exact absurd rfl (noColon characters)
  · rename_i noQuote
    exact absurd rfl (noQuote _)

end Steps

mutual

/-- **A value is read back** in front of anything that can not go on a number. -/
theorem readValue_chars (fuel : Nat) (value : Json) {levels : Nat} {rest : List Char}
    (canonical : value.Canonical) (faithful : value.Faithful) (depth : value.depth ≤ levels)
    (enough : 2 * value.chars.length ≤ fuel) (stops : Stops rest) :
    readValue fuel levels (value.chars ++ rest) = some (value, rest) := by
  match fuel, levels, value with
  | 0, _, value =>
      have positive := chars_length_pos value
      omega
  | fuel + 1, _, .null => rfl
  | fuel + 1, _, .bool true => rfl
  | fuel + 1, _, .bool false => rfl
  | fuel + 1, _, .integer value =>
      rw [chars, readValue_numeric (numeric_integerChars value) (integerChars_ne_nil value),
        readNumber_append stops, readNumber_integerChars canonical]
      rfl
  | fuel + 1, _, .double value =>
      have written := numeric_render numberLayout value
      rw [chars, readValue_numeric written.1 written.2, readNumber_append stops,
        show readNumber _ = _ from faithful]
      rfl
  | fuel + 1, levels, .text value =>
      rw [chars]
      exact readValue_textChars levels value rest
  | fuel + 1, 0, .array items => exact absurd depth (Nat.not_succ_le_zero _)
  | fuel + 1, 0, .object members => exact absurd depth (Nat.not_succ_le_zero _)
  | fuel + 1, levels + 1, .array [] => rfl
  | fuel + 1, levels + 1, .object [] => rfl
  | fuel + 1, levels + 1, .array (item :: items) =>
      simp only [chars, List.length_cons, List.length_append, List.length_nil] at enough
      rw [readValue_array, readItems_chars fuel item items canonical faithful
        (Nat.le_of_succ_le_succ depth) (by omega) rest]
      rfl
  | fuel + 1, levels + 1, .object ((name, value) :: members) =>
      simp only [chars, List.length_cons, List.length_append, List.length_nil] at enough
      rw [readValue_object, readMembers_chars fuel name value members canonical.2 faithful
        (Nat.le_of_succ_le_succ depth) (by omega) rest]
      exact congrArg (fun read => some (read, rest)) (ofMembers_of_increasing canonical.1)

/-- The items of an array are read back. -/
theorem readItems_chars (fuel : Nat) (item : Json) (items : List Json) {levels : Nat}
    (canonical : CanonicalItems (item :: items)) (faithful : FaithfulItems (item :: items))
    (depth : depthOfItems (item :: items) ≤ levels)
    (enough : 2 * (item.chars.length + (charsOfItems items).length) < fuel)
    (rest : List Char) :
    readItems fuel levels (item.chars ++ (charsOfItems items ++ ']' :: rest)) =
      some (item :: items, rest) := by
  match fuel with
  | 0 => exact absurd enough (Nat.not_lt_zero _)
  | fuel + 1 =>
      obtain ⟨here, there⟩ := Nat.max_le.1 depth
      have first := readValue_chars fuel item canonical.1 faithful.1 here (by omega)
        (ends_items items rest).stops
      match items with
      | [] => exact readItems_last first
      | other :: items =>
          simp only [charsOfItems, List.length_cons, List.length_append] at enough
          rw [charsOfItems_cons] at first ⊢
          rw [readItems_more first,
            readItems_chars fuel other items canonical.2 faithful.2 there (by omega) rest]
          rfl

/-- The members of an object are read back. -/
theorem readMembers_chars (fuel : Nat) (name : String) (value : Json)
    (members : List (String × Json)) {levels : Nat}
    (canonical : CanonicalMembers ((name, value) :: members))
    (faithful : FaithfulMembers ((name, value) :: members))
    (depth : depthOfMembers ((name, value) :: members) ≤ levels)
    (enough : 2 * (value.chars.length + (charsOfMembers members).length) < fuel)
    (rest : List Char) :
    readMembers fuel levels
        (textChars name ++ ':' :: (value.chars ++ (charsOfMembers members ++ '\x7d' :: rest))) =
      some ((name, value) :: members, rest) := by
  match fuel with
  | 0 => exact absurd enough (Nat.not_lt_zero _)
  | fuel + 1 =>
      obtain ⟨here, there⟩ := Nat.max_le.1 depth
      have first := readValue_chars fuel value canonical.1 faithful.1 here (by omega)
        (ends_members members rest).stops
      match members with
      | [] => exact readMembers_textChars name rfl first
      | (other, inside) :: members =>
          simp only [charsOfMembers, List.length_cons, List.length_append] at enough
          rw [charsOfMembers_cons] at first ⊢
          rw [readMembers_textChars name rfl first]
          exact congrArg (Option.map _)
            (readMembers_chars fuel other inside members canonical.2 faithful.2 there (by omega) rest)

end

/-- **Whether a value whose doubles are read back is read back is a matter of its depth.** -/
theorem parse?_render {value : Json} (exact : value.Exact) :
    parse? value.render = if value.depth ≤ maxLevels then some value else none := by
  split
  · rename_i depth
    have stops : Stops [] := (ends_of_blank rfl).stops
    have read := readValue_chars (2 * value.chars.length + 2) value exact.1 exact.2 depth
      (Nat.le_add_right _ _) stops
    rw [List.append_nil] at read
    rw [parse?, parseWithin?, render, String.toList_ofList, read]
    rfl
  · rename_i deep
    cases parsed : parse? value.render with
    | none => rfl
    | some again => exact absurd (depth_le_of_parse? parsed) deep

end ScopedStore.Json
