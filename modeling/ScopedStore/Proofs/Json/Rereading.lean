import ScopedStore.Proofs.Json.Integers
import ScopedStore.Proofs.Json.Texts
import ScopedStore.Proofs.SortedMap

/-!
# What survives writing and reading

What is read from the text of a value has the same texts under the same names, and no integer is
read as another one (`echoes_of_parse?`); and a value is read with as many levels as it has, not
with fewer (`depth_le_of_parse?`). Nothing is said of doubles: one may be read as another one, or
be refused. All that matters of a number is that reading one takes all of it, because what stands
behind a value can not stand in a number; so the reader finds the values behind a number in
their places.
-/

set_option autoImplicit false

namespace ScopedStore.Json

/-! ## Where a value ends -/

/-- Nothing follows, or something that stands behind a value. -/
def Ends (characters : List Char) : Prop :=
  ∀ character ∈ (skipSpaces characters).head?, character = ',' ∨ character = ']' ∨ character = '\x7d'

theorem ends_of_skipSpaces {characters rest : List Char} {first : Char}
    (skipped : skipSpaces characters = first :: rest)
    (mark : first = ',' ∨ first = ']' ∨ first = '\x7d') : Ends characters := by
  intro character head
  rw [skipped] at head
  cases head
  exact mark

theorem ends_of_blank {characters : List Char} (blank : (skipSpaces characters).isEmpty = true) :
    Ends characters := by
  intro character head
  rw [List.isEmpty_iff.1 blank] at head
  cases head

theorem skipSpaces_cons {character : Char} (mark : isSpace character = false)
    (rest : List Char) : skipSpaces (character :: rest) = character :: rest := by
  rw [skipSpaces, List.dropWhile_cons_of_neg (by rw [mark]; exact Bool.false_ne_true)]

/-- No number goes on behind a value. -/
theorem Ends.stops {characters : List Char} (ends : Ends characters) : Stops characters := by
  intro character first
  cases characters with
  | nil => cases first
  | cons head rest =>
      cases first
      cases space : isSpace character with
      | false =>
          rw [Ends, skipSpaces_cons space] at ends
          rcases ends character rfl with rfl | rfl | rfl
          · rfl
          · rfl
          · rfl
      | true =>
          simp only [isSpace, Bool.or_eq_true, beq_iff_eq] at space
          rcases space with ((rfl | rfl) | rfl) | rfl
          · rfl
          · rfl
          · rfl
          · rfl

/-! ## Where a value begins -/

/-- A value begins with a character that is no space and closes no array. -/
def Begins (characters : List Char) : Prop :=
  ∃ first rest, characters = first :: rest ∧ isSpace first = false ∧ first ≠ ']'

theorem not_space_of_numeric {character : Char} (numeric : isNumeric character = true) :
    isSpace character = false := by
  cases space : isSpace character with
  | false => rfl
  | true =>
      simp only [isSpace, Bool.or_eq_true, beq_iff_eq] at space
      rcases space with ((rfl | rfl) | rfl) | rfl
      · cases numeric
      · cases numeric
      · cases numeric
      · cases numeric

theorem begins_of_numeric {characters : List Char} (numeric : Numeric characters)
    (nonempty : characters ≠ []) : Begins characters := by
  obtain ⟨first, rest, rfl⟩ := List.exists_cons_of_ne_nil nonempty
  have head := numeric first List.mem_cons_self
  refine ⟨first, rest, rfl, not_space_of_numeric head, fun same => ?_⟩
  subst same
  cases head

theorem begins_chars (value : Json) : Begins value.chars := by
  match value with
  | .null => exact ⟨'n', _, rfl, rfl, by decide⟩
  | .bool true => exact ⟨'t', _, rfl, rfl, by decide⟩
  | .bool false => exact ⟨'f', _, rfl, rfl, by decide⟩
  | .integer value =>
      rw [chars]
      exact begins_of_numeric (numeric_integerChars value) (integerChars_ne_nil value)
  | .double value =>
      rw [chars]
      exact begins_of_numeric (numeric_render _ value).1 (numeric_render _ value).2
  | .text value => exact ⟨'"', _, rfl, rfl, by decide⟩
  | .array [] => exact ⟨'[', _, rfl, rfl, by decide⟩
  | .array (item :: rest) => exact ⟨'[', _, rfl, rfl, by decide⟩
  | .object [] => exact ⟨'\x7b', _, rfl, rfl, by decide⟩
  | .object ((name, item) :: rest) => exact ⟨'\x7b', _, rfl, rfl, by decide⟩

/-! ## What is read again -/

/-- A text is read as the same text, and an integer as no other integer. -/
def Agrees : Json → Json → Prop
  | .text value, again => again = .text value
  | .integer value, again => again = .integer value ∨ ∃ double, again = .double double
  | _, _ => True

/-- The members have the same names in the same order, and their values agree. -/
inductive MembersAgree : List (String × Json) → List (String × Json) → Prop
  | nil : MembersAgree [] []
  | cons (name : String) {value again : Json} {members others : List (String × Json)}
      (agrees : Agrees value again) (rest : MembersAgree members others) :
      MembersAgree ((name, value) :: members) ((name, again) :: others)

/-- The other value agrees, or is an object of members that agree. -/
inductive Echoes : Json → Json → Prop
  | object {members others : List (String × Json)} (agree : MembersAgree members others) :
      Echoes (.object members) (.ofMembers others)
  | other {value again : Json} (noObject : ∀ members, value ≠ .object members)
      (agrees : Agrees value again) : Echoes value again

theorem Echoes.agrees {value again : Json} (echoes : Echoes value again) :
    Agrees value again := by
  cases echoes with
  | object agree => exact trivial
  | other noObject agrees => exact agrees

/-! ## Reading -/

/-- What begins with a character of numbers is read as a number. -/
theorem readValue_numeric {fuel levels : Nat} {written : List Char} (numeric : Numeric written)
    (nonempty : written ≠ []) (rest : List Char) :
    readValue (fuel + 1) levels (written ++ rest) = readNumber (written ++ rest) := by
  obtain ⟨first, others, rfl⟩ := List.exists_cons_of_ne_nil nonempty
  have head := numeric first List.mem_cons_self
  rw [List.cons_append, readValue, skipSpaces_cons (not_space_of_numeric head)]
  split
  all_goals first | rfl | (rename_i equal; cases (List.cons.inj equal).1; cases head)

/-- What is read of a text that begins with a number ends where the number ends. -/
theorem readNumber_ends {written rest behind : List Char} {again : Json}
    (numeric : Numeric written) (ends : Ends rest) (ends' : Ends behind)
    (read : readNumber (written ++ rest) = some (again, behind)) : rest = behind := by
  obtain ⟨taken, split, numeric'⟩ := readNumber_takes _ _ _ read
  exact numeric_prefix_unique numeric numeric' ends.stops ends'.stops split

/-- Values are read up to their ends, with the levels that they have, and their texts are read as
they are, in front of anything that may stand behind a value. -/
def RereadsValues (fuel : Nat) : Prop :=
  ∀ (levels : Nat) (value again : Json) (rest behind : List Char), Ends rest → Ends behind →
    readValue fuel levels (value.chars ++ rest) = some (again, behind) →
      Echoes value again ∧ value.depth ≤ levels ∧ rest = behind

/-- The items of an array are read up to its closing bracket. -/
def RereadsItems (fuel : Nat) : Prop :=
  ∀ (levels : Nat) (item : Json) (items again : List Json) (rest behind : List Char),
    readItems fuel levels (item.chars ++ (charsOfItems items ++ ']' :: rest)) =
      some (again, behind) → depthOfItems (item :: items) ≤ levels ∧ rest = behind

/-- The members of an object are read up to its closing brace, with their names and texts. -/
def RereadsMembers (fuel : Nat) : Prop :=
  ∀ (levels : Nat) (name : String) (value : Json) (members again : List (String × Json))
    (rest behind : List Char),
    readMembers fuel levels
        (textChars name ++ ':' :: (value.chars ++ (charsOfMembers members ++ '\x7d' :: rest))) =
      some (again, behind) →
        MembersAgree ((name, value) :: members) again ∧
          depthOfMembers ((name, value) :: members) ≤ levels ∧ rest = behind

variable {fuel : Nat}

theorem ends_items (items : List Json) (rest : List Char) :
    Ends (charsOfItems items ++ ']' :: rest) := by
  cases items with
  | nil => exact ends_of_skipSpaces rfl (.inr (.inl rfl))
  | cons item items => exact ends_of_skipSpaces rfl (.inl rfl)

theorem ends_members (members : List (String × Json)) (rest : List Char) :
    Ends (charsOfMembers members ++ '\x7d' :: rest) := by
  cases members with
  | nil => exact ends_of_skipSpaces rfl (.inr (.inr rfl))
  | cons member members => exact ends_of_skipSpaces rfl (.inl rfl)

theorem charsOfItems_cons (item : Json) (items : List Json) (rest : List Char) :
    charsOfItems (item :: items) ++ ']' :: rest =
      ',' :: (item.chars ++ (charsOfItems items ++ ']' :: rest)) := by
  simp only [charsOfItems, List.cons_append, List.append_assoc]

theorem charsOfMembers_cons (name : String) (value : Json) (members : List (String × Json))
    (rest : List Char) :
    charsOfMembers ((name, value) :: members) ++ '\x7d' :: rest =
      ',' :: (textChars name ++ ':' :: (value.chars ++ (charsOfMembers members ++ '\x7d' :: rest))) := by
  simp only [charsOfMembers, List.cons_append, List.append_assoc]

theorem textChars_append (value : String) (rest : List Char) :
    textChars value ++ rest = '"' :: (value.toList.flatMap escaped ++ '"' :: rest) := by
  simp only [textChars, List.cons_append, List.append_assoc, List.nil_append]

theorem readText_quoted (value : String) (rest : List Char) :
    readText [] (value.toList.flatMap escaped ++ '"' :: rest) = some (value, rest) := by
  rw [readText_chars, List.reverse_nil, List.nil_append, String.ofList_toList]

theorem rereadsItems_succ (values : RereadsValues fuel) (others : RereadsItems fuel) :
    RereadsItems (fuel + 1) := by
  intro levels item items again rest behind read
  rw [readItems] at read
  split at read
  · cases read
  · rename_i held middle first
    -- The reader goes on only in front of a comma or a bracket, so the item has ended there, and
    -- what it finds is the one that was written.
    split at read
    · rename_i next skipped
      obtain ⟨_, here, rfl⟩ := values levels item held _ middle (ends_items items rest)
        (ends_of_skipSpaces skipped (.inl rfl)) first
      obtain ⟨⟨more, left⟩, readMore, result⟩ := Option.map_eq_some_iff.1 read
      cases result
      cases items with
      | nil => cases skipped
      | cons other items =>
          rw [charsOfItems_cons] at skipped
          cases skipped
          obtain ⟨there, ended⟩ := others levels other items more rest _ readMore
          exact ⟨Nat.max_le.2 ⟨here, there⟩, ended⟩
    · rename_i next skipped
      obtain ⟨_, here, rfl⟩ := values levels item held _ middle (ends_items items rest)
        (ends_of_skipSpaces skipped (.inr (.inl rfl))) first
      cases read
      cases items with
      | nil =>
          cases skipped
          exact ⟨Nat.max_le.2 ⟨here, Nat.zero_le levels⟩, rfl⟩
      | cons item items => cases skipped
    · cases read

theorem rereadsMembers_succ (values : RereadsValues fuel) (others : RereadsMembers fuel) :
    RereadsMembers (fuel + 1) := by
  intro levels name value members again rest behind read
  rw [textChars_append, readMembers, skipSpaces_cons rfl] at read
  split at read
  · rename_i inside quoted
    cases quoted
    rw [readText_quoted] at read
    dsimp only at read
    rw [skipSpaces_cons rfl] at read
    split at read
    · rename_i written colon
      cases colon
      split at read
      · cases read
      · rename_i held middle first
        split at read
        · rename_i next skipped
          obtain ⟨echoes, here, rfl⟩ := values levels value held _ middle
            (ends_members members rest) (ends_of_skipSpaces skipped (.inl rfl)) first
          obtain ⟨⟨more, left⟩, readMore, result⟩ := Option.map_eq_some_iff.1 read
          cases result
          cases members with
          | nil => cases skipped
          | cons member members =>
              obtain ⟨other, value⟩ := member
              rw [charsOfMembers_cons] at skipped
              cases skipped
              obtain ⟨agree, there, ended⟩ :=
                others levels other value members more rest _ readMore
              exact ⟨.cons name echoes.agrees agree, Nat.max_le.2 ⟨here, there⟩, ended⟩
        · rename_i next skipped
          obtain ⟨echoes, here, rfl⟩ := values levels value held _ middle
            (ends_members members rest) (ends_of_skipSpaces skipped (.inr (.inr rfl))) first
          cases read
          cases members with
          | nil =>
              cases skipped
              exact ⟨.cons name echoes.agrees .nil, Nat.max_le.2 ⟨here, Nat.zero_le levels⟩, rfl⟩
          | cons member members => cases skipped
        · cases read
    · cases read
  · cases read

theorem readValue_bracket (levels : Nat) (inside : List Char) :
    readValue (fuel + 1) (levels + 1) ('[' :: inside) =
      match skipSpaces inside with
      | ']' :: behind => some (.array [], behind)
      | inside => (readItems fuel levels inside).map fun (items, behind) =>
          (.array items, behind) :=
  rfl

/-- Behind the opening bracket of an array that is not empty its items are read. -/
theorem readValue_array (levels : Nat) (item : Json) (items : List Json) (rest : List Char) :
    readValue (fuel + 1) (levels + 1) ((Json.array (item :: items)).chars ++ rest) =
      (readItems fuel levels (item.chars ++ (charsOfItems items ++ ']' :: rest))).map
        fun (items, behind) => (.array items, behind) := by
  have opened : (Json.array (item :: items)).chars ++ rest =
      '[' :: (item.chars ++ (charsOfItems items ++ ']' :: rest)) := by
    simp only [chars, List.cons_append, List.append_assoc, List.nil_append]
  obtain ⟨first, others, begins, mark, noEnd⟩ := begins_chars item
  rw [opened, readValue_bracket, begins, List.cons_append, skipSpaces_cons mark]
  split
  · rename_i closed
    exact absurd (List.cons.inj closed).1 noEnd
  · rfl

/-- Behind the opening brace of an object that is not empty its members are read. -/
theorem readValue_object (levels : Nat) (name : String) (value : Json)
    (members : List (String × Json)) (rest : List Char) :
    readValue (fuel + 1) (levels + 1) ((Json.object ((name, value) :: members)).chars ++ rest) =
      (readMembers fuel levels (textChars name ++
          ':' :: (value.chars ++ (charsOfMembers members ++ '\x7d' :: rest)))).map
        fun (members, behind) => (.ofMembers members, behind) := by
  have opened : (Json.object ((name, value) :: members)).chars ++ rest =
      '\x7b' :: (textChars name ++
        ':' :: (value.chars ++ (charsOfMembers members ++ '\x7d' :: rest))) := by
    simp only [chars, List.cons_append, List.append_assoc, List.nil_append]
  rw [opened, readValue, skipSpaces_cons rfl, textChars_append]
  rfl

theorem readValue_textChars (levels : Nat) (value : String) (rest : List Char) :
    readValue (fuel + 1) levels (textChars value ++ rest) = some (.text value, rest) := by
  rw [textChars_append, readValue, skipSpaces_cons rfl]
  exact congrArg (Option.map _) (readText_quoted value rest)

theorem rereadsValues_succ (items : RereadsItems fuel) (members : RereadsMembers fuel) :
    RereadsValues (fuel + 1) := by
  intro levels value again rest behind ends ends' read
  match value with
  | .null =>
      cases read
      exact ⟨.other nofun trivial, Nat.zero_le levels, rfl⟩
  | .bool true =>
      cases read
      exact ⟨.other nofun trivial, Nat.zero_le levels, rfl⟩
  | .bool false =>
      cases read
      exact ⟨.other nofun trivial, Nat.zero_le levels, rfl⟩
  | .integer value =>
      have numeric := numeric_integerChars value
      rw [chars, readValue_numeric numeric (integerChars_ne_nil value)] at read
      exact ⟨.other nofun (readNumber_integerChars_only ends.stops read), Nat.zero_le levels,
        readNumber_ends numeric ends ends' read⟩
  | .double value =>
      obtain ⟨numeric, nonempty⟩ := numeric_render numberLayout value
      rw [chars, readValue_numeric numeric nonempty] at read
      exact ⟨.other nofun trivial, Nat.zero_le levels, readNumber_ends numeric ends ends' read⟩
  | .text value =>
      rw [chars, readValue_textChars] at read
      cases read
      exact ⟨.other nofun rfl, Nat.zero_le levels, rfl⟩
  | .array [] =>
      cases levels with
      | zero => cases read
      | succ levels =>
          cases read
          exact ⟨.other nofun trivial, Nat.succ_le_succ (Nat.zero_le levels), rfl⟩
  | .array (item :: others) =>
      cases levels with
      | zero => cases read
      | succ levels =>
          rw [readValue_array] at read
          obtain ⟨⟨more, left⟩, readMore, result⟩ := Option.map_eq_some_iff.1 read
          cases result
          obtain ⟨inside, ended⟩ := items levels item others more rest _ readMore
          exact ⟨.other nofun trivial, Nat.succ_le_succ inside, ended⟩
  | .object [] =>
      cases levels with
      | zero => cases read
      | succ levels =>
          cases read
          exact ⟨.object .nil, Nat.succ_le_succ (Nat.zero_le levels), rfl⟩
  | .object ((name, value) :: others) =>
      cases levels with
      | zero => cases read
      | succ levels =>
          rw [readValue_object] at read
          obtain ⟨⟨more, left⟩, readMore, result⟩ := Option.map_eq_some_iff.1 read
          cases result
          obtain ⟨agree, inside, ended⟩ := members levels name value others more rest _ readMore
          exact ⟨.object agree, Nat.succ_le_succ inside, ended⟩

/-- **Values are read up to their ends, and their texts as they are**, with any fuel. -/
theorem rereads (fuel : Nat) :
    RereadsValues fuel ∧ RereadsItems fuel ∧ RereadsMembers fuel := by
  induction fuel with
  | zero =>
      refine ⟨?_, ?_, ?_⟩
      · intro levels value again rest behind ends ends' read
        cases read
      · intro levels item items again rest behind read
        cases read
      · intro levels name value members again rest behind read
        cases read
  | succ fuel ih =>
      obtain ⟨values, items, members⟩ := ih
      exact ⟨rereadsValues_succ items members, rereadsItems_succ values items,
        rereadsMembers_succ values members⟩

/-- What is parsed from the text of a value is read from it up to its end. -/
theorem rereads_of_parse? {value again : Json} (parsed : parse? value.render = some again) :
    Echoes value again ∧ value.depth ≤ maxLevels := by
  rw [parse?, parseWithin?, render, String.toList_ofList] at parsed
  split at parsed
  · rename_i held behind read
    split at parsed
    · rename_i blank
      cases parsed
      rw [← List.append_nil value.chars] at read
      obtain ⟨echoes, levels, _⟩ := (rereads _).1 maxLevels value again [] behind
        (ends_of_blank rfl) (ends_of_blank blank) read
      exact ⟨echoes, levels⟩
    · cases parsed
  · cases parsed

/-- **What is parsed from the text of a value has its texts**, and no other integers. -/
theorem echoes_of_parse? {value again : Json} (parsed : parse? value.render = some again) :
    Echoes value again :=
  (rereads_of_parse? parsed).1

/-- **Nothing is parsed from the text of a value with too many levels.** -/
theorem depth_le_of_parse? {value again : Json} (parsed : parse? value.render = some again) :
    value.depth ≤ maxLevels :=
  (rereads_of_parse? parsed).2

/-! ## Members -/

namespace MembersAgree

variable {members others : List (String × Json)}

theorem names_eq (agree : MembersAgree members others) :
    others.map Prod.fst = members.map Prod.fst := by
  induction agree with
  | nil => rfl
  | cons name _ _ ih => rw [List.map_cons, List.map_cons, ih]

theorem increasing (agree : MembersAgree members others) (ordered : Entries.Increasing members) :
    Entries.Increasing others := by
  have names : (members.map Prod.fst).Pairwise fun earlier later => compare earlier later = .lt :=
    List.pairwise_map.2 ordered
  rw [← agree.names_eq] at names
  exact List.pairwise_map.1 names

theorem lookup (agree : MembersAgree members others) {name : String} {value : Json}
    (held : Entries.lookup name members = some value) :
    ∃ again, Entries.lookup name others = some again ∧ Agrees value again := by
  induction agree with
  | nil => cases held
  | cons other agrees _ ih =>
      rw [Entries.lookup_cons] at held ⊢
      by_cases here : name = other
      · rw [if_pos here] at held ⊢
        cases held
        exact ⟨_, rfl, agrees⟩
      · rw [if_neg here] at held ⊢
        exact ih held

end MembersAgree

/-- **The members of an object are read again**, if it holds them in order. -/
theorem Echoes.member {members : List (String × Json)} {again : Json}
    (echoes : Echoes (.object members) again) (increasing : Entries.Increasing members)
    {name : String} {value : Json} (held : Entries.lookup name members = some value) :
    ∃ others inside, again = .object others ∧ Entries.lookup name others = some inside ∧
      Agrees value inside := by
  cases echoes with
  | other noObject _ => exact absurd rfl (noObject members)
  | object agree =>
      obtain ⟨inside, found, agrees⟩ := agree.lookup held
      refine ⟨_, inside, rfl, ?_, agrees⟩
      rw [SortedMap.ofList, Entries.lookup_insertAll name (agree.increasing increasing), found]
      rfl

end ScopedStore.Json
