import ScopedStore.Json.Parser
import ScopedStore.Json.Printer

/-!
# Where a number ends

The text of a number consists of digits, signs, points and the letter of an exponent, and reading
a number takes nothing but such characters (`readNumber_takes`). None of them can stand behind a
value. So where a reader goes on behind a number, it has taken the number as a whole, whatever it
makes of its digits (`numeric_prefix_unique`), and it makes of them what it makes of the number
alone (`readNumber_append`).
-/

set_option autoImplicit false

namespace ScopedStore.Json

open Decimal

/-- The characters of which numbers consist. -/
def isNumeric (character : Char) : Bool :=
  character.isDigit || character == '-' || character == '+' || character == '.' ||
    character == 'e' || character == 'E'

/-- All characters of the list can stand in a number. -/
def Numeric (characters : List Char) : Prop := ∀ character ∈ characters, isNumeric character = true

namespace Numeric

variable {first second : List Char} {character : Char}

theorem nil : Numeric [] := nofun

theorem cons (head : isNumeric character = true) (tail : Numeric first) :
    Numeric (character :: first) :=
  List.forall_mem_cons.2 ⟨head, tail⟩

theorem append (front : Numeric first) (back : Numeric second) : Numeric (first ++ second) :=
  List.forall_mem_append.2 ⟨front, back⟩

theorem of_subset (numeric : Numeric second) (subset : first ⊆ second) : Numeric first :=
  fun character member => numeric character (subset member)

theorem of_digits (digits : ∀ character ∈ first, character.isDigit = true) : Numeric first := by
  intro character member
  rw [isNumeric, digits character member]
  rfl

end Numeric

/-! ## Reading -/

/-- The characters that a reading has taken can stand in a number. -/
def Takes {α : Type} (characters : List Char) (reading : Reading α) : Prop :=
  ∀ value rest, reading = some (value, rest) →
    ∃ taken, characters = taken ++ rest ∧ Numeric taken

theorem Takes.cons {α : Type} {character : Char} {characters : List Char} {reading : Reading α}
    (numeric : isNumeric character = true) (takes : Takes characters reading) :
    Takes (character :: characters) reading := by
  intro value rest read
  obtain ⟨taken, rfl, others⟩ := takes value rest read
  exact ⟨character :: taken, rfl, others.cons numeric⟩

/-- What is taken by one reading after the other. -/
theorem Takes.of_split {α : Type} {taken characters : List Char} {reading : Reading α}
    (numeric : Numeric taken) (takes : Takes characters reading) :
    Takes (taken ++ characters) reading := by
  intro value rest read
  obtain ⟨others, rfl, more⟩ := takes value rest read
  exact ⟨taken ++ others, (List.append_assoc _ _ _).symm, numeric.append more⟩

theorem readDigits_takes (characters : List Char) :
    ∃ taken, characters = taken ++ (readDigits characters).2 ∧ Numeric taken := by
  refine ⟨characters.takeWhile Char.isDigit, ?_, .of_digits ?_⟩
  · exact List.takeWhile_append_dropWhile.symm
  · exact List.all_eq_true.1 List.all_takeWhile

/-- Digits, of which there has to be one. -/
theorem readDigits_some_takes {α : Type} (characters : List Char) (make : List Nat → α) :
    Takes characters (match readDigits characters with
      | ([], _) => none
      | (digits, behind) => some (make digits, behind)) := by
  intro value rest read
  obtain ⟨taken, split, numeric⟩ := readDigits_takes characters
  rcases digits : readDigits characters with ⟨_ | ⟨first, more⟩, behind⟩
  · rw [digits] at read
    cases read
  · rw [digits] at read split
    cases read
    exact ⟨taken, split, numeric⟩

theorem readFraction_takes (characters : List Char) :
    Takes characters (readFraction characters) := by
  unfold readFraction
  split
  · exact (readDigits_some_takes _ some).cons rfl
  · intro value rest read
    cases read
    exact ⟨[], rfl, .nil⟩

theorem readExponent_takes (characters : List Char) :
    Takes characters (readExponent characters) := by
  unfold readExponent
  dsimp only
  split
  · exact ((readDigits_some_takes _ fun digits => some (true, digits)).cons rfl).cons rfl
  · exact ((readDigits_some_takes _ fun digits => some (true, digits)).cons rfl).cons rfl
  · exact ((readDigits_some_takes _ fun digits => some (false, digits)).cons rfl).cons rfl
  · exact ((readDigits_some_takes _ fun digits => some (false, digits)).cons rfl).cons rfl
  · exact (readDigits_some_takes _ fun digits => some (false, digits)).cons rfl
  · exact (readDigits_some_takes _ fun digits => some (false, digits)).cons rfl
  · intro value rest read
    cases read
    exact ⟨[], rfl, .nil⟩

/-- A reading and then another one. -/
theorem Takes.bind {α β : Type} {characters : List Char} {first : Option (α × List Char)}
    {next : α × List Char → Option (β × List Char)} (takes : Takes characters first)
    (later : ∀ value rest, Takes rest (next (value, rest))) :
    Takes characters (first.bind next) := by
  intro value rest read
  obtain ⟨⟨held, middle⟩, readFirst, readNext⟩ := Option.bind_eq_some_iff.1 read
  obtain ⟨taken, rfl, numeric⟩ := takes held middle readFirst
  exact (later held middle).of_split numeric value rest readNext

theorem takes_some {α : Type} (value : α) (characters : List Char) :
    Takes characters (some (value, characters)) := by
  intro value rest read
  cases read
  exact ⟨[], rfl, .nil⟩

theorem takes_none {α : Type} (characters : List Char) :
    Takes characters (none : Reading α) := fun _ _ => nofun

/-- The parts of a number behind its whole digits. -/
def readParts (negative : Bool) (whole : List Nat) (characters : List Char) : Reading Literal :=
  (readFraction characters).bind fun (fraction, behind) =>
    (readExponent behind).bind fun (exponent, behind) =>
      some (⟨negative, whole, fraction, exponent⟩, behind)

/-- The parts of a number behind its sign. -/
def readUnsigned (negative : Bool) (characters : List Char) : Reading Literal :=
  match readDigits characters with
  | ([], _) | (0 :: _ :: _, _) => none
  | (whole, behind) => readParts negative whole behind

theorem readLiteral_unsigned {characters : List Char}
    (unsigned : ∀ behind, characters ≠ '-' :: behind) :
    readLiteral characters = readUnsigned false characters := by
  unfold readLiteral
  split
  rename_i negative behind sign
  split at sign
  · exact absurd rfl (unsigned _)
  · cases sign
    rfl

theorem readUnsigned_takes (negative : Bool) (characters : List Char) :
    Takes characters (readUnsigned negative characters) := by
  obtain ⟨taken, split, numeric⟩ := readDigits_takes characters
  rw [readUnsigned]
  split
  · exact takes_none characters
  · exact takes_none characters
  · rename_i whole behind _ _ digits
    rw [digits] at split
    rw [split]
    exact .of_split numeric <| (readFraction_takes behind).bind fun fraction behind =>
      (readExponent_takes behind).bind fun exponent behind => takes_some _ behind

/-- **Reading the parts of a number takes nothing but characters of numbers.** -/
theorem readLiteral_takes (characters : List Char) :
    Takes characters (readLiteral characters) := by
  by_cases minus : ∃ behind, characters = '-' :: behind
  · obtain ⟨behind, rfl⟩ := minus
    exact (readUnsigned_takes true behind).cons rfl
  · rw [readLiteral_unsigned (not_exists.1 minus)]
    exact readUnsigned_takes false characters

/-- **Reading a number takes nothing but characters of numbers.** -/
theorem readNumber_takes (characters : List Char) : Takes characters (readNumber characters) := by
  refine (readLiteral_takes characters).bind fun literal rest => ?_
  dsimp only
  rcases literal.value? with _ | value | value
  · exact takes_none rest
  · exact takes_some _ rest
  · exact takes_some _ rest

/-! ## Writing -/

theorem numeric_toDigits (number : Nat) : Numeric (Nat.toDigits 10 number) :=
  .of_digits fun _ member => Nat.isDigit_of_mem_toDigits (by decide) (by decide) member

theorem numeric_zeros (count : Nat) : Numeric (List.replicate count '0') := by
  intro character member
  rw [List.eq_of_mem_replicate member]
  rfl

theorem numeric_integerChars (value : Int) : Numeric (integerChars value) := by
  cases value with
  | ofNat magnitude => exact numeric_toDigits magnitude
  | negSucc magnitude => exact .cons rfl (numeric_toDigits (magnitude + 1))

theorem integerChars_ne_nil (value : Int) : integerChars value ≠ [] := by
  cases value with
  | ofNat magnitude => exact Nat.toDigits_ne_nil
  | negSucc magnitude => exact List.cons_ne_nil _ _

theorem numeric_shortest (number : Double) : Numeric number.shortest.digits := by
  rw [Double.shortest]
  dsimp only
  cases found : (List.range 17).findSome? fun count =>
      (number.interval.gridPoint? (number.decimalExponent + 1 - ((count + 1 : Nat) : Int))).map
        (Digits.ofGridPoint · (number.decimalExponent + 1 - ((count + 1 : Nat) : Int))) with
  | none => exact .cons rfl .nil
  | some digits =>
      obtain ⟨count, _, written⟩ := List.exists_of_findSome?_eq_some found
      obtain ⟨point, _, rfl⟩ := Option.map_eq_some_iff.1 written
      refine (numeric_toDigits point).of_subset fun character member => ?_
      rw [Option.getD_some, Digits.ofGridPoint, List.mem_reverse] at member
      exact List.mem_reverse.1 ((List.dropWhile_sublist _).subset member)

section Layout

variable {number : Digits} (numeric : Numeric number.digits)

include numeric

theorem numeric_positional : Numeric number.positional := by
  unfold Digits.positional
  split
  · rename_i exponent _
    have whole := numeric.of_subset (List.take_subset (exponent + 1) number.digits)
    have fraction := numeric.of_subset (List.drop_subset (exponent + 1) number.digits)
    refine (whole.append (numeric_zeros _)).append (.cons rfl ?_)
    split
    · exact .cons rfl .nil
    · exact fraction
  · exact .cons rfl (.cons rfl ((numeric_zeros _).append numeric))

theorem numeric_scientific : Numeric number.scientific := by
  have fraction := numeric.of_subset (List.drop_subset 1 number.digits)
  refine (((numeric.of_subset (List.take_subset 1 number.digits)).append ?_).append
    (.cons rfl (.cons ?_ .nil))).append (numeric_toDigits _)
  · split
    · exact .nil
    · exact .cons rfl fraction
  · split
    · rfl
    · rfl

end Layout

theorem positional_ne_nil (number : Digits) : number.positional ≠ [] := by
  unfold Digits.positional
  split
  · exact List.append_ne_nil_of_right_ne_nil _ (List.cons_ne_nil _ _)
  · exact List.cons_ne_nil _ _

theorem scientific_ne_nil (number : Digits) : number.scientific ≠ [] :=
  List.append_ne_nil_of_right_ne_nil _ Nat.toDigits_ne_nil

/-- The text of a double consists of characters of numbers, in every layout. -/
theorem numeric_render (layout : NumberLayout) (number : Double) :
    Numeric (number.render layout) ∧ number.render layout ≠ [] := by
  have magnitude (digits : Digits) (numeric : Numeric digits.digits) (isPositional : Bool) :
      let written := if isPositional then digits.positional else digits.scientific
      Numeric written ∧ written ≠ [] := by
    cases isPositional with
    | true => exact ⟨numeric_positional numeric, positional_ne_nil digits⟩
    | false => exact ⟨numeric_scientific numeric, scientific_ne_nil digits⟩
  have digits : Numeric (if number.isZero then ⟨['0'], 0⟩ else number.shortest : Digits).digits := by
    split
    · exact .cons rfl .nil
    · exact numeric_shortest number
  have written := magnitude _ digits
  cases sign : number.negative with
  | false =>
      rw [Double.render, sign]
      exact written _
  | true =>
      rw [Double.render, sign]
      exact ⟨.cons rfl (written _).1, List.cons_ne_nil _ _⟩

/-! ## Where a number ends -/

/-- No number goes on with these characters. -/
def Stops (characters : List Char) : Prop :=
  ∀ character ∈ characters.head?, isNumeric character = false

/-- **There is one way to split off a number.** -/
theorem numeric_prefix_unique {first second rest behind : List Char} (numeric : Numeric first)
    (numeric' : Numeric second) (stops : Stops rest) (stops' : Stops behind)
    (same : first ++ rest = second ++ behind) : rest = behind := by
  -- If one of them were shorter, the other one would go on where it stops.
  induction first generalizing second with
  | nil =>
      cases second with
      | nil => exact same
      | cons character others =>
          have stop := stops character (by rw [List.nil_append] at same; rw [same]; rfl)
          rw [numeric' character List.mem_cons_self] at stop
          cases stop
  | cons character others ih =>
      cases second with
      | nil =>
          have stop := stops' character (by rw [List.nil_append] at same; rw [← same]; rfl)
          rw [numeric character List.mem_cons_self] at stop
          cases stop
      | cons other more =>
          exact ih (List.forall_mem_cons.1 numeric).2 (List.forall_mem_cons.1 numeric').2
            (List.cons.inj same).2

/-! ## Reading in front of what stops a number -/

section Prolonging

variable {α β : Type} {rest : List Char}

/-- Neither a fraction nor an exponent begins where a number stops. -/
theorem readFraction_of_stops {rest : List Char} (stops : Stops rest) :
    readFraction rest = some (none, rest) := by
  rw [readFraction]
  rintro inside rfl
  cases stops '.' rfl

theorem readExponent_of_stops {rest : List Char} (stops : Stops rest) :
    readExponent rest = some (none, rest) := by
  rw [readExponent]
  · rintro inside rfl
    cases stops 'e' rfl
  · rintro inside rfl
    cases stops 'E' rfl
  · rintro inside rfl
    cases stops 'e' rfl
  · rintro inside rfl
    cases stops 'E' rfl
  · rintro inside rfl
    cases stops 'e' rfl
  · rintro inside rfl
    cases stops 'E' rfl

/-- One reading gives what the other one gives, with more characters behind it. -/
def Prolongs (rest : List Char) (reading longer : Reading α) : Prop :=
  longer = reading.map (Prod.map id (· ++ rest))

theorem Prolongs.bind {first longer : Reading α} {next : α × List Char → Reading β}
    (here : Prolongs rest first longer)
    (later : ∀ value behind, Prolongs rest (next (value, behind)) (next (value, behind ++ rest))) :
    Prolongs rest (first.bind next) (longer.bind next) := by
  rw [Prolongs] at here
  subst here
  cases first with
  | none => rfl
  | some read => exact later read.1 read.2

/-- What begins with a character of numbers begins with it in front of what stops a number. -/
theorem Stops.not_continued (stops : Stops rest) {characters : List Char} {character : Char}
    (numeric : isNumeric character = true) (other : ∀ more, characters ≠ character :: more)
    (more : List Char) : characters ++ rest ≠ character :: more := by
  intro same
  cases characters with
  | nil =>
      rw [List.nil_append] at same
      subst same
      cases numeric.symm.trans (stops character rfl)
  | cons first behind => exact other behind (by cases same; rfl)

theorem readDigits_append (stops : Stops rest) (characters : List Char) :
    readDigits (characters ++ rest) = Prod.map id (· ++ rest) (readDigits characters) := by
  induction characters with
  | nil =>
      cases rest with
      | nil => rfl
      | cons character rest =>
          have stop := stops character rfl
          simp only [isNumeric, Bool.or_eq_false_iff] at stop
          simp [readDigits, stop]
  | cons character characters ih =>
      simp only [readDigits, Prod.map, id, Prod.mk.injEq] at ih
      simp only [readDigits, List.cons_append, List.takeWhile_cons, List.dropWhile_cons]
      split
      · exact Prod.ext (congrArg (_ :: ·) ih.1) ih.2
      · rfl

theorem readSome_append (stops : Stops rest) (characters : List Char) (make : List Nat → α) :
    Prolongs rest
      (match readDigits characters with
        | ([], _) => none
        | (digits, behind) => some (make digits, behind))
      (match readDigits (characters ++ rest) with
        | ([], _) => none
        | (digits, behind) => some (make digits, behind)) := by
  rw [readDigits_append stops]
  rcases readDigits characters with ⟨_ | ⟨first, more⟩, behind⟩
  · rfl
  · rfl

theorem readFraction_append (stops : Stops rest) (characters : List Char) :
    Prolongs rest (readFraction characters) (readFraction (characters ++ rest)) := by
  cases characters with
  | nil => exact readFraction_of_stops stops
  | cons character characters =>
      by_cases point : character = '.'
      · subst point
        exact readSome_append stops _ some
      · have other (behind : List Char) :
            readFraction (character :: behind) = some (none, character :: behind) := by
          rw [readFraction]
          rintro inside same
          exact point (List.cons.inj same).1
        rw [List.cons_append, other, other]
        rfl

/-- Behind the letter of an exponent its digits follow, unless there is a sign. -/
theorem readExponent_unsigned {letter : Char} {behind : List Char}
    (mark : letter = 'e' ∨ letter = 'E') (minus : ∀ more, behind ≠ '-' :: more)
    (plus : ∀ more, behind ≠ '+' :: more) :
    readExponent (letter :: behind) =
      match readDigits behind with
      | ([], _) => none
      | (digits, behind) => some (some (false, digits), behind) := by
  rcases mark with rfl | rfl
  all_goals
    rw [readExponent]
    all_goals first | rfl | exact minus | exact plus

theorem readExponent_append (stops : Stops rest) (characters : List Char) :
    Prolongs rest (readExponent characters) (readExponent (characters ++ rest)) := by
  cases characters with
  | nil => exact readExponent_of_stops stops
  | cons letter behind =>
      by_cases mark : letter = 'e' ∨ letter = 'E'
      · have unsigned (minus : ∀ more, behind ≠ '-' :: more) (plus : ∀ more, behind ≠ '+' :: more) :
            Prolongs rest (readExponent (letter :: behind))
              (readExponent (letter :: (behind ++ rest))) := by
          rw [readExponent_unsigned mark minus plus,
            readExponent_unsigned mark (stops.not_continued rfl minus)
              (stops.not_continued rfl plus)]
          exact readSome_append stops _ fun digits => some (false, digits)
        have signed (downwards : Bool) (more : List Char) :=
          readSome_append stops more fun digits => some (downwards, digits)
        by_cases minus : ∃ more, behind = '-' :: more
        · obtain ⟨more, rfl⟩ := minus
          rcases mark with rfl | rfl
          · exact signed true more
          · exact signed true more
        · by_cases plus : ∃ more, behind = '+' :: more
          · obtain ⟨more, rfl⟩ := plus
            rcases mark with rfl | rfl
            · exact signed false more
            · exact signed false more
          · exact unsigned (not_exists.1 minus) (not_exists.1 plus)
      · have other (behind : List Char) :
            readExponent (letter :: behind) = some (none, letter :: behind) := by
          rw [readExponent]
          all_goals
            rintro inside same
            cases same
            simp at mark
        rw [List.cons_append, other, other]
        rfl

theorem readUnsigned_append (stops : Stops rest) (negative : Bool) (characters : List Char) :
    Prolongs rest (readUnsigned negative characters)
      (readUnsigned negative (characters ++ rest)) := by
  rw [readUnsigned, readUnsigned, readDigits_append stops]
  obtain ⟨whole, behind⟩ := readDigits characters
  have parts (whole : List Nat) :
      Prolongs rest (readParts negative whole behind) (readParts negative whole (behind ++ rest)) := by
    refine (readFraction_append stops behind).bind fun fraction behind => ?_
    exact (readExponent_append stops behind).bind fun exponent behind => rfl
  match whole with
  | [] | 0 :: _ :: _ => rfl
  | [0] => exact parts [0]
  | (digit + 1) :: more => exact parts ((digit + 1) :: more)

theorem readLiteral_append (stops : Stops rest) (characters : List Char) :
    Prolongs rest (readLiteral characters) (readLiteral (characters ++ rest)) := by
  by_cases minus : ∃ more, characters = '-' :: more
  · obtain ⟨more, rfl⟩ := minus
    exact readUnsigned_append stops true more
  · have unsigned := not_exists.1 minus
    rw [readLiteral_unsigned unsigned, readLiteral_unsigned (stops.not_continued rfl unsigned)]
    exact readUnsigned_append stops false characters

/-- **A number is read in front of what stops it as it is read alone.** -/
theorem readNumber_append (stops : Stops rest) (characters : List Char) :
    Prolongs rest (readNumber characters) (readNumber (characters ++ rest)) := by
  refine (readLiteral_append stops characters).bind fun literal behind => ?_
  dsimp only
  rcases literal.value? with _ | value | value
  · rfl
  · rfl
  · rfl

end Prolonging

end ScopedStore.Json
