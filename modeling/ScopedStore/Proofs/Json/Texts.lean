import ScopedStore.Json.Parser
import ScopedStore.Json.Printer

/-!
# Texts are read back as they were written

A text is escaped character by character, and the reader undoes that character by character: in
front of whatever follows, the form of a character is read as that character
(`readText_escaped`). So a text in quotes is read back whole, and the reader stops right behind
its closing quote (`readText_chars`).
-/

set_option autoImplicit false

namespace ScopedStore.Json

/-- The four digits of a control are read as its code. -/
theorem hexUnit?_fourHexDigits {code : Nat} (control : code < 0x20) :
    ∃ a b c d, fourHexDigits code = [a, b, c, d] ∧ hexUnit? a b c d = some code := by
  have all : ∀ code < 0x20,
      let digit (place : Nat) := (fourHexDigits code).getD place '0'
      fourHexDigits code = [digit 0, digit 1, digit 2, digit 3] ∧
        hexUnit? (digit 0) (digit 1) (digit 2) (digit 3) = some code := by
    decide +kernel
  exact ⟨_, _, _, _, all code control⟩

/-- The form of a control without a letter of its own is read as that control. -/
theorem readText_control {character : Char} (control : character.toNat < 0x20)
    (gathered rest : List Char) :
    readText gathered ('\\' :: 'u' :: fourHexDigits character.toNat ++ rest) =
      readText (character :: gathered) rest := by
  obtain ⟨a, b, c, d, digits, unit⟩ := hexUnit?_fourHexDigits control
  have noHigh : ¬0xD800 ≤ character.toNat := by omega
  have noLow : ¬0xDC00 ≤ character.toNat := by omega
  rw [digits]
  simp only [List.cons_append, List.nil_append]
  rw [readText]
  simp [unit, noHigh, noLow]

/-- **The form of a character is read as that character.** -/
theorem readText_escaped (character : Char) (gathered rest : List Char) :
    readText gathered (escaped character ++ rest) = readText (character :: gathered) rest := by
  unfold escaped
  split
  · simp [readText, unescape?]
  · simp [readText, unescape?]
  · simp [readText, unescape?]
  · simp [readText, unescape?]
  · simp [readText, unescape?]
  · simp [readText, unescape?]
  · simp [readText, unescape?]
  · rename_i quote backslash _ _ _ _ _
    split
    · rename_i control
      exact readText_control control gathered rest
    · rename_i noControl
      rw [List.singleton_append, readText]
      · have printable : (decide (character.toNat < 0x20) || character == '\\') = false := by
          rw [decide_eq_false noControl, Bool.false_or]
          exact beq_eq_false_iff_ne.2 backslash
        rw [printable]
        rfl
      · exact quote
      · exact fun _ _ _ _ _ equal _ => backslash equal
      · exact fun _ _ equal _ => backslash equal

/-- **A text is read back**, up to its closing quote. -/
theorem readText_chars (characters gathered rest : List Char) :
    readText gathered (characters.flatMap escaped ++ '"' :: rest) =
      some (String.ofList (gathered.reverse ++ characters), rest) := by
  induction characters generalizing gathered with
  | nil => rw [List.flatMap_nil, List.nil_append, readText, List.append_nil]
  | cons character others ih =>
      rw [List.flatMap_cons, List.append_assoc, readText_escaped, ih, List.reverse_cons,
        List.append_assoc, List.singleton_append]

end ScopedStore.Json
