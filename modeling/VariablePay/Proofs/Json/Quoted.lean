import VariablePay.Json.Quoted

set_option autoImplicit false

/-!
# Escaped texts read back

The characters that a text is escaped to end where their closing quote stands, and stand for the
text.
-/

namespace VariablePay.Json.Quoted

/-- Whether the characters of a string end where their closing quote stands. -/
def Legible (written : List Char) : Prop :=
  ∀ rest, read? (written ++ '"' :: rest) = some (written, rest)

theorem hexValue?_hexChar {digit : Nat} (small : digit < 16) :
    hexValue? (hexChar digit) = some digit := by
  have all : ∀ digit < 16, hexValue? (hexChar digit) = some digit := by decide
  exact all digit small

private theorem hexValue4?_byte {byte : Nat} (small : byte < 256) :
    hexValue4? '0' '0' (hexChar (byte / 16)) (hexChar (byte % 16)) = some byte := by
  have zero : hexValue? '0' = some 0 := by decide
  unfold hexValue4?
  rw [zero, hexValue?_hexChar (show byte / 16 < 16 by omega),
    hexValue?_hexChar (show byte % 16 < 16 by omega)]
  change some (((0 * 16 + 0) * 16 + byte / 16) * 16 + byte % 16) = some byte
  congr 1
  omega

/-- A character is escaped by a letter, as a byte, or not at all. -/
private theorem escapeChar_cases (char : Char) :
    (∃ letter, letter ≠ 'u' ∧ shortEscape? letter = some char ∧
        escapeChar char = ['\\', letter]) ∨
      (char.toNat < 32 ∧ escapeChar char =
        ['\\', 'u', '0', '0', hexChar (char.toNat / 16), hexChar (char.toNat % 16)]) ∨
      (char ≠ '"' ∧ char ≠ '\\' ∧ ¬char.toNat < 32 ∧ escapeChar char = [char]) := by
  by_cases quote : char = '"'
  · exact .inl ⟨'"', by simp [quote, escapeChar, shortEscape?]⟩
  by_cases backslash : char = '\\'
  · exact .inl ⟨'\\', by simp [backslash, escapeChar, shortEscape?]⟩
  by_cases backspace : char = '\x08'
  · exact .inl ⟨'b', by simp [backspace, escapeChar, shortEscape?]⟩
  by_cases tab : char = '\t'
  · exact .inl ⟨'t', by simp [tab, escapeChar, shortEscape?]⟩
  by_cases newline : char = '\n'
  · exact .inl ⟨'n', by simp [newline, escapeChar, shortEscape?]⟩
  by_cases formFeed : char = '\x0c'
  · exact .inl ⟨'f', by simp [formFeed, escapeChar, shortEscape?]⟩
  by_cases carriage : char = '\r'
  · exact .inl ⟨'r', by simp [carriage, escapeChar, shortEscape?]⟩
  right
  unfold escapeChar
  simp only [quote, backslash, backspace, tab, newline, formFeed, carriage, if_false]
  by_cases control : char.toNat < 32
  · exact .inl ⟨control, if_pos control⟩
  · exact .inr ⟨quote, backslash, control, if_neg control⟩

private theorem read?_escapeChar (char : Char) (rest : List Char) :
    read? (escapeChar char ++ rest) =
      (read? rest).map fun split => (escapeChar char ++ split.1, split.2) := by
  obtain ⟨letter, plain, stands, escaped⟩ | ⟨control, escaped⟩ |
    ⟨quote, backslash, control, escaped⟩ := escapeChar_cases char
  · rw [escaped]
    simp [read?, stands, plain]
  · rw [escaped]
    simp [read?, hexValue4?_byte (show char.toNat < 256 by omega)]
  · rw [escaped, List.singleton_append, read?]
    · simp [backslash, control]
    · exact quote
    · intro _ _ _ _ _ same
      exact absurd same backslash
    · intro _ _ same
      exact absurd same backslash

/-- A text is escaped to characters that end where their closing quote stands. -/
theorem legible_escape (text : List Char) : Legible (escape text) := by
  intro rest
  induction text with
  | nil => rfl
  | cons char text ih =>
      change read? ((escapeChar char ++ escape text) ++ '"' :: rest) = _
      rw [List.append_assoc, read?_escapeChar, ih]
      rfl

/-- An escaped byte stands for itself, also before another escape. -/
private theorem unescape?_byte {byte : Nat} (small : byte < 256) (rest : List Char) :
    unescape? ('\\' :: 'u' :: '0' :: '0' :: hexChar (byte / 16) :: hexChar (byte % 16) :: rest) =
      (unescape? rest).map (Char.ofNat byte :: ·) := by
  have unit := hexValue4?_byte small
  rw [unescape?.eq_def]
  split
  · rename_i same
    cases same
  · rename_i same
    cases same
    rw [unit]
    simp only
    rw [if_neg (by omega), if_neg (by omega)]
  · rename_i same
    cases same
    rw [unit]
    simp only
    rw [if_neg (by omega)]
  · rename_i other same
    cases same
    exact absurd rfl (other _ _ _ _ _ rfl)
  · rename_i other same
    cases same
    exact (other _ _ rfl rfl).elim

private theorem unescape?_escapeChar (char : Char) (rest : List Char) :
    unescape? (escapeChar char ++ rest) = (unescape? rest).map (char :: ·) := by
  obtain ⟨letter, plain, stands, escaped⟩ | ⟨control, escaped⟩ |
    ⟨quote, backslash, control, escaped⟩ := escapeChar_cases char
  · rw [escaped]
    simp [unescape?, stands, plain]
  · have byte := unescape?_byte (show char.toNat < 256 by omega) rest
    rw [Char.ofNat_toNat] at byte
    rw [escaped]
    exact byte
  · rw [escaped, List.singleton_append, unescape?, if_neg backslash]
    all_goals
      intros
      contradiction

/-- The characters that a text is escaped to stand for the text. -/
@[simp]
theorem unescape?_escape (text : List Char) : unescape? (escape text) = some text := by
  induction text with
  | nil => rfl
  | cons char text ih =>
      change unescape? (escapeChar char ++ escape text) = _
      rw [unescape?_escapeChar, ih]
      rfl

end VariablePay.Json.Quoted
