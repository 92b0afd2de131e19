set_option autoImplicit false

/-!
# The text behind a written string

Writing a string escapes quotes, backslashes and control characters, and nothing else. Reading
resolves every escape; a pair of escaped surrogates is one character, and a surrogate without its
partner names none, so that the string has no text.
-/

namespace VariablePay.Json.Quoted

def hexChar (digit : Nat) : Char :=
  if digit < 10 then Char.ofNat (48 + digit) else Char.ofNat (87 + digit)

/-- The value of a hexadecimal digit of either case. -/
def hexValue? (char : Char) : Option Nat :=
  if '0' ≤ char ∧ char ≤ '9' then some (char.toNat - 48)
  else if 'a' ≤ char ∧ char ≤ 'f' then some (char.toNat - 87)
  else if 'A' ≤ char ∧ char ≤ 'F' then some (char.toNat - 55)
  else none

def hexValue4? (first second third fourth : Char) : Option Nat := do
  let a ← hexValue? first
  let b ← hexValue? second
  let c ← hexValue? third
  let d ← hexValue? fourth
  return ((a * 16 + b) * 16 + c) * 16 + d

/-- A character as it stands between quotes. -/
def escapeChar (char : Char) : List Char :=
  if char = '"' then ['\\', '"']
  else if char = '\\' then ['\\', '\\']
  else if char = '\x08' then ['\\', 'b']
  else if char = '\t' then ['\\', 't']
  else if char = '\n' then ['\\', 'n']
  else if char = '\x0c' then ['\\', 'f']
  else if char = '\r' then ['\\', 'r']
  else if char.toNat < 32 then
    ['\\', 'u', '0', '0', hexChar (char.toNat / 16), hexChar (char.toNat % 16)]
  else [char]

def escape (text : List Char) : List Char := text.flatMap escapeChar

/-- The character that a backslash and a letter stand for. -/
def shortEscape? (letter : Char) : Option Char :=
  if letter = '"' then some '"'
  else if letter = '\\' then some '\\'
  else if letter = '/' then some '/'
  else if letter = 'b' then some '\x08'
  else if letter = 'f' then some '\x0c'
  else if letter = 'n' then some '\n'
  else if letter = 'r' then some '\r'
  else if letter = 't' then some '\t'
  else none

def ofSurrogates (high low : Nat) : Char :=
  Char.ofNat (0x10000 + (high - 0xD800) * 0x400 + (low - 0xDC00))

/-- The characters of a written string. -/
def unescape? : List Char → Option (List Char)
  | [] => some []
  | '\\' :: 'u' :: a :: b :: c :: d :: '\\' :: 'u' :: e :: f :: g :: h :: rest =>
      match hexValue4? a b c d with
      | none => none
      | some unit =>
          if 0xD800 ≤ unit ∧ unit < 0xDC00 then
            match hexValue4? e f g h with
            | none => none
            | some low =>
                if 0xDC00 ≤ low ∧ low < 0xE000 then
                  (unescape? rest).map (ofSurrogates unit low :: ·)
                else none
          else if 0xDC00 ≤ unit ∧ unit < 0xE000 then none
          else
            (unescape? ('\\' :: 'u' :: e :: f :: g :: h :: rest)).map (Char.ofNat unit :: ·)
  | '\\' :: 'u' :: a :: b :: c :: d :: rest =>
      match hexValue4? a b c d with
      | none => none
      | some unit =>
          if 0xD800 ≤ unit ∧ unit < 0xE000 then none
          else (unescape? rest).map (Char.ofNat unit :: ·)
  | '\\' :: letter :: rest =>
      match shortEscape? letter with
      | none => none
      | some char => (unescape? rest).map (char :: ·)
  | char :: rest => if char = '\\' then none else (unescape? rest).map (char :: ·)

/-- The rest of a text after its first quote that is not escaped, and what stands before it. A
control character or an escape of unknown form before that quote is refused. -/
def read? : List Char → Option (List Char × List Char)
  | [] => none
  | '"' :: rest => some ([], rest)
  | '\\' :: 'u' :: a :: b :: c :: d :: rest =>
      match hexValue4? a b c d with
      | none => none
      | some _ =>
          (read? rest).map fun split => ('\\' :: 'u' :: a :: b :: c :: d :: split.1, split.2)
  | '\\' :: letter :: rest =>
      match shortEscape? letter with
      | none => none
      | some _ => (read? rest).map fun split => ('\\' :: letter :: split.1, split.2)
  | char :: rest =>
      if char = '\\' ∨ char.toNat < 32 then none
      else (read? rest).map fun split => (char :: split.1, split.2)

end VariablePay.Json.Quoted
