import VariablePay.Json.Quoted

set_option autoImplicit false

/-!
# Names as bytes

Files have names of bytes, most of which are texts. In a reference a byte may stand as `%` and two
hexadecimal digits.
-/

namespace VariablePay

abbrev Bytes := List UInt8

namespace Bytes

def ofText (text : String) : Bytes := text.toList.flatMap String.utf8EncodeChar

def text? (bytes : Bytes) : Option String := String.fromUTF8? ⟨bytes.toArray⟩

/-- The value of a byte that writes a hexadecimal digit. -/
def hexValue? (byte : UInt8) : Option Nat := Json.Quoted.hexValue? (Char.ofNat byte.toNat)

def digitValue? (byte : UInt8) : Option Nat := (hexValue? byte).filter (· < 10)

def leadingNumber (digit? : UInt8 → Option Nat) (base start : Nat) : Bytes → Nat
  | [] => start
  | byte :: rest =>
      match digit? byte with
      | some digit => leadingNumber digit? base (base * start + digit) rest
      | none => start

/-- The parts between separators; there is one more of them than of separators. -/
def parts (separator : UInt8) : Bytes → List Bytes
  | [] => [[]]
  | byte :: rest =>
      if byte = separator then [] :: parts separator rest
      else
        match parts separator rest with
        | part :: others => (byte :: part) :: others
        | [] => [[byte]]

/-- What stands before the first separator, or everything. -/
def before (separator : UInt8) (bytes : Bytes) : Bytes := bytes.takeWhile (· ≠ separator)

/-- What stands after the first separator, or nothing. -/
def after (separator : UInt8) (bytes : Bytes) : Bytes := (bytes.dropWhile (· ≠ separator)).drop 1

/-- The byte that a mark and two digits stand for. -/
def escaped? (mark high low : UInt8) : Option UInt8 := do
  guard (mark = '%'.toUInt8)
  return UInt8.ofNat (16 * (← hexValue? high) + (← hexValue? low))

/-- The bytes of a part of a reference. The byte zero ends the part. -/
def unescaped : Bytes → Bytes
  | mark :: high :: low :: rest =>
      match escaped? mark high low with
      | some byte => if byte = 0 then [] else byte :: unescaped rest
      | none => mark :: unescaped (high :: low :: rest)
  | bytes => bytes

end Bytes

end VariablePay
