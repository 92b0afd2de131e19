import VariablePay.Json.Quoted

set_option autoImplicit false

/-!
# Batch ids

A batch id is written in 32 hexadecimal digits, in groups of 8, 4, 4, 4 and 12. All of it is random
but six bits: the first digit of the third group is `4`, and the fourth group starts with a digit
from `8` to `b`.
-/

namespace VariablePay.BatchId

def digitsOf (byte : UInt8) : List Char :=
  [Json.Quoted.hexChar (byte.toNat / 16), Json.Quoted.hexChar (byte.toNat % 16)]

/-- The bytes with the fixed bits set. -/
def marked (bytes : List UInt8) : List UInt8 :=
  bytes.mapIdx fun place byte =>
    if place = 6 then (byte &&& 0x0f) ||| 0x40
    else if place = 8 then (byte &&& 0x3f) ||| 0x80
    else byte

/-- The digits of some bytes from a position on. -/
def groupOf (bytes : List UInt8) (start size : Nat) : String :=
  String.ofList (((bytes.drop start).take size).flatMap digitsOf)

def ofBytes (bytes : List UInt8) : String :=
  let fixed := marked bytes
  "-".intercalate
    [groupOf fixed 0 4, groupOf fixed 4 2, groupOf fixed 6 2, groupOf fixed 8 2, groupOf fixed 10 6]

end VariablePay.BatchId
