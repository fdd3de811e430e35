set_option autoImplicit false

namespace PageBuilder.Text

def bytes (s : String) : List UInt8 := s.toUTF8.data.toList

def checksumBit (remainder : UInt32) : UInt32 :=
  if remainder &&& 1 = 1 then (remainder >>> 1) ^^^ 0xEDB88320 else remainder >>> 1

def checksumByte (remainder : UInt32) (byte : UInt8) : UInt32 :=
  (List.range 8).foldl (fun r _ => checksumBit r) (remainder ^^^ byte.toUInt32)

def checksum (s : String) : UInt32 := (bytes s).foldl checksumByte 0xFFFFFFFF ^^^ 0xFFFFFFFF

def upperHexDigit (n : Nat) : Char := if n < 10 then Char.ofNat (48 + n) else Char.ofNat (55 + n)

/-- Letters, digits and `-` `_` `.` `~` stand for themselves. -/
def isUnreserved (byte : UInt8) : Bool :=
  let c := Char.ofNat byte.toNat
  c.isAlphanum || c = '-' || c = '_' || c = '.' || c = '~'

def percentEncodeByte (byte : UInt8) : List Char :=
  if isUnreserved byte then [Char.ofNat byte.toNat]
  else ['%', upperHexDigit (byte.toNat / 16), upperHexDigit (byte.toNat % 16)]

def percentEncode (s : String) : String := String.ofList ((bytes s).flatMap percentEncodeByte)

end PageBuilder.Text
