import Mathlib.Data.List.Basic

/-! Numbers of any size as bytes, seven bits in each, and byte strings behind
their length. -/

namespace RuntimeBridge.Library

namespace Varint

/-- The low bits come first; every byte but the last has its top bit set. -/
def encode (value : Nat) : List UInt8 :=
  if value < 128 then
    [UInt8.ofNat value]
  else
    UInt8.ofNat (value % 128 + 128) :: encode (value / 128)

def decode : List UInt8 → Option (Nat × List UInt8)
  | [] => none
  | byte :: rest =>
      if byte.toNat < 128 then
        some (byte.toNat, rest)
      else
        (decode rest).map fun high => (byte.toNat - 128 + 128 * high.1, high.2)

theorem decode_encode (value : Nat) (rest : List UInt8) :
    decode (encode value ++ rest) = some (value, rest) := by
  induction value using encode.induct with
  | case1 value hsmall =>
      have hbyte : (UInt8.ofNat value).toNat = value := by
        rw [UInt8.toNat_ofNat', Nat.mod_eq_of_lt (by omega)]
      rw [encode, if_pos hsmall, List.singleton_append, decode, hbyte,
        if_pos hsmall]
  | case2 value hlarge ih =>
      have hbyte : (UInt8.ofNat (value % 128 + 128)).toNat =
          value % 128 + 128 := by
        rw [UInt8.toNat_ofNat', Nat.mod_eq_of_lt (by omega)]
      rw [encode, if_neg hlarge, List.cons_append, decode, hbyte,
        if_neg (by omega), ih, Option.map_some, Nat.add_sub_cancel,
        Nat.mod_add_div]

end Varint

def delimited (bytes : List UInt8) : List UInt8 :=
  Varint.encode bytes.length ++ bytes

def takeDelimited (data : List UInt8) : Option (List UInt8 × List UInt8) :=
  (Varint.decode data).bind fun length =>
    if length.1 ≤ length.2.length then
      some (length.2.splitAt length.1)
    else
      none

theorem takeDelimited_delimited (bytes rest : List UInt8) :
    takeDelimited (delimited bytes ++ rest) = some (bytes, rest) := by
  rw [takeDelimited, delimited, List.append_assoc, Varint.decode_encode,
    Option.bind_some, if_pos (by simp), List.splitAt_eq, List.take_left,
    List.drop_left]

end RuntimeBridge.Library
