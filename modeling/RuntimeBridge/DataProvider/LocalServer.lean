import RuntimeBridge.DataProvider.Block

/-! The blob server of a data provider: what it looks up for a message, and the
message that it answers with. -/

namespace RuntimeBridge.DataProvider

/-- `writeBigInt64BE` of the checksum. -/
def crc32cBuffer (crc32c : Bytes → UInt32) (input : Bytes) : Bytes :=
  (List.range 8).map fun place =>
    UInt8.ofNat ((crc32c input).toNat >>> (8 * (7 - place)))

theorem crc32cBuffer_length (crc32c : Bytes → UInt32) (input : Bytes) :
    (crc32cBuffer crc32c input).length = 8 := by
  rw [crc32cBuffer, List.length_map, List.length_range]

/-- Where the decoder stands in the bytes of one character. -/
structure Utf8Decoder where
  codePoint : Nat
  needed : Nat
  lower : Nat
  upper : Nat

namespace Utf8Decoder

def start : Utf8Decoder where
  codePoint := 0
  needed := 0
  lower := 0x80
  upper := 0xBF

/-- The first byte of a character. -/
def lead (byte : Nat) : Utf8Decoder × List Char :=
  if byte < 0x80 then
    (start, [Char.ofNat byte])
  else if 0xC2 ≤ byte ∧ byte ≤ 0xDF then
    ({ start with codePoint := byte - 0xC0, needed := 1 }, [])
  else if 0xE0 ≤ byte ∧ byte ≤ 0xEF then
    ({ codePoint := byte - 0xE0
       needed := 2
       lower := if byte = 0xE0 then 0xA0 else 0x80
       upper := if byte = 0xED then 0x9F else 0xBF }, [])
  else if 0xF0 ≤ byte ∧ byte ≤ 0xF4 then
    ({ codePoint := byte - 0xF0
       needed := 3
       lower := if byte = 0xF0 then 0x90 else 0x80
       upper := if byte = 0xF4 then 0x8F else 0xBF }, [])
  else
    (start, ['\uFFFD'])

/-- A byte that does not continue a character begins the next one. -/
def next (decoder : Utf8Decoder) (byte : Nat) : Utf8Decoder × List Char :=
  if decoder.needed = 0 then
    lead byte
  else if decoder.lower ≤ byte ∧ byte ≤ decoder.upper then
    let codePoint := decoder.codePoint * 64 + (byte - 0x80)
    if decoder.needed = 1 then
      (start, [Char.ofNat codePoint])
    else
      ({ start with codePoint, needed := decoder.needed - 1 }, [])
  else
    let (decoder, characters) := lead byte
    (decoder, '\uFFFD' :: characters)

def decode (decoder : Utf8Decoder) : Bytes → List Char
  | [] => if decoder.needed = 0 then [] else ['\uFFFD']
  | byte :: rest =>
      let (decoder, characters) := decoder.next byte.toNat
      characters ++ decoder.decode rest

end Utf8Decoder

/-- `toString('utf8')`, which replaces what is not UTF-8. -/
def decodeUtf8 (bytes : Bytes) : String :=
  match String.fromUTF8? (ByteArray.mk bytes.toArray) with
  | some text => text
  | none => String.ofList (Utf8Decoder.start.decode bytes)

/-- `Buffer.from(text, 'utf-8')` -/
def encodeUtf8 (text : String) : Bytes :=
  text.toUTF8.data.toList

theorem decodeUtf8_encodeUtf8 (text : String) :
    decodeUtf8 (encodeUtf8 text) = text := by
  have hbytes : ByteArray.mk (encodeUtf8 text).toArray = text.toUTF8 := by
    rw [encodeUtf8, Array.toArray_toList]
  have hvalid : text.toUTF8.IsValidUTF8 := text.isValidUTF8
  rw [decodeUtf8, hbytes, String.fromUTF8?, dif_pos hvalid]
  rfl

theorem encodeUtf8_ne_nil {text : String} (h : text ≠ "") :
    encodeUtf8 text ≠ [] := by
  intro hnil
  apply h
  rw [← decodeUtf8_encodeUtf8 text, hnil]
  rfl

/-- White space and line terminators, which `trim` removes. -/
def isWhiteSpace (character : Char) : Bool :=
  let code := character.toNat
  (0x9 ≤ code && code ≤ 0xD) || code == 0x20 || code == 0xA0 ||
    code == 0x1680 || (0x2000 ≤ code && code ≤ 0x200A) || code == 0x2028 ||
    code == 0x2029 || code == 0x202F || code == 0x205F || code == 0x3000 ||
    code == 0xFEFF

def trim (text : String) : String :=
  String.ofList (((text.toList.dropWhile isWhiteSpace).reverse.dropWhile
    isWhiteSpace).reverse)

/-- What comes of `db.get`. -/
inductive DbAnswer where
  | found (ret : Bytes)
  | notFound
  | failed (e : String)
  deriving DecidableEq

/-- What a caller of `get` is to have for it: nothing for an empty value. -/
def DbAnswer.buffer : DbAnswer → Option Bytes
  | .found [] => none
  | .found ret => some ret
  | .notFound => none
  | .failed _ => none

/-- A message that waits for the database. -/
structure Lookup where
  id : Bytes
  key : String
  deriving DecidableEq

/-- The handler of a message, up to the database; a short one is ignored. -/
def localServer (data : Bytes) : Option Lookup :=
  if data.length < 9 then
    none
  else
    some { id := data.take 8, key := trim (decodeUtf8 (data.drop 8)) }

/-- The message that the server writes. -/
def Lookup.response (crc32c : Bytes → UInt32) (lookup : Lookup) :
    DbAnswer → Bytes
  | .found ret =>
      if ret.length = 0 then lookup.id
      else lookup.id ++ crc32cBuffer crc32c ret ++ ret
  | .notFound => lookup.id
  | .failed _ => lookup.id

theorem Lookup.response_found (crc32c : Bytes → UInt32) (lookup : Lookup)
    (byte : UInt8) (rest : Bytes) :
    lookup.response crc32c (.found (byte :: rest)) =
      lookup.id ++ crc32cBuffer crc32c (byte :: rest) ++ byte :: rest := rfl

theorem localServer_message {id : Bytes} {key : String} (hid : id.length = 8)
    (hkey : key ≠ "") (htrim : trim key = key) :
    localServer (id ++ encodeUtf8 key) = some { id, key } := by
  have hlength : 0 < (encodeUtf8 key).length :=
    List.length_pos_iff.mpr (encodeUtf8_ne_nil hkey)
  rw [localServer, if_neg, List.take_left' hid, List.drop_left' hid,
    decodeUtf8_encodeUtf8, htrim]
  rw [List.length_append]
  omega

end RuntimeBridge.DataProvider
