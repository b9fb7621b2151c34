import GuardedRecords.Json.Reader
import GuardedRecords.Text.CodeUnits

namespace GuardedRecords

/-- The encoding of a JSON text. -/
inductive JsonEncoding
  | utf8
  | utf16 (bigEndian : Bool)
  | utf32 (bigEndian : Bool)
  deriving DecidableEq

/-- The encoding that the zero bytes tell: the first two characters of a JSON text are ASCII. -/
def encodingByZeros : Bytes → JsonEncoding
  | 0 :: 0 :: _ :: _ :: _ => .utf32 true
  | 0 :: _ :: _ :: _ :: _ => .utf16 true
  | _ :: 0 :: 0 :: 0 :: _ => .utf32 false
  | _ :: 0 :: _ :: _ :: _ => .utf16 false
  | [0, _] => .utf16 true
  | [_, 0] => .utf16 false
  | _ => .utf8

/-- The encoding of a JSON text, and the bytes after its mark if there is one. -/
def detectEncoding (bytes : Bytes) : JsonEncoding × Bytes :=
  match bytes with
  | 0x00 :: 0x00 :: 0xFE :: 0xFF :: rest => (.utf32 true, rest)
  | 0xFF :: 0xFE :: 0x00 :: 0x00 :: rest => (.utf32 false, rest)
  | 0xFE :: 0xFF :: rest => (.utf16 true, rest)
  | 0xFF :: 0xFE :: rest => (.utf16 false, rest)
  | 0xEF :: 0xBB :: 0xBF :: rest => (.utf8, rest)
  | _ => (encodingByZeros bytes, bytes)

/-- The characters of a JSON text. -/
def decodeJson? (bytes : Bytes) : Option (List Char) :=
  match detectEncoding bytes with
  | (.utf8, rest) => (decodeUtf8 rest).toOption
  | (.utf16 bigEndian, rest) => decodeUtf16? bigEndian rest
  | (.utf32 bigEndian, rest) => decodeUtf32? bigEndian rest

end GuardedRecords
