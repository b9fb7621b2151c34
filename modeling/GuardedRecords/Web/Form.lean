import GuardedRecords.Json.Reader
import GuardedRecords.Query.Spec
import GuardedRecords.Text.Utf8

namespace GuardedRecords

/-- The bytes that a text with percent escapes stands for. A percent sign without two digits
behind it stands for itself. -/
def percentDecode : List Char → Bytes
  | '%' :: a :: b :: rest =>
    match hexNumber? [a, b] with
    | some n => n.toUInt8 :: percentDecode rest
    | none => 37 :: percentDecode (a :: b :: rest)
  | c :: rest => c.toNat.toUInt8 :: percentDecode rest
  | [] => []

/-- The text of a form field. Each run of ASCII characters is taken as UTF-8 once its escapes
are resolved; the characters between the runs stay as they are. -/
def formText (ascii : List Char) : List Char → List Char
  | [] => decodeUtf8Leniently (percentDecode ascii)
  | c :: rest =>
    if c.toNat < 128 then formText (ascii ++ [if c = '+' then ' ' else c]) rest
    else decodeUtf8Leniently (percentDecode ascii) ++ c :: formText [] rest

/-- The name and the value of a form field; without an equals sign the value is empty. -/
def formField (field : List Char) : String × String :=
  let (name, value) := cut '=' field
  (String.ofList (formText [] name), String.ofList (formText [] value))

/-- The parameters of a query string. A repeated name keeps its last value. -/
def Params.ofQuery (query : Bytes) : Params :=
  let chars := query.map fun b => Char.ofNat b.toNat
  Table.ofPairs (((pieces '&' chars).filter fun field => !field.isEmpty).map formField)

end GuardedRecords
