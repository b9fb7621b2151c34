import GuardedRecords.Text.Quoted
import GuardedRecords.Text.Split
import GuardedRecords.Text.Utf8

namespace GuardedRecords

/-- Why there is nothing to read under a path. -/
inductive AccessFault
  | missing
  | notADirectory
  | isDirectory
  | nameTooLong
  | nullCharacter
  deriving DecidableEq

/-- What is reported when a path cannot be read. -/
def AccessFault.message (path : String) : AccessFault → String
  | .missing => "[Errno 2] No such file or directory: " ++ quoted path
  | .notADirectory => "[Errno 20] Not a directory: " ++ quoted path
  | .isDirectory => "[Errno 21] Is a directory: " ++ quoted path
  | .nameTooLong => "[Errno 36] File name too long: " ++ quoted path
  | .nullCharacter => "embedded null byte"

/-- What stands under each path. -/
abbrev Files := String → Except AccessFault Bytes

/-- A path in its plain form: no empty parts, no parts that stay where they are, and no slash at
the end. Two slashes at the front are kept, more are one. -/
def plainPath (path : String) : String :=
  let cs := path.toList
  let root :=
    match (cs.takeWhile (· = '/')).length with
    | 0 => ""
    | 2 => "//"
    | _ => "/"
  let parts := ((pieces '/' cs).map String.ofList).filter fun part => part ≠ "" && part ≠ "."
  let plain := root ++ "/".intercalate parts
  if plain.isEmpty then "." else plain

end GuardedRecords
