import GuardedRecords.CommandLine

namespace GuardedRecords

/-- What stands under a path at this moment. -/
def readPath (path : String) : IO (Except AccessFault Bytes) := do
  if path.toList.contains '\x00' then return .error .nullCharacter
  try
    let content ← IO.FS.readBinFile path
    return .ok content.toList
  catch
    | .inappropriateType .. => return .error .isDirectory
    | .invalidArgument .. => return .error .nameTooLong
    | _ => return .error .missing

/-- The variables of the environment that concern settings. -/
def readVariables : IO (Table String) := do
  let mut found := []
  for name in plainSettings ++ listSettings do
    for spelling in ["practicebase_" ++ name, ("practicebase_" ++ name).toUpper] do
      if let some text ← IO.getEnv spelling then
        found := found ++ [(spelling, text)]
  return found

/-- What is said about an error that ends the program. -/
def CommandResult.crashReport : CommandResult → List String
  | .badDocument fault => [fault.message]
  | .badSettings (.invalid faults) => faults.map fun fault => fault.name ++ ": " ++ fault.place.flaw.message
  | .badSettings failure => [failure.message]
  | .serve .. => ["Requests are not served over a network."]
  | _ => []

end GuardedRecords

/-- Runs the program on the files and the environment at hand. -/
def main (args : List String) : IO UInt32 := do
  let entries ← args.mapM fun path => return (path, ← GuardedRecords.readPath path)
  let files (path : String) := (entries.lookup path).getD (.error .missing)
  let result := GuardedRecords.runProgram files (← GuardedRecords.readVariables) args
  IO.print result.output
  IO.eprint result.errors
  for line in result.crashReport do
    IO.eprintln line
  return result.status.toUInt32
