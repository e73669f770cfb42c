import TaskGraph.CommandLine.Run
set_option autoImplicit false

/-! The program: runs its command line on the files that it names, prints what there is to print,
and writes what has changed. -/

namespace TaskGraph

def pathsTo (path : Path) : List Path :=
  (List.range path.parts.length).map fun count => { path with parts := path.parts.take (count + 1) }

def namedPaths (invocation : CommandLine.Invocation) : List Path :=
  (invocation.file :: invocation.schema.toList ++ invocation.output.toList).flatMap fun word =>
    pathsTo (Path.ofString word)

def readEntry (path : Path) : IO (Option (Path × Entry)) :=
  try
    let content ← IO.FS.readBinFile path.text
    return some (path, .file content.toList)
  catch
    | .noFileOrDirectory .. => return none
    | .inappropriateType .. => return some (path, .directory)
    | cause => throw cause

def writeEntry (path : Path) : Entry → IO Unit
  | .directory => IO.FS.createDirAll path.text
  | .file content => IO.FS.writeBinFile path.text (ByteArray.mk content.toArray)

def describe : CommandLine.Fault → String
  | .storage .missing => "no such file or directory"
  | .storage .notDirectory => "not a directory"
  | .storage .isDirectory => "is a directory"
  | .storage .occupied => "a file is in the way"
  | .storage .tooLong => "a file name is too long"
  | .storage .broken => "a file name is broken"
  | .beyond => "a text holds half a character, or a node itself"
  | .badScalar cause => "a scalar does not fit its type: " ++ cause.reason
  | .serial _ => "a value has no JSON form"
  | .markup (.badArgument _) => "the argument of a handler cannot be read"
  | .markup .badColor => "a colour cannot be read"
  | .markup _ => "a closing tag matches no open one"
  | .check _ => "the schema cannot be applied"
  | .longNumber => "a number is too long to be written"

def reportEnding : CommandLine.Ending → IO Unit
  | .failed fault => IO.eprintln ("Error: " ++ describe fault)
  | .misused => IO.eprintln "Usage: compile | validate | show [OPTIONS] WORKFLOW_FILE"
  | _ => return

end TaskGraph

open TaskGraph

def main (words : List String) : IO UInt32 := do
  let invocation := CommandLine.Invocation.read? words
  let entries ← (invocation.map namedPaths |>.getD []).filterMapM readEntry
  let files := FileTree.ofList entries
  let columns := (← IO.getEnv "COLUMNS").bind (·.toNat?)
  let result := CommandLine.run (Console.printer (columns.getD 80)) files words
  if invocation.any (·.verbose) then
    for event in result.events do
      IO.eprintln (event.level ++ " - " ++ event.message)
  for (path, entry) in FileTree.changesSince files result.files do
    writeEntry path entry
  IO.print (String.ofList result.output)
  reportEnding result.ending
  return UInt32.ofNat (result.ending.code?.getD 1)
