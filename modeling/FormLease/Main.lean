import FormLease.Claimant.Seed
import FormLease.Probe

/-!
# The probe as a program

Gathers the arguments, the variables, the files and the chance that a
probe needs, runs it, and prints what it says. Nothing is decided here.
It is a program without a network: a store that is elsewhere is reported
as not to be reached.
-/

namespace FormLease.Probe

/-- The text of a file, if it is there and can be read. -/
def textOf? (path : String) : IO (Option String) := do
  try
    return some (← IO.FS.readFile path)
  catch _ => return none

/-- The variables of this process. Those that are no text are left out. -/
def processVariables : IO Settings.Variables := do
  let some block ← textOf? "/proc/self/environ" | return []
  let entries := (Text.pieces '\x00' block.toList).filter fun entry => !entry.isEmpty
  return entries.map fun entry =>
    (String.ofList (entry.takeWhile (· ≠ '=')), String.ofList ((entry.dropWhile (· ≠ '=')).drop 1))

/-- The nearest file of variables, in this folder or in one above it. -/
def variableFile? : IO (Option String) := do
  let depth := ((← IO.currentDir).toString.toList.filter (· = '/')).length
  (List.range (depth + 1)).findSomeM? fun steps =>
    textOf? (String.join (List.replicate steps "../") ++ ".env")

/-- The files that the settings of this process may come from. -/
def settingsFolder (vars : Settings.Variables) : IO Settings.Folder := do
  let variableFile := (← variableFile?).toList.map fun text => (".env", text)
  let vars := Settings.extended vars fun path => variableFile.lookup path
  let paths := (Settings.paths serviceName vars).flatMap fun path => [path, path ++ ".toml"]
  let found ← paths.filterMapM fun path => do
    return (← textOf? path).map fun text => (path, text)
  return fun path => (variableFile ++ found).lookup path

end FormLease.Probe

def main (arguments : List String) : IO UInt32 := do
  let vars ← FormLease.Probe.processVariables
  let seed : FormLease.Seed := (← IO.getRandomBytes 48).toList
  let outcome := FormLease.Probe.run {
    arguments := arguments
    vars := vars
    folder := ← FormLease.Probe.settingsFolder vars
    network := .none
    redisReplies := []
    postgresReplies := []
    freshId := seed.id
    draws := seed.draw }
  outcome.log.forM IO.println
  IO.eprint outcome.complaint
  return outcome.exitCode.toUInt32
