import ToolAgent.CommandLine.Dotenv
import ToolAgent.CommandLine.Program

/-!
# Running the program

The program has no network of its own: whatever carries its requests has to be put in place of
`Transport.offline`.
-/

namespace ToolAgent.Main

/-- The variables of the process with these names. -/
def readEnvironment (names : List String) : IO Environment := do
  let found ← names.filterMapM fun name => do
    return (← IO.getEnv name).map fun value => (name, Bytes.ofString value)
  return .ofList found

/-- The environment file in the working directory, or in the nearest directory above that has
one. -/
def readEnvironmentFile : IO Bytes := do
  let above := ((← IO.currentDir).toString.toList.filter (· = '/')).length
  for up in List.range (above + 1) do
    let path := String.join (List.replicate up "../") ++ ".env"
    if let .ok file ← (IO.FS.readBinFile path).toBaseIO then
      return file.toList
  return []

/-- The variables that entries set or refer to. -/
def entryNames (entries : List Dotenv.Entry) : List String :=
  entries.flatMap fun entry =>
    entry.name :: entry.value.filterMap fun
      | .variable name => some (Environment.ownName name)
      | .char _ => none

/-- A fresh id from a generator of random numbers. -/
def freshId : StateM StdGen String := fun gen =>
  let (random, gen) := randNat gen 0 0xFFFFFFFFFFFFFFFFFFFFFFFFFFFFFFFF
  (ObjectId.generate ObjectId.callKind (.ofNat 128 random), gen)

end ToolAgent.Main

open ToolAgent in
def main (args : List String) : IO UInt32 := do
  let entries := Dotenv.entries (← Main.readEnvironmentFile)
  let names := Environment.settingNames ++ Program.styleNames ++ Main.entryNames entries
  let env ← Main.readEnvironment names
  let seed := (← IO.getRandomBytes 16).toList.foldl (fun n b => 256 * n + b.toNat) 0
  let (outcome, _) :=
    Program.run .offline Main.freshId (env.withEntries entries) args |>.run (mkStdGen seed)
  let stdout ← IO.getStdout
  stdout.write (ByteArray.mk outcome.output.toArray)
  stdout.flush
  IO.eprint outcome.diagnostics
  return outcome.code
