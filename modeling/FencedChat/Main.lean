import FencedChat.CommandLine.Run

/-!
The program: it reads the files that its arguments name, runs the command and prints the report.
Calls of a service are answered by an error, since no connection is made from here.
-/

namespace FencedChat

def variableNames : List String :=
  ["CODEPANE_PROVIDER", "OPENAI_API_KEY", "OPENAI_CHAT_MODEL", "ANTHROPIC_API_KEY",
    "ANTHROPIC_MODEL"]

def readFiles (paths : List String) : IO (List (String × FileContent)) := do
  let mut files := []
  for path in paths do
    try
      let bytes ← IO.FS.readBinFile path
      files := (path, FileContent.ofBytes bytes.toList) :: files
    catch _ => pure ()
  return files

def readEnvironment : IO Environment := do
  let mut values := []
  for name in variableNames do
    if let some value ← IO.getEnv name then values := (name, value) :: values
  return fun name => values.lookup name

end FencedChat

open FencedChat in
def main (args : List String) : IO UInt32 := do
  let files ← readFiles args
  match Command.read (fun path => files.lookup path) args with
  | .error e =>
    (← IO.getStderr).putStrLn e.message
    return 2
  | .ok command =>
    let input ← match command with
      | .render none _ => (← IO.getStdin).readToEnd
      | .blocks none _ => (← IO.getStdin).readToEnd
      | _ => pure ""
    let env ← readEnvironment
    let (report, ending) := command.run
      { file? := fun path => files.lookup path
        input := input
        provider := env.provider
        client := fun _ => .error (.api "Connection error.") }
    (← IO.getStdout).putStr report.output
    (← IO.getStderr).putStr report.errors
    return ending.code.toUInt32
