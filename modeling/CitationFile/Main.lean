import CitationFile.CommandLine

open CitationFile

def faultOf : IO.Error → Storage.Fault
  | .noFileOrDirectory .. => .notFound
  | .inappropriateType _ 20 _ => .notDirectory
  | .inappropriateType _ 21 _ => .isDirectory
  | error => .other (toString error)

def readFile (path : String) : IO (Except Storage.Fault String) := do
  try
    let bytes ← IO.FS.readBinFile path
    return match String.fromUTF8? bytes with
      | some text => .ok text
      | none => .error .notText
  catch error => return .error (faultOf error)

def findSurroundings : IO Configuration.Surroundings := do
  let named ← IO.getEnv "IMPRESS_CFF_CONFIG"
  let configured ← IO.getEnv "XDG_CONFIG_HOME"
  let home ← IO.getEnv "HOME"
  let folder := configured.filter (·.startsWith "/") <|> home.map (· ++ "/.config")
  return ⟨named, folder.map (· ++ "/impress-cff/config.toml")⟩

def filesFor (request : Option CommandLine.Request) (surroundings : Configuration.Surroundings) :
    IO Storage.Files := do
  let paths := match request with
    | some (.invoke invocation) => invocation.paths surroundings
    | _ => []
  let contents ← paths.mapM fun path => return (path, ← readFile path)
  return fun path => (contents.lookup path).getD (.error .notFound)

def main (arguments : List String) : IO UInt32 := do
  let surroundings ← findSurroundings
  let files ← filesFor (CommandLine.Request.ofArguments? arguments) surroundings
  let answer := CommandLine.run arguments files surroundings
  (← IO.getStdout).putStr answer.output
  (← IO.getStderr).putStr answer.errors
  return answer.exitCode.toUInt32
