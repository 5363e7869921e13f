import JavaSurvey.CommandLine.Run
import JavaSurvey.Java.Source
import JavaSurvey.Text.Encoding

set_option autoImplicit false

namespace JavaSurvey.Main

def trouble : IO.Error → Option Trouble
  | .noFileOrDirectory .. => some .noEntry
  | .permissionDenied .. => some .denied
  | .inappropriateType .. => some .notFolder
  | _ => none

def reason (e : IO.Error) (path : String) : String :=
  match trouble e with
  | some t => t.message path
  | none => e.toString

partial def itemAt (path : String) : IO Item := do
  let here := (← IO.currentDir) / path
  if ← here.isDir then
    try
      let entries ← here.readDir
      let items ← entries.toList.mapM fun e => do
        return (e.fileName, ← itemAt (joinPath path e.fileName))
      return .folder items
    catch e => return .unlistable (((trouble e).map Trouble.text).getD e.toString)
  else
    try
      let bytes ← IO.FS.readBinFile path
      return .file bytes.toList
    catch e => return .unreadable (reason e path)

def rootAt (path : String) : IO Root := do
  if ← ((← IO.currentDir) / path).isDir then return .tree (← itemAt path)
  return .missing

def rootOf (args : List String) : IO Root :=
  match CommandLine.parse args with
  | .ok (.run o) =>
    match CommandLine.given? o.path with
    | some path => rootAt path
    | none => pure .missing
  | _ => pure .missing

def environment : IO Environment := do
  let set ← Settings.names.mapM fun name => do return (name, ← IO.getEnv name)
  return fun name => (set.lookup name).join

def perform (p : CommandLine.Plan) : IO UInt32 := do
  let stderr ← IO.getStderr
  stderr.putStr p.stderr
  (← IO.getStdout).putStr p.stdout
  if let some (path, text) := p.closing.file then
    try IO.FS.writeFile path (text.toOption.getD "")
    catch e =>
      stderr.putStr (reason e path ++ "\n")
      return 1
    if let .error e := text then
      stderr.putStr (e.message ++ "\n")
      return 1
  stderr.putStr p.closing.stderr
  match p.ending with
  | .ok status => return status.toUInt32
  | .error crash =>
    stderr.putStr (crash.message ++ "\n")
    return 1

def run (args : List String) : IO UInt32 := do
  let root ← rootOf args
  let env ← environment
  perform (CommandLine.plan Encoding.codecs Java.parser args env fun _ => root)

end JavaSurvey.Main

def main (args : List String) : IO UInt32 := JavaSurvey.Main.run args
