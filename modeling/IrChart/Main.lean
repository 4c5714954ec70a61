import IrChart.Program

/-!
# Main

The command line program: it carries out a call on the file system and prints what the call
answers. It decides nothing.
-/

namespace IrChart

/-- The fault with a number and a text of the operating system. -/
def FileFault.ofSystem (number : UInt32) (text : String) : FileFault :=
  match number.toNat with
  | 2 => .notFound
  | 20 => .notDirectory
  | 21 => .isDirectory
  | 36 => .nameTooLong
  | n => .other (text ++ " (os error " ++ toString n ++ ")")

/-- The fault behind an error of a file operation. -/
def FileFault.ofError : IO.Error → FileFault
  | .noFileOrDirectory _ n text => .ofSystem n text
  | .inappropriateType _ n text => .ofSystem n text
  | .permissionDenied _ n text => .ofSystem n text
  | .invalidArgument _ n text => .ofSystem n text
  | .alreadyExists _ n text => .ofSystem n text
  | .resourceExhausted _ n text => .ofSystem n text
  | .noSuchThing _ n text => .ofSystem n text
  | .interrupted _ n text => .ofSystem n text
  | .otherError n text => .ofSystem n text
  | .resourceBusy n text => .ofSystem n text
  | .unsupportedOperation n text => .ofSystem n text
  | .hardwareFault n text => .ofSystem n text
  | .illegalOperation n text => .ofSystem n text
  | e => .other (toString e)

/-- Reads the bytes of a file. -/
def readBytes (path : String) : IO (Except FileFault ByteArray) := do
  if Path.hasNul path then return .error .nulInPath
  try
    return .ok (← IO.FS.readBinFile path)
  catch e =>
    return .error (.ofError e)

/-- The path leads to something that is no directory. Nothing is opened to find out: a path that
leads nowhere, or through a directory that may not be searched, does not resolve, and only what is
no directory refuses a path on from it with that fault. -/
def isNoDirectory (path : String) : IO Bool := do
  if Path.hasNul path then return false
  let .ok _ ← (IO.FS.realPath path).toBaseIO | return false
  match ← (IO.FS.Handle.mk (path ++ "/.") .read).toBaseIO with
  | .ok _ => return false
  | .error e => return FileFault.ofError e == .notDirectory

/-- Runs of the program work on the file system. A file that may not be read is a file; devices and
pipes are not told from files. -/
instance : FileAccess IO where
  isFile := isNoDirectory
  readText path := do
    match ← readBytes path with
    | .error fault => return .error fault
    | .ok bytes =>
      match String.fromUTF8? bytes with
      | some text => return .ok text
      | none => return .error .notText
  writeText path text := do
    if Path.hasNul path then return .error .nulInPath
    try
      IO.FS.writeFile path text
      return .ok ()
    catch e =>
      return .error (.ofError e)

/-- The path of the user's settings file: below the configuration directory, which must be
absolute, or else below `.config` in the home directory. -/
def userSettingsPath (configHome home : Option String) : Option String :=
  let base := match configHome.filter Path.isAbsolute with
    | some directory => some directory
    | none => home.map (Path.join · ".config")
  base.map fun directory => Path.join (Path.join directory "irscope") Settings.fileName

/-- An explanation in a few lines of text. -/
def Explanation.render (e : Explanation) : String :=
  let severity := (e.severity.map (·.name ++ ": ")).getD "error: "
  let code := (e.code.map (" [" ++ · ++ "]")).getD ""
  let labels := (e.labels.zip e.ranges).map fun (l, offset, length) =>
    "\n  at byte " ++ toString offset ++ ", " ++ toString length ++ " long: " ++ l.message
  let help := (e.help.map ("\n  help: " ++ ·)).getD ""
  severity ++ e.display ++ code ++ String.join labels ++ help

end IrChart

open IrChart in
/-- Answers a call of the program. -/
def main (arguments : List String) : IO UInt32 := do
  let bytes ← IO.getRandomBytes 32
  let around : Surroundings :=
    { userSettings := userSettingsPath (← IO.getEnv "XDG_CONFIG_HOME") (← IO.getEnv "HOME")
      entropy := .ofBytes bytes.toList }
  let answer ← Program.answer around arguments
  IO.print answer.output
  for line in answer.notices do IO.eprintln line
  for remark in answer.remarks do IO.eprintln remark.render
  return answer.exit
