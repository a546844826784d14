import TokenDesk.Validation

/-!
The command that checks a configuration. It reads the files that its arguments and the credentials
name, and prints what `Validation.report` says.
-/

open TokenDesk

/-- The content of a file, if it can be read. -/
def contentOf (path : String) : IO (Option Bytes) := do
  try
    let content ← IO.FS.readBinFile path
    return some content.toList
  catch _ => return none

/-- The contents of files, by their paths. -/
def contentsOf (paths : List String) : IO (List (String × Option Bytes)) :=
  paths.mapM fun path => do return (path, ← contentOf path)

def lookUp (contents : List (String × Option Bytes)) (path : String) : Option Bytes :=
  (contents.lookup path).join

def main (arguments : List String) : IO UInt32 := do
  let named := match Validation.Invocation.ofArguments arguments with
    | .check settings credentials => [settings, credentials]
    | _ => []
  let contents ← contentsOf named
  let secret := (Validation.secretPath? arguments (lookUp contents)).toList
  let contents := contents ++ (← contentsOf secret)
  let report := Validation.report arguments (lookUp contents)
  IO.print report.output
  IO.eprint report.diagnosis
  return report.code
