import Cosigner.Command.Run
/-!
The program: offline tools of the signing service.
-/

namespace Cosigner

/-- Why the system does not give the contents of a file. -/
def ReadFault.ofError : IO.Error → ReadFault
  | .noFileOrDirectory _ _ _ => .missing
  | .permissionDenied _ _ _ => .denied
  | .inappropriateType _ code _ => if code = 20 then .notDirectory else .directory
  | error => .other (toString error)

def readContents (path : String) : IO (Except ReadFault ByteArray) := do
  match ReadFault.ofPath? path with
  | some fault => return .error fault
  | none =>
    try
      return .ok (← IO.FS.readBinFile path)
    catch error =>
      return .error (ReadFault.ofError error)

def readEnvironment : IO WalletConfig.Environment :=
  WalletConfig.variableNames.filterMapM fun name => do
    return (← IO.getEnv name).map fun value => (name, value)

end Cosigner

def main (arguments : List String) : IO UInt32 := do
  let path := (Cosigner.Request.ofArguments? arguments).bind Cosigner.Request.configPath?
  let contents ← match path with
    | some path => Cosigner.readContents path
    | none => pure (.error .missing)
  let ending := Cosigner.Ending.ofArguments (← Cosigner.readEnvironment) contents arguments
  IO.print ending.output
  IO.eprint ending.errors
  return UInt32.ofNat ending.code
