import PasswordHashing.Check.Run

/-!
The check program. Verdicts and log lines go to standard output, complaints to standard error. An
environment file is looked for in the working directory and then in the directories above it.
-/

namespace PasswordHashing.Main

def contents? (path : String) : IO (Option (List UInt8)) := do
  try
    let bytes ← IO.FS.readBinFile path
    return some bytes.data.toList
  catch _ =>
    return none

/-- The nearest environment file, at most as many directories up as given. -/
def nearestFile? (directory : String) : Nat → IO (Option (List UInt8))
  | 0 => return none
  | n + 1 => do
      match ← contents? (directory ++ ".env") with
      | some bytes => return some bytes
      | none => nearestFile? ("../" ++ directory) n

def environment : IO Environment := do
  return Environment.ofBlock ((← contents? "/proc/self/environ").getD [])

/-- Random bytes, for any number up to 64. -/
def entropy : IO Check.Entropy := do
  let bytes ← IO.getRandomBytes 64
  return fun _ => Vector.ofFn fun i => bytes.data.getD i 0

/-- Write an output. Events below INFO are not shown. -/
def write : Check.Output → IO Unit
  | .line text => IO.println text
  | .event event =>
      if event.level = .debug then return ()
      else IO.println (event.level.name ++ " " ++ event.line)

end PasswordHashing.Main

open PasswordHashing in
def main : IO UInt32 := do
  let report := Check.run (← Main.environment) (← Main.nearestFile? "" 32) (← Main.entropy)
  report.output.forM Main.write
  IO.eprint report.complaint
  return report.exitCode.toUInt32
