import LintReport.Command.Run
import Std.Time.DateTime

namespace LintReport.Main

open Command (Surroundings Outcome)

-- Error numbers may come with either sign.
def ofNumber (code : UInt32) (details : String) : FileError :=
  let n := min code.toNat (Nat.pow 2 32 - code.toNat)
  if n = 6 then .noDevice
  else if n = 20 then .notDirectory
  else if n = 21 then .isDirectory
  else if n = 26 then .busy
  else if n = 28 then .noSpace
  else if n = 36 then .nameTooLong
  else .other (details ++ " (os error " ++ toString n ++ ")")

def fileError : IO.Error → FileError
  | .noFileOrDirectory ..             => .missing
  | .inappropriateType _ code details
  | .invalidArgument _ code details
  | .noSuchThing _ code details
  | .permissionDenied _ code details
  | .resourceExhausted _ code details => ofNumber code details
  | e                                 => .other (toString e)

def attempt {α : Type} (act : IO α) : IO (Except FileError α) := do
  try
    return .ok (← act)
  catch e =>
    return .error (fileError e)

partial def readAll (h : IO.FS.Stream) (read : ByteArray) : IO ByteArray := do
  let more ← h.read 65536
  if more.isEmpty then return read else readAll h (read ++ more)

-- Colors are printed where the environment forces them, or else on terminals unless it forbids them.
def colors : IO Bool := do
  let switched (name : String) : IO (Option Bool) :=
    return (← IO.getEnv name).map (· != "0")
  if (← switched "CLICOLOR_FORCE") = some true then
    return true
  else if (← switched "NO_COLOR").isSome then
    return false
  else
    return (← switched "CLICOLOR").getD true && (← (← IO.getStdout).isTty)

def padded (width n : Nat) : String :=
  let digits := toString n
  "".pushn '0' (width - digits.length) ++ digits

def timestamp : IO String := do
  let now := Std.Time.DateTime.ofTimestamp (← Std.Time.Timestamp.now) .UTC
  let d := now.date.get.date
  let t := now.date.get.time
  return padded 4 d.year.toInt.toNat ++ "-" ++ padded 2 d.month.val.toNat ++ "-" ++
    padded 2 d.day.val.toNat ++ "T" ++ padded 2 t.hour.val.toNat ++ ":" ++
    padded 2 t.minute.val.toNat ++ ":" ++ padded 2 t.second.val.toNat ++ "." ++
    padded 9 t.nanosecond.val.toNat ++ "Z"

def leadsToInput (path : String) : Bool :=
  path.startsWith "/" && (Files.ofDirectory []).leadsToInput path

def surroundings (args : List String) : IO Surroundings := do
  let invocation := (Command.parse args).toOption
  let (streams, files) := ((invocation.map Command.readPaths).getD []).partition leadsToInput
  let present ← ((← IO.currentDir) / Command.defaultConfig).pathExists
  let contents ← files.mapM fun (path : String) => do
    return (path, ← attempt (IO.FS.readBinFile path))
  let meant := !streams.isEmpty || invocation.any Command.readsInput
  let input ← if meant then readAll (← IO.getStdin) .empty else pure .empty
  return {
    present   := fun _ => present
    read      := fun path => (contents.lookup path).getD (.error .missing)
    opens     := fun _ => .ok ()
    writes    := fun _ _ => .ok ()
    leadsToInput
    input
    colors    := ← colors
    timestamp := ← timestamp }

-- Writes bytes in pieces, so that what goes wrong is known together with how much went in before.
partial def writeAll (h : IO.FS.Handle) (bytes : ByteArray) (start : Nat) :
    IO (Except (Nat × FileError) Unit) := do
  if bytes.size ≤ start then
    return .ok ()
  let piece := bytes.extract start (start + 4096)
  match ← attempt (h.write piece *> h.flush) with
  | .ok _    => writeAll h bytes (start + 4096)
  | .error e => return .error (start, e)

-- Writes the file of an outcome. What comes of it decides how the command goes on.
def settle (w : Surroundings) (args : List String) : IO Outcome := do
  let o := Command.run w args
  match o.written with
  | none               => return o
  | some (path, bytes) =>
    match ← attempt (IO.FS.Handle.mk path .write) with
    | .error e => return Command.run { w with opens := fun _ => .error e } args
    | .ok h    =>
      let result ← writeAll h bytes 0
      return Command.run { w with writes := fun _ _ => result } args

end LintReport.Main

def main (args : List String) : IO UInt32 := do
  let w ← LintReport.Main.surroundings args
  let o ← LintReport.Main.settle w args
  IO.print o.output
  IO.eprint o.errors
  return o.status
