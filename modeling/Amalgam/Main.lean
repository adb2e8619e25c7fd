import Amalgam.Program

/-! The program at the command line. What it may need is read first, round by round;
the rest is decided from that, and the result written in the end. -/
namespace Amalgam.Main

def faultOfCode (code : UInt32) : Fault :=
  match code.toNat with
  | 13 => .denied
  | 16 => .busy
  | 20 => .notADirectory
  | 21 => .isADirectory
  | 28 => .noSpace
  | 36 => .nameTooLong
  | 40 => .tooManyLinks
  | _ => .notFound

def faultOf : IO.Error → Fault
  | .noFileOrDirectory _ _ _ => .notFound
  | .alreadyExists _ code _ | .invalidArgument _ code _ | .permissionDenied _ code _
  | .resourceExhausted _ code _ | .inappropriateType _ code _ | .noSuchThing _ code _
  | .otherError code _ | .resourceBusy code _ | .resourceVanished code _
  | .unsupportedOperation code _ | .hardwareFault code _ | .unsatisfiedConstraints code _
  | .illegalOperation code _ | .protocolError code _ | .timeExpired code _
  | .interrupted _ code _ => faultOfCode code
  | .unexpectedEof | .userError _ => .notFound

def attempt {α : Type} (action : IO α) : IO (Except Fault α) := do
  match ← action.toBaseIO with
  | .ok a => return .ok a
  | .error e => return .error (faultOf e)

/-- Whether what may not be read is a file: nothing can be asked for behind its name. -/
def isLocked (p : Path) (reading : Except Fault ByteArray) : IO Bool := do
  match reading with
  | .error .denied =>
    match ← attempt (IO.FS.readBinFile (p.join (.ofString ".")).toString) with
    | .error .notADirectory => return true
    | _ => return false
  | _ => return false

/-- Reads until nothing more is wanted. -/
partial def gather (words : List Text) (cwd : Except Fault Path)
    (readings : List (Path × Except Fault ByteArray)) (locked : List Path) : IO Disk := do
  let disk := Disk.ofReadings cwd readings locked
  let missing := (Program.wanted disk words).filter fun p => (readings.lookup p).isNone
  if missing.isEmpty then return disk
  let more ← missing.eraseDups.mapM fun p => do
    return (p, ← attempt (IO.FS.readBinFile p.toString))
  let found ← more.filterM fun (p, reading) => isLocked p reading
  gather words cwd (readings ++ more) (locked ++ found.map (·.1))

def replaceFile (path : Path) (text : Text) : IO (Except PipelineError Unit) := do
  let staging := (FileTree.staging path).toString
  match ← attempt (IO.FS.writeFile staging (String.ofList text)) with
  | .error e => return .error (.write path e)
  | .ok () =>
    match ← attempt (IO.FS.rename staging path.toString) with
    | .ok () => return .ok ()
    | .error e =>
      let _ ← attempt (IO.FS.removeFile staging)
      return .error (.write path e)

def writeResult (result : Output) (output : Path) (report : Option Path) :
    IO (Except PipelineError Output) := do
  match ← replaceFile output result.text with
  | .error e => return .error e
  | .ok () =>
    match report with
    | none => return .ok result
    | some path => return (← replaceFile path result.report.json).map fun _ => result

def present (outcome : Outcome) : IO UInt32 := do
  IO.print outcome.stdout
  IO.eprint outcome.stderr
  if !outcome.stderr.isEmpty && outcome.stderr.back != '\n' then IO.eprintln ""
  return UInt32.ofNat outcome.exitCode

def run (args : List String) : IO UInt32 := do
  let words := args.map String.toList
  let cwd := (← attempt IO.currentDir).map fun dir => Path.ofString dir.toString
  let disk ← gather words cwd [] []
  let filter := (← IO.getEnv "RUST_LOG").map String.toList
  match Program.plan disk words filter with
  | .stop outcome => present outcome
  | .write shown result output report =>
    present (Program.finish shown (← writeResult result output report))

end Amalgam.Main

def main (args : List String) : IO UInt32 := Amalgam.Main.run args
