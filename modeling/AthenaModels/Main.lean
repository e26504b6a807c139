import AthenaModels.CommandLine.Run
import AthenaModels.Environment.Dotenv
import AthenaModels.Host
import Std.Time

/-! The command. Neither the engine nor the store can be reached from here, so requests to them are
not delivered. -/

namespace AthenaModels.Console

def splitBytes (separator : UInt8) (bytes : List UInt8) : List (List UInt8) :=
  bytes.foldr (fun byte parts =>
    match parts with
    | [] => [[byte]]
    | part :: parts => if byte = separator then [] :: part :: parts else (byte :: part) :: parts)
    [[]]

def textOf? (bytes : List UInt8) : Option String :=
  String.fromUTF8? ⟨bytes.toArray⟩

def binding? (entry : List UInt8) : Option (String × Variable) := do
  let name := entry.takeWhile (· != 61)
  let value := entry.drop (name.length + 1)
  some (← textOf? name, ((textOf? value).map .text).getD .bytes)

def inherited : IO Environment := do
  let block ← IO.FS.readBinFile "/proc/self/environ"
  return ⟨(splitBytes 0 block.toList).filterMap binding?⟩

def leadingText (bytes : List UInt8) : String :=
  Text.join "\n" (((splitBytes 10 bytes).map textOf?).takeWhile Option.isSome |>.filterMap id)

def dotenv? : IO (Option String) := do
  let mut directory := some (← IO.currentDir)
  for _ in [0:256] do
    if let some here := directory then
      let file := here / ".env"
      if ← file.pathExists then
        return (← (IO.FS.readBinFile file).toBaseIO).toOption.map (leadingText ·.toList)
      directory := here.parent
  return none

def environment : IO Environment := do
  let env ← inherited
  return (← dotenv?).elim env env.loadDotenv

def readFile (file : String) : IO (Except String String) := do
  match ← (IO.FS.readBinFile file).toBaseIO with
  | .ok bytes =>
      return (String.fromUTF8? bytes).elim (.error "stream did not contain valid UTF-8") .ok
  | .error error => return .error (toString error)

def filesOf : CommandLine.Reading → IO CommandLine.Files
  | .run invocation => do
      let contents ← invocation.files.mapM fun file => return (file, ← readFile file)
      return fun file => (contents.lookup file).getD (.error "not read")
  | _ => return fun _ => .error "not read"

def hexDigits (count : Nat) : IO String := do
  let digits ← (List.range count).mapM fun _ => return Nat.digitChar (← IO.rand 0 15)
  return String.ofList digits

def freshUuid : IO String := do
  let variant := Nat.digitChar (← IO.rand 8 11)
  return Text.join "-" [← hexDigits 8, ← hexDigits 4, "4" ++ (← hexDigits 3),
    variant.toString ++ (← hexDigits 3), ← hexDigits 12]

def now : IO Timestamp := do
  let nanos := (← Std.Time.Timestamp.now).toNanosecondsSinceUnixEpoch.val
  return ⟨nanos / 1000000000, (nanos % 1000000000).toNat⟩

def answer : (r : Host.Request) → IO (Host.Reply r)
  | .engine _ => return Engine.Answer.undelivered
  | .store (.list _ _ _) => return (.error .undelivered : Except Refusal ObjectStore.Listing)
  | .store (.delete _ _) =>
      return (.error .undelivered : Except Refusal (List ObjectStore.KeyError))
  | .sleep seconds => IO.sleep (UInt32.ofNat (min (seconds * 1000) (Nat.pow 2 32 - 1)))
  | .clock => IO.monoNanosNow
  | .now => now
  | .freshSuffix => hexDigits 8
  | .freshUuid => freshUuid

def errorText (failure : CommandLine.Failure) : String :=
  let causes :=
    match failure.chain.drop 1 with
    | [] => []
    | [cause] => ["", "Caused by:", "    " ++ cause]
    | causes =>
        "" :: "Caused by:" ::
          causes.zipIdx.map fun (cause, index) => "    " ++ toString index ++ ": " ++ cause
  Text.join "\n" (("Error: " ++ failure.chain.headD "") :: causes)

def patience : Nat := Nat.pow 2 64

def run (arguments : List String) : IO UInt32 := do
  let env ← environment
  let reading := CommandLine.read env arguments
  let job := CommandLine.run env (← filesOf reading) patience reading
  match ← (job.translate (Host.carryOut patience)).run answer with
  | none => return 1
  | some ending =>
      IO.print ending.output
      if ending.exit = 2 then IO.eprint CommandLine.helpText
      if let some failure := ending.failure then IO.eprintln (errorText failure)
      return UInt32.ofNat ending.exit

end AthenaModels.Console

def main (arguments : List String) : IO UInt32 :=
  AthenaModels.Console.run arguments
