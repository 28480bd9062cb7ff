import SchemaTypes.CommandLine.Run

/-!
# The program

* `main`: runs the program on the files of the machine it runs on.
-/

namespace SchemaTypes.CommandLine

/-- The fault of a file that a system error tells; other errors are left as they are. -/
def faultOf (e : IO.Error) : IO FileFault :=
  match e with
  | .noFileOrDirectory _ _ _ => return .notFound
  | .inappropriateType _ code _ => return if code = 20 then .notDirectory else .isDirectory
  | e => throw e

/-- The result of an action on files. -/
def attempt {α : Type} (action : IO α) : IO (Except FileFault α) := do
  match ← action.toBaseIO with
  | .ok v => return .ok v
  | .error e => return .error (← faultOf e)

/-- The string with the characters of a text. -/
def stringOf (t : Text) : String :=
  String.ofList t

/-- The array of some bytes. -/
def arrayOf (bytes : List UInt8) : ByteArray :=
  ⟨bytes.toArray⟩

instance : Files IO where
  read path := attempt do
    let file ← IO.FS.Handle.mk (stringOf path) .read
    ByteArray.toList <$> file.readBinToEnd
  create path := attempt (IO.FS.writeBinFile (stringOf path) ⟨#[]⟩)
  append path bytes := do
    let file ← IO.FS.Handle.mk (stringOf path) .append
    file.write (arrayOf bytes)

/-- All bytes that come in, behind those that have come. -/
partial def readAll (stream : IO.FS.Stream) (before : ByteArray) : IO (List UInt8) := do
  let bytes ← stream.read 65536
  if bytes.isEmpty then return before.toList else readAll stream (before ++ bytes)

end SchemaTypes.CommandLine

open SchemaTypes.CommandLine in
/-- Runs the program on its arguments, and writes down what it answers. -/
def main (arguments : List String) : IO UInt32 := do
  let incoming := do readAll (← IO.getStdin) ⟨#[]⟩
  let outcome ← run incoming (arguments.map String.toList)
  (← IO.getStdout).write (arrayOf outcome.output)
  (← IO.getStderr).putStr (stringOf outcome.errors)
  return outcome.exitCode.toUInt32

