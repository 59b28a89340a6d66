/-
The registry's log file: one JSON object a line, each line with its checksum.

A line is printable ASCII, so a character of the file is one byte.  `append` may be
interrupted at every system call, and a write may take any part of what is left.
-/

import TurtleExecution.Foundation.JsonPrefix
import TurtleExecution.Foundation.JsonSorted
import TurtleExecution.Foundation.Process
import TurtleExecution.Foundation.Sha256
import Mathlib.Data.List.DropRight

set_option autoImplicit false

namespace TurtleExecution.Registry

abbrev Text := List Char

/-- `json.dumps(value, sort_keys=True)`, or `none` where it raises. -/
def dumpsText (value : PyValue) : Option Text :=
  (PyValue.toJson value).map (Json.printWith [' '])

def checksumKey : PyKey := .str "_checksum"

def entryChecksum (entryWithoutChecksum : PyDict) : Option String :=
  (dumpsText (.dict entryWithoutChecksum)).map fun canonical =>
    String.ofList (hexdigest (String.ofList canonical))

def checksummed (entry : PyDict) (checksum : String) : PyDict :=
  Dict.set entry checksumKey (.str checksum)

/-- The entry's line, or `none` where it cannot be serialised. -/
def payload (entry : PyDict) : Option Text :=
  (entryChecksum entry).bind fun checksum =>
    (dumpsText (.dict (checksummed entry checksum))).map fun text => text ++ ['\n']

/-- What the operating system does at one call: `done` with a count of bytes (for
`os.write`), an error, or the process dies. -/
inductive Answer
  | done (count : Nat)
  | fails
  | dies

/-- The file, and the answers to the next system calls; behind them every call is done. -/
structure Disk where
  file : Text
  answers : List Answer

inductive AppendError
  | notSerialisable
  | os
  | registryLock
  | noProgress
  deriving DecidableEq

abbrev Storing := Process Disk AppendError

/-- The count that a call was answered with; `none` where it did all it was asked to. -/
def systemCall (failure : AppendError) : Storing (Option Nat) := fun disk =>
  match disk.answers with
  | [] => (.returned none, disk)
  | .done count :: answers => (.returned (some count), { disk with answers })
  | .fails :: answers => (.raised failure, { disk with answers })
  | .dies :: answers => (.crashed, { disk with answers })

def writeText (text : Text) : Storing Unit :=
  Process.modify fun disk => { disk with file := disk.file ++ text }

/-- Every round but the last leaves less to write, so the fuel is the length. -/
def writeFull : Nat → Text → Storing Unit
  | 0, _ => pure ()
  | fuel + 1, data =>
      if data = [] then pure ()
      else do
        let answer ← systemCall .os
        let written := min (answer.getD data.length) data.length
        if written = 0 then Process.raise .noProgress
        else do
          writeText (data.take written)
          writeFull fuel (data.drop written)

def append (entry : PyDict) : Storing Unit :=
  match payload entry with
  | none => Process.raise .notSerialisable
  | some line => do
      let _opened ← systemCall .os
      Process.tryFinally
        (do
          let _locked ← systemCall .registryLock
          Process.tryFinally
            (do
              writeFull line.length line
              let _synced ← systemCall .os)
            (do let _released ← systemCall .os))
        (do let _closed ← systemCall .os)

/-- The newlines of text mode: `\r\n` and `\r` are read as `\n`. -/
def universalNewlines : Text → Text
  | [] => []
  | '\r' :: '\n' :: rest => '\n' :: universalNewlines rest
  | '\r' :: rest => '\n' :: universalNewlines rest
  | c :: rest => c :: universalNewlines rest

def readLines : Text → List Text
  | [] => []
  | c :: rest =>
      if c = '\n' then ['\n'] :: readLines rest
      else
        match readLines rest with
        | [] => [[c]]
        | line :: lines => (c :: line) :: lines

def strip (line : Text) : Text :=
  (line.dropWhile PyText.isSpace).rdropWhile PyText.isSpace

inductive MalformedRegistryLogError
  | notJson (lineNumber : Nat)
  | checksumMismatch (lineNumber : Nat)
  deriving DecidableEq

def claims : PyValue → Option String → Bool
  | .str text, some checksum => decide (text = checksum)
  | _, _ => false

/-- The entry of a parsed line, or `none` where its checksum does not match; a line
without a checksum is accepted as it is. -/
def verified : PyValue → Option PyValue
  | .dict entries =>
      match Dict.get? entries checksumKey with
      | none => some (.dict entries)
      | some claimed =>
          let withoutChecksum := entries.filter fun entry => decide (entry.1 ≠ checksumKey)
          if claims claimed (entryChecksum withoutChecksum) then some (.dict withoutChecksum)
          else none
  | parsed => some parsed

/-- The lines from the numbered one on.  A line is the last one with content where
every later line is blank. -/
def readEntries : Nat → List Text → Except MalformedRegistryLogError (List PyValue)
  | _, [] => .ok []
  | lineNumber, line :: later =>
      let isLastContentLine := later.all fun other => decide (other = [])
      if line = [] then readEntries (lineNumber + 1) later
      else
        match Json.parse line with
        -- No line that is written has the integer for which `loads` raises another error.
        | none => if isLastContentLine then .ok [] else .error (.notJson lineNumber)
        | some tree =>
            match verified (PyValue.ofJson tree) with
            | none =>
                if isLastContentLine then .ok [] else .error (.checksumMismatch lineNumber)
            | some entry => (readEntries (lineNumber + 1) later).map (entry :: ·)

def readAll (file : Text) : Except MalformedRegistryLogError (List PyValue) :=
  readEntries 1 ((readLines (universalNewlines file)).map strip)

end TurtleExecution.Registry
