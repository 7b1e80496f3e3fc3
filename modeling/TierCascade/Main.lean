import TierCascade.Console.Program
/-!
# The console program

Takes the arguments, the environment and the file that is asked for from outside, and shows what
`Console.runProgram` makes of them. There is no network here, so an agent that is asked never
answers.
-/

section

open TierCascade TierCascade.Console

def readFile? (path : String) : IO (Option (List UInt8)) := do
  try return some (← IO.FS.readBinFile path).toList
  catch _ => return none

def siteOf (arguments : List String) : IO Console.Site := do
  let address ← IO.getEnv "CASCADE_API_URL"
  let path? := (Call.ofArguments arguments).toOption.bind Call.path?
  let content ← match path? with
    | some path => readFile? path
    | none => pure none
  return { address, file := fun _ => content, agent := fun _ => .unsent }

def main (arguments : List String) : IO UInt32 := do
  let ink := Ink.wished (← IO.getEnv "CLICOLOR_FORCE")
  let ending := runProgram ink (← siteOf arguments) arguments
  IO.print ending.display.text
  match ending.display.complaint with
  | some complaint =>
    IO.eprintln (if ending.code = 1 then complaintText complaint else complaint.context)
  | none => pure ()
  return ending.code.toUInt32

end
