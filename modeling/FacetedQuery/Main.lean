import FacetedQuery.CommandLine.Program

/-!
# The executable

Reads the file of the portal, if the arguments name one, and prints what the program leaves behind.
-/

open FacetedQuery CommandLine

/-- The path of the file that describes the portal. -/
def portalPath? (arguments : List String) : Option String :=
  match readInvocation arguments with
  | .ok invocation => invocation.portal
  | .error _ => none

/-- The content of a file, if it can be read. -/
def contentOf (path : String) : IO (Option String) := do
  try
    return some (← IO.FS.readFile path)
  catch _ =>
    return none

def main (arguments : List String) : IO UInt32 := do
  let content ← match portalPath? arguments with
    | some path => contentOf path
    | none => pure none
  let result := output (fun _ => content) offline arguments
  IO.print result.stdout
  if let some message := result.fault then
    IO.eprintln ("Error: " ++ message)
  return UInt32.ofNat result.status
