import FacetedQuery.CommandLine.Arguments
import FacetedQuery.Constraint.Document
import FacetedQuery.Json.Layout
import FacetedQuery.Portal.Document
import FacetedQuery.Portal.Manuscripts
import FacetedQuery.Portal.Validation
import FacetedQuery.Search

/-!
# The program

What the program prints for its arguments, given the file that describes the portal and the
executor of its queries.
-/

namespace FacetedQuery.CommandLine

/-- What the program leaves behind. -/
structure Output where
  status : Nat
  stdout : String
  /-- The message of the fault that ended the program. -/
  fault : Option String
deriving DecidableEq

namespace Output

/-- The output of a program that did what it was asked to do. -/
def success (text : String) : Output :=
  ⟨0, text, none⟩

def failure (message : String) : Output :=
  ⟨1, "", some message⟩

/-- The output for arguments that make no sense. -/
def usage : Output :=
  ⟨2, "", none⟩

end Output

/-- The name and the version of the program. -/
def versionLine : String :=
  "facet-search 0.1.0\n"

def usageText : String :=
  "Usage: facet-search [OPTIONS] <COMMAND>\n\nCommands: count, results, all, instance\n"

/-- The portal that an invocation works on. -/
def loadPortal (invocation : Invocation) (file : String → Option String) :
    Except String Portal :=
  match invocation.portal with
  | none =>
    match Manuscripts.portal.validate with
    | .ok () => .ok Manuscripts.portal
    | .error _ => .error "The built-in schema is invalid"
  | some path =>
    match file path with
    | none => .error ("Failed to open the schema file " ++ path)
    | some document =>
      match Portal.read document with
      | .error _ => .error ("Invalid schema file " ++ path)
      | .ok portal =>
        match portal.validate with
        | .ok () => .ok portal
        | .error _ => .error ("The schema file " ++ path ++ " is inconsistent")

def configOf (invocation : Invocation) : SearchConfig where
  endpoint := invocation.endpoint.getD SearchConfig.default.endpoint
  timeout := (invocation.timeout.map (· * 1000)).getD SearchConfig.default.timeout
  validates := true

/-- The constraints of an invocation. -/
def loadConstraints (invocation : Invocation) : Except String (Option ConstraintSet) :=
  match invocation.constraints with
  | none => .ok none
  | some document =>
    match ConstraintSet.read? document with
    | some constraints => .ok (some constraints)
    | none => .error "The --constraints option is not a valid constraints object"

/-- The request of a command. -/
def requestOf (constraints : Option ConstraintSet) : Command → Request
  | .count resultClass => .count resultClass constraints
  | .results resultClass page order => .resultSet resultClass constraints page order
  | .all resultClass facetClass groupBy => .listing resultClass facetClass constraints groupBy
  | .instance_ resultClass uri facetClass => .lookup resultClass facetClass constraints uri

/-- Serves a request, or shows its query in a dry run. -/
def answer (search : Search) (request : Request) (dryRun : Bool) : Except Fault String :=
  if dryRun then do
    let query ← search.assembler.assemble request
    return query.text ++ "\n"
  else do
    let response ← ((search.serve request).run .empty).1
    return response.indented ++ "\n"

/-- Carries out an invocation. -/
def carryOut (file : String → Option String) (executor : Executor) (invocation : Invocation) :
    Except String String := do
  let portal ← loadPortal invocation file
  let constraints ← loadConstraints invocation
  let search : Search := ⟨portal, configOf invocation, executor⟩
  (answer search (requestOf constraints invocation.command) invocation.dryRun).mapError
    Fault.message

/-- What the program prints. -/
def output (file : String → Option String) (executor : Executor) (arguments : List String) :
    Output :=
  match readInvocation arguments with
  | .error .usage => .usage
  | .error .help => .success usageText
  | .error .version => .success versionLine
  | .ok invocation =>
    match carryOut file executor invocation with
    | .ok text => .success text
    | .error message => .failure message

/-- The executor of a program without a connection. -/
def offline : Executor :=
  ⟨fun _ call => .error (.transport call.endpoint none)⟩

end FacetedQuery.CommandLine
