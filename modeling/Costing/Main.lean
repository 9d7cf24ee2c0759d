import Costing.Command.Run

/-!
# Main

The command line.  The files that a command may read are read before it runs, and what it delivers is
written after.
-/

namespace Costing

/-- The contents of a file, if it can be read. -/
def readFile? (path : String) : IO (Option String) := do
  try return some (← IO.FS.readFile path) catch _ => return none

/-- Writes a file and tells whether that was possible. -/
def deliver (d : Delivery) : IO Bool := do
  try
    IO.FS.writeFile d.path d.text
    return true
  catch _ => return false

/-- The file that a command reads. -/
def Command.source? : Command → Option String
  | .evaluate _ (some _) _ => none
  | .evaluate _ none contextFile => contextFile
  | .validate path => some path
  | .calculate path _ _ _ => some path

/-- Prints a reply and gives its exit code. -/
def Reply.print (r : Reply) : IO UInt32 := do
  IO.print r.output
  IO.eprint r.errors
  return r.code.toUInt32

/-- Runs a command. -/
def Command.execute (c : Command) : IO UInt32 := do
  let contents ←
    match c.source? with
    | some path => readFile? path
    | none => pure none
  match c.run fun _ => contents with
  | (reply, none) => reply.print
  | (reply, some delivery) =>
    let _ ← reply.print
    (delivery.reply (← deliver delivery)).print

end Costing

/-- Runs the command of a command line. -/
def main (args : List String) : IO UInt32 :=
  match Costing.Command.ofArguments? args with
  | some command => command.execute
  | none => Costing.Command.misuse.print
