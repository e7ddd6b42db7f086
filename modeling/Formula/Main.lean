import Formula.CommandLine

/-!
# The program

Runs a call of the command line: writes its output and its errors, and ends with its status. Words
that are not a call end with status 2.
-/

open Formula

/-- Answer one call. -/
def main (words : List String) : IO UInt32 := do
  match CommandLine.respond? words with
  | some response =>
    IO.print (Response.join response.output)
    IO.eprint (Response.join response.errors)
    return response.status.toUInt32
  | none =>
    IO.eprintln CommandLine.usage
    return 2
