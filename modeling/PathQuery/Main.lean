import PathQuery.Cli

def main (args : List String) : IO UInt32 := do
  let input ← if args.isEmpty then pure "" else (← IO.getStdin).readToEnd
  let outcome := PathQuery.Cli.run args input
  IO.print outcome.stdout
  IO.eprint outcome.stderr
  return outcome.status.toUInt32
