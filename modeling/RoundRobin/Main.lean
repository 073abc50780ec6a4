import RoundRobin.Demo.Command

/-- Runs the demonstration with the arguments of the command line. -/
def main (args : List String) : IO UInt32 := do
  let printed := RoundRobin.Demo.command args
  IO.print printed.output
  for notice in printed.notices do
    IO.eprintln notice.render
  return printed.status.toUInt32
