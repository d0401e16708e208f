import TopicPlan.Command.Report

/-!
The command line. Topics and schemas are provisioned in a rehearsal: on a cluster without topics,
and with a registry that takes every schema.
-/

namespace TopicPlan.Command

def readFile (path : String) : IO (Option (List UInt8)) := do
  try
    let bytes ← IO.FS.readBinFile path
    return some bytes.toList
  catch _ => return none

def printTable (table : Table) : IO Unit := do
  IO.println (Text.plain table.title)
  for row in table.columns :: table.rows do
    IO.println (Text.plain ("\t".intercalate row))

def printLine : Printed → IO Unit
  | .line text => IO.println (Text.plain text)
  | .table table => printTable table

def printRemark : Remark → IO Unit
  | .line text => IO.eprintln (Text.plain text)
  | .notice notice => IO.eprintln (Text.plain notice.message)

end TopicPlan.Command

section

open TopicPlan TopicPlan.Command

def main (arguments : List String) : IO UInt32 := do
  let servers := (← IO.getEnv Reading.serversVariable).map Text.held
  let registry := (← IO.getEnv Reading.registryVariable).map Text.held
  let environment (name : String) : Option String :=
    if name = Reading.serversVariable then servers
    else if name = Reading.registryVariable then registry
    else none
  match Reading.ofArguments environment (arguments.map Text.held) with
  | .unusable => return 2
  | .help => return 0
  | .version =>
    IO.print versionText
    return 0
  | .invocation invocation =>
    let bytes ← readFile (Text.plain invocation.file)
    let report := invocation.report ⟨invocation.file, bytes⟩ ⟨[], []⟩ ⟨[], 0⟩
    report.printed.forM printLine
    (report.shown invocation.verbose).forM printRemark
    return UInt32.ofNat report.exit

end
