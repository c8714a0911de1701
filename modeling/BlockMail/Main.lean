import BlockMail.CommandLine.Run

/-! # The program

Reads the command line, carries the command out on the machine, and reports what
went wrong.  There is no transport for web requests, so a delivery ends with an
error of the provider.
-/

namespace BlockMail.CommandLine

/-- The variables that commands look at. -/
def variableNames : List String :=
  [ "APP_ENV", "MAIL_FROM_ADDRESS", "MAIL_DEFAULT_SENDER_NAME", "MAIL_UNSUBSCRIBE_ADDRESS",
    "MAIL_MAILER_NAME", "MAIL_DEFAULT_SUBJECT", "RESEND_API_KEY", "RESEND_API_URL" ]

/-- The environment of the process, as far as it is text. -/
def processEnvironment : BaseIO Environment := do
  let values ← variableNames.filterMapM fun name => do
    return (← IO.getEnv name).map fun value => (name, value)
  return fun name => values.lookup name

/-- Whether an action succeeds. -/
def succeeds (action : IO Unit) : BaseIO Bool := do
  match ← action.toBaseIO with
  | .ok () => return true
  | .error _ => return false

/-- The machine that the program runs on. -/
def machine (production : Bool) : Host IO where
  readText path := do
    match ← (IO.FS.readFile path).toBaseIO with
    | .ok text => return some text
    | .error _ => return none
  createFolder path := succeeds (IO.FS.createDirAll path)
  writeText path text := succeeds (IO.FS.writeFile path text)
  print text := IO.print text
  log event := IO.print (event.written production)
  post _ := return .error "no transport"

/-- What is printed when help is asked for. -/
def usage : String :=
  "\n".intercalate
    [ "Render and send block-based template emails",
      "",
      "Usage: blockmail <COMMAND>",
      "",
      "Commands:",
      "  render   Render a template document to HTML and plain text",
      "  resolve  Resolve placeholders in a single string",
      "  send     Render a template document and send it through Resend",
      "  help     Print this message",
      "" ]

/-- What is printed about a command line that cannot be carried out. -/
def Fault.report : Fault → String
  | .help | .helpInstead => usage
  | .version => "blockmail\n"
  | .unknownArgument => "error: unexpected argument\n"
  | .unknownCommand => "error: unrecognized subcommand\n"
  | .invalidValue => "error: a value is missing\n"
  | .repeated => "error: an argument cannot be used multiple times\n"
  | .needlessValue => "error: unexpected value\n"
  | .missingArgument => "error: a required argument was not provided\n"

/-- Carries out the command line. -/
def runWords (words : List String) : IO UInt32 := do
  match Command.ofWords words with
  | .error .help =>
    IO.print Fault.help.report
    return 0
  | .error .version =>
    IO.print Fault.version.report
    return 0
  | .error fault =>
    IO.eprint fault.report
    return 2
  | .ok command =>
    let env ← processEnvironment
    match ← (command.run (machine (isProduction env)) env).run with
    | .ok () => return 0
    | .error failure =>
      IO.eprintln ("Error: " ++ failure.message)
      match failure.cause? with
      | some cause => IO.eprintln ("Caused by: " ++ cause.message)
      | none => pure ()
      return 1

end BlockMail.CommandLine

def main (words : List String) : IO UInt32 :=
  BlockMail.CommandLine.runWords words
