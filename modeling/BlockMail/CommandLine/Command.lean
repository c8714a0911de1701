import BlockMail.CommandLine.Switch

/-! # Commands

What the program can be told to do, and how that is written on a command line.
-/

namespace BlockMail.CommandLine

/-- What the program is told to do. -/
inductive Command where
  /-- Render a document, into a folder if there is one. -/
  | render (input : String) (folder : Option String) (preview : Bool)
  /-- Fill in the placeholders of a text. -/
  | resolve (template : String) (data : Option String)
  /-- Send a document to a recipient. -/
  | send (input recipient : String) (templateId workflowExecutionId : Option String)
  deriving DecidableEq, Repr, Inhabited

/-- The commands by name. -/
inductive CommandName where
  | render
  | resolve
  | send
  | help
  deriving DecidableEq, Repr, Inhabited

namespace CommandName

/-- The command that a word names. -/
def ofText? : String → Option CommandName
  | "render" => some .render
  | "resolve" => some .resolve
  | "send" => some .send
  | "help" => some .help
  | _ => none

/-- The switch that asks for help. -/
def helpSwitch : Switch := { name := "help", letter := some 'h', kind := .help }

/-- The switches of a command. -/
def switches : CommandName → List Switch
  | .render =>
    [ { name := "input", letter := some 'i', kind := .path, required := true },
      { name := "out-dir", letter := some 'o', kind := .path },
      { name := "preview", kind := .flag },
      helpSwitch ]
  | .resolve =>
    [ { name := "template", letter := some 't', kind := .text, required := true },
      { name := "data", letter := some 'd', kind := .path },
      helpSwitch ]
  | .send =>
    [ { name := "input", letter := some 'i', kind := .path, required := true },
      { name := "to", kind := .text, required := true },
      { name := "template-id", kind := .text },
      { name := "workflow-execution-id", kind := .text },
      helpSwitch ]
  | .help => []

/-- The command with the values of its switches. -/
def command (bound : Dict String) : CommandName → Except Fault Command
  | .render =>
    .ok (.render ((bound.get? "input").getD "") (bound.get? "out-dir")
      (bound.get? "preview").isSome)
  | .resolve => .ok (.resolve ((bound.get? "template").getD "") (bound.get? "data"))
  | .send =>
    .ok (.send ((bound.get? "input").getD "") ((bound.get? "to").getD "")
      (bound.get? "template-id") (bound.get? "workflow-execution-id"))
  | .help => .error .help

end CommandName

/-- The switches that come before a command. -/
def programSwitches : List Switch :=
  [CommandName.helpSwitch, { name := "version", letter := some 'V', kind := .version }]

/-- Reads what follows the word `help`: nothing, or the name of one command. -/
def readHelp : List String → Fault
  | [] => .help
  | [w] => if (CommandName.ofText? w).isSome then .help else .unknownCommand
  | _ => .unknownCommand

/-- Reads what follows two dashes where a command should be. -/
def readAfterTerminator : List String → Fault
  | [] => .helpInstead
  | w :: _ => if (CommandName.ofText? w).isSome then .unknownArgument else .unknownCommand

def Command.read (p : Progress) : List String → Except Fault Command
  | [] => .error .helpInstead
  | w :: ws =>
    match CommandName.ofText? w with
    | some .help => .error (readHelp ws)
    | some name =>
      match readSwitches name.switches {} ws with
      | .ok bound => name.command bound
      | .error e => .error e
    | none =>
      match Word.ofText w with
      | .terminator => .error (readAfterTerminator ws)
      | .plain => .error .unknownCommand
      | _ =>
        match p.read programSwitches w with
        | .ok p => Command.read p ws
        | .error e => .error e

/-- The command that the words of a command line give. -/
def Command.ofWords (words : List String) : Except Fault Command := Command.read {} words

end BlockMail.CommandLine
