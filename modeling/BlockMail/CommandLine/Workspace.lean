import BlockMail.CommandLine.Run
import BlockMail.Text.Pieces

/-! # Commands in a closed workspace

A host that is a value: a folder of files, the text that was printed, the log, and a
web server that gives every request the same response.  Absolute paths lead to files
elsewhere.  Above the folder there are others, which are empty; what is written there
or elsewhere is not kept account of.
-/

namespace BlockMail.CommandLine

/-- A folder of files.  A path in it is a list of names; one that leaves the folder
    begins with `..`, as often as it goes up. -/
structure Folder where
  files : Dict ByteArray := ∅
  /-- Folders that were made, besides those that files are in. -/
  made : List (List String) := []

namespace Folder

/-- The name of a path in the list of files. -/
def nameOf (path : List String) : String := "/".intercalate path

/-- The names between slashes. -/
def names (path : String) : List String :=
  (Text.piecesAt (· == '/') path.toList).map String.ofList

/-- The path leads up and nowhere else. -/
def isAbove (path : List String) : Bool := path.all (· == "..")

/-- The longest name, in bytes. -/
def longestName : Nat := 255

/-- The longest path, in bytes. -/
def longestPath : Nat := 4095

/-- Whether a text can be a path in the folder. -/
def isPath (path : String) : Bool :=
  path.utf8ByteSize ≤ longestPath && !path.toList.contains '\x00'
    && (names path).all fun n => n.utf8ByteSize ≤ longestName

/-- Whether there is a folder at a path. -/
def isFolder (f : Folder) (path : List String) : Bool :=
  isAbove path || f.made.contains path
    || f.files.entries.any fun e =>
      path.isPrefixOf (names e.1) && path.length < (names e.1).length

/-- Where a name leads from a folder: nowhere from anything else. -/
def enter? (f : Folder) (path : List String) (name : String) : Option (List String) :=
  if f.isFolder path then
    if name = "" ∨ name = "." then some path
    else if name = ".." ∧ ¬isAbove path then some path.dropLast
    else some (path ++ [name])
  else none

/-- Where a path leads.  The last name need not be there. -/
def locate? (f : Folder) (path : String) : Option (List String) :=
  if isPath path then (names path).foldlM f.enter? [] else none

/-- The text in the file at a path. -/
def readText? (f : Folder) (path : String) : Option String := do
  let bytes ← f.files.get? (nameOf (← f.locate? path))
  String.fromUTF8? bytes

/-- Makes the folders that names lead to, unless they are there.  A folder that is
    named with a dot behind it is not made. -/
def makeAll (f : Folder) (path : List String) : List String → Option Folder
  | [] => some f
  | name :: rest => do
    let next ← f.enter? path name
    if f.isFolder next then makeAll f next rest
    -- a file stands where a folder is to be
    else if (f.files.get? (nameOf next)).isSome then none
    else if rest ≠ [] ∧ rest.all (· == ".") then none
    else makeAll { f with made := next :: f.made } next rest

/-- The folder after all folders of a path have been made. -/
def make? (f : Folder) (path : String) : Option Folder :=
  if isPath path then f.makeAll [] ((names path).filter (· != "")) else none

/-- The folder after a text has been written into the file at a path, and where
    that file is. -/
def writeText? (f : Folder) (path text : String) : Option (Folder × List String) := do
  let located ← f.locate? path
  if f.isFolder located then none
  else return ({ f with files := f.files.insert (nameOf located) text.toUTF8 }, located)

end Folder

/-- The surroundings of a command. -/
structure Workspace where
  folder : Folder := {}
  /-- The folder that absolute paths begin at. -/
  root : Folder := {}
  /-- Files that were written in the folder, with their texts. -/
  written : Dict String := ∅
  /-- What the command printed, without the lines of the log. -/
  output : String := ""
  log : List LogEvent := []
  /-- Requests that the web server received. -/
  requests : List Http.Request := []
  /-- What the web server answers, if there is one. -/
  response : Option Http.Response := none

namespace Workspace

def isAbsolute (path : String) : Bool := path.toList.head? == some '/'

/-- The folder that a path begins at. -/
def start (w : Workspace) (path : String) : Folder :=
  if isAbsolute path then w.root else w.folder

/-- The workspace after the folder that a path begins at has changed. -/
def withStart (w : Workspace) (path : String) (f : Folder) : Workspace :=
  if isAbsolute path then { w with root := f } else { w with folder := f }

/-- Takes note of a file that was written, if it is in the folder. -/
def note (w : Workspace) (path : String) (located : List String) (text : String) : Workspace :=
  if isAbsolute path ∨ located.head? = some ".." then w
  else { w with written := w.written.insert (Folder.nameOf located) text }

/-- The workspace as a host. -/
def host : Host (StateM Workspace) where
  readText path := fun w => ((w.start path).readText? path, w)
  createFolder path := fun w =>
    match (w.start path).make? path with
    | some folder => (true, w.withStart path folder)
    | none => (false, w)
  writeText path text := fun w =>
    match (w.start path).writeText? path text with
    | some (folder, located) => (true, (w.withStart path folder).note path located text)
    | none => (false, w)
  print text := fun w => ((), { w with output := w.output ++ text })
  log event := fun w => ((), { w with log := w.log ++ [event] })
  post request := fun w =>
    match w.response with
    | none => (.error "there is no server", w)
    | some response =>
      let answer :=
        match response.received? with
        | some r => .ok r
        | none => .error "there is no final response"
      -- the request was sent even if its answer is no use
      (answer, { w with requests := w.requests ++ [request] })

/-- Carries out a command in a workspace. -/
def run (w : Workspace) (env : Environment) (command : Command) :
    Except Failure Unit × Workspace :=
  command.run host env w

end Workspace

end BlockMail.CommandLine
