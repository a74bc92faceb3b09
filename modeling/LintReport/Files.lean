namespace LintReport

inductive FileError
  | missing
  | noDevice
  | notDirectory
  | isDirectory
  | busy
  | noSpace
  | nameTooLong
  -- The file does not hold UTF-8.
  | notText
  | other (text : String)
deriving DecidableEq, Repr

def FileError.message : FileError → String
  | missing      => "No such file or directory (os error 2)"
  | noDevice     => "No such device or address (os error 6)"
  | notDirectory => "Not a directory (os error 20)"
  | isDirectory  => "Is a directory (os error 21)"
  | busy         => "Text file busy (os error 26)"
  | noSpace      => "No space left on device (os error 28)"
  | nameTooLong  => "File name too long (os error 36)"
  | notText      => "stream did not contain valid UTF-8"
  | other text   => text

def decodeText (bytes : ByteArray) : Except FileError String :=
  match String.fromUTF8? bytes with
  | some s => .ok s
  | none   => .error .notText

inductive Sink
  | takes
  | closed (error : FileError)
  | full (error : FileError)

inductive Node
  | file (content : ByteArray)
  -- A file whose content stays as it is.
  | device (content : Except FileError ByteArray) (sink : Sink)
  -- A directory that is fixed takes no other files.
  | directory (fixed : Bool)
  -- Another name of a place, which is no link.
  | link (place : List String)

-- What stands in a system of files, each thing under the names that lead to it from the root. A
-- directory that something else needs is there without being listed.
structure Files where
  start : List String
  nodes : List (List String × Node)

namespace Files

def process (name : String) : List String :=
  ["proc", "self", name]

def stream (number : String) : List String :=
  process "fd" ++ [number]

def common : List (List String × Node) :=
  devices ++ processes ++ directories
where
  devices : List (List String × Node) := [
    (["dev", "null"], .device (.ok .empty) .takes),
    (["dev", "full"], .device (.ok .empty) (.full .noSpace)),
    (["dev", "tty"], .device (.error .noDevice) (.closed .noDevice)),
    (["dev", "fd"], .link (process "fd")),
    (["dev", "stdin"], .link (stream "0")),
    (["dev", "stdout"], .link (stream "1")),
    (["dev", "stderr"], .link (stream "2")),
    (["dev", "pts"], .directory true),
    (["dev", "shm"], .directory false)]
  processes : List (List String × Node) := [
    (["proc"], .directory true),
    (["proc", "thread-self"], .link ["proc", "self"]),
    (["proc", "self"], .directory true),
    (process "root", .link []),
    (process "exe", .device (.error .notText) (.closed .busy)),
    (process "fd", .directory true),
    (stream "0", .device (.ok .empty) .takes),
    (stream "1", .file .empty),
    (stream "2", .file .empty)]
  directories : List (List String × Node) :=
    ["bin", "boot", "etc", "home", "lib", "media", "mnt", "opt", "root", "run", "sbin", "srv", "sys",
     "tmp", "usr", "var"].map fun name => ([name], .directory false)

-- A directory with files in it, in a system that holds little else. Its own name holds a slash, so that
-- paths lead there from where they start and by no name.
def ofDirectory (files : List (List String × ByteArray)) : Files :=
  let start := ["tmp", "/"]
  { start
    nodes := common ++ (process "cwd", .link start) ::
      files.map fun (names, content) => (start ++ names, .file content) }

def node? (fs : Files) (place : List String) : Option Node :=
  match fs.nodes.lookup place with
  | some n => some n
  | none   =>
    if place.isPrefixOf fs.start ∨ fs.nodes.any (fun n => place.isPrefixOf n.1) then
      some (.directory false)
    else
      none

def follow (fs : Files) (place : List String) : List String :=
  match fs.nodes.lookup place with
  | some (.link place') => place'
  | _                   => place

def step (fs : Files) (place : List String) (name : String) : Except FileError (List String) :=
  match fs.node? place with
  | none                => .error .missing
  | some (.directory _) =>
    if name = "" ∨ name = "." then .ok place
    else if name = ".." then .ok place.dropLast
    else if 255 < name.utf8ByteSize then .error .nameTooLong
    else .ok (fs.follow (place ++ [name]))
  | some _              => .error .notDirectory

def maxPath : Nat := 4095

def walk (fs : Files) (path : String) (steps : List String) : Except FileError (List String) :=
  if maxPath < path.utf8ByteSize then .error .nameTooLong
  else if path = "" then .error .missing
  else steps.foldlM fs.step (if path.startsWith "/" then [] else fs.start)

def source (fs : Files) (path : String) : Except FileError (List String) :=
  fs.walk path (path.splitOn "/")

def present (fs : Files) (path : String) : Bool :=
  match fs.source path with
  | .ok place => (fs.node? place).isSome
  | .error _  => false

def read (fs : Files) (path : String) : Except FileError ByteArray := do
  match fs.node? (← fs.source path) with
  | some (.file content)     => return content
  | some (.device content _) => content
  | some (.directory _)      => throw .isDirectory
  | some (.link _) | none    => throw .missing

def leadsToInput (fs : Files) (path : String) : Bool :=
  match fs.source path with
  | .ok place => place == stream "0"
  | .error _  => false

-- The place of a file that is to be opened for writing. A slash at the end of the path means a
-- directory, whatever the last name is.
def target (fs : Files) (path : String) : Except FileError (List String) := do
  let names := (path.splitOn "/").reverse.dropWhile (· = "")
  let parent ← fs.walk path (names.drop 1).reverse
  let parent ← fs.step parent ""
  if path.endsWith "/" then
    throw .isDirectory
  let place ← fs.step parent (names.headD "")
  match fs.node? place, fs.node? parent with
  | some (.directory _),              _                      => throw .isDirectory
  | some (.device _ (.closed error)), _                      => throw error
  | none,                             some (.directory true) => throw .missing
  | _,                                _                      => return place

def opens (fs : Files) (path : String) : Except FileError Unit :=
  (fs.target path).map fun _ => ()

def writes (fs : Files) (path text : String) : Except (Nat × FileError) Unit :=
  match (fs.target path).map fs.node? with
  | .ok (some (.device _ (.full error))) => if text = "" then .ok () else .error (0, error)
  | _                                    => .ok ()

def put (fs : Files) (path : String) (content : ByteArray) : Except FileError Files := do
  let place ← fs.target path
  match fs.node? place with
  | some (.device ..) => return fs
  | _                 =>
    return { fs with nodes := (place, .file content) :: fs.nodes.filter (·.1 ≠ place) }

def holds (fs : Files) (place : List String) (content : ByteArray) : Bool :=
  match fs.nodes.lookup place with
  | some (.file content') => content' == content
  | _                     => false

def changes (fs before : Files) : List (List String × ByteArray) :=
  fs.nodes.filterMap fun (place, n) =>
    match n with
    | .file content =>
      if fs.start.isPrefixOf place && !before.holds place content then
        some (place.drop fs.start.length, content)
      else
        none
    | _             => none

end Files

end LintReport
