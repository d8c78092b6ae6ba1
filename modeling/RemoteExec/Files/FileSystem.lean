import RemoteExec.Bytes
import RemoteExec.Failure
import RemoteExec.Files.Path

namespace RemoteExec

inductive Node where
  | file (content : Bytes) (mode : Nat)
  | dir (mode : Nat)
deriving DecidableEq, Inhabited

abbrev Place := List String

-- How far a file can be appended to, and what refuses the rest.
structure Limit where
  size : Nat
  refusal : IoError
deriving Inhabited

structure FileSystem where
  nodes : List (Place × Node)
  workDir : Place
  limits : List (Place × Limit)
deriving Inhabited

namespace FileSystem

def dirMode : Nat := 0o755

def fileMode : Nat := 0o644

-- What every process finds. The setting among it takes nothing but a number.
def empty : FileSystem where
  nodes := (["proc", "self", "oom_score_adj"], .file [48, 10] fileMode) ::
    [[], ["home"], ["proc"], ["proc", "self"], ["root"], ["tmp"], ["tmp", "work"]].map fun p => (p, .dir dirMode)
  workDir := ["tmp", "work"]
  limits := [(["proc", "self", "oom_score_adj"], ⟨0, .invalidArgument⟩)]

def nodeAt? (fs : FileSystem) (place : Place) : Option Node :=
  (fs.nodes.find? fun n => n.1 == place).map (·.2)

def put (fs : FileSystem) (place : Place) (node : Node) : FileSystem :=
  { fs with nodes := (place, node) :: fs.nodes.filter fun n => n.1 != place }

def enter (fs : FileSystem) (place : Place) : Except IoError Place :=
  match fs.nodeAt? place with
  | some (.dir _) => .ok place
  | some (.file _ _) => .error .notADirectory
  | none => .error .notFound

def follow (fs : FileSystem) (place : Place) : List String → Except IoError Place
  | [] => .ok place
  | step :: rest => do
    let here ← fs.enter place
    if step == "" || step == "." then fs.follow here rest
    else if step == ".." then fs.follow here.dropLast rest
    else fs.follow (here ++ [step]) rest

def locate (fs : FileSystem) (path : String) : Except IoError Place :=
  if path.isEmpty then .error .notFound
  else if path.toList.contains '\x00' then
    .error ⟨.invalidInput, "file name contained an unexpected NUL byte"⟩
  else fs.follow (if Path.isAbsolute path then [] else fs.workDir) (Path.pieces path)

def node (fs : FileSystem) (path : String) : Except IoError Node := do
  let place ← fs.locate path
  match fs.nodeAt? place with
  | some n => .ok n
  | none => .error .notFound

def exists? (fs : FileSystem) (path : String) : Bool := (fs.node path).toOption.isSome

def isDir (fs : FileSystem) (path : String) : Bool :=
  match fs.node path with
  | .ok (.dir _) => true
  | _ => false

def read (fs : FileSystem) (path : String) : Except IoError Bytes := do
  match ← fs.node path with
  | .file content _ => .ok content
  | .dir _ => .error .isADirectory

def readText (fs : FileSystem) (path : String) : Except IoError String := do
  match (← fs.read path).toString? with
  | some s => .ok s
  | none => .error ⟨.invalidData, "stream did not contain valid UTF-8"⟩

def stat (fs : FileSystem) (path : String) : Except IoError (Nat × Nat) := do
  match ← fs.node path with
  | .file content mode => .ok (mode, content.length)
  | .dir mode => .ok (mode, 4096)

-- The path asks for a directory by a slash at its end, and nothing has its name.
def asksNewDir (fs : FileSystem) (path : String) : Bool :=
  let bare := String.ofList (path.toList.reverse.dropWhile (· == '/')).reverse
  bare != path && match fs.locate bare with
    | .ok place => (fs.nodeAt? place).isNone
    | .error _ => false

def update (fs : FileSystem) (path : String) (change : Bytes → Bytes) : Except IoError FileSystem := do
  if fs.asksNewDir path then throw .isADirectory
  let place ← fs.locate path
  match fs.nodeAt? place with
  | some (.file content mode) => .ok (fs.put place (.file (change content) mode))
  | some (.dir _) => .error .isADirectory
  | none => .ok (fs.put place (.file (change []) fileMode))

def write (fs : FileSystem) (path : String) (content : Bytes) : Except IoError FileSystem :=
  fs.update path fun _ => content

-- Opens a file at its end. An absent one is made, and stays whatever becomes of the writing.
def openAppend (fs : FileSystem) (path : String) : Except IoError (Place × FileSystem) := do
  let opened ← fs.update path id
  .ok (← opened.locate path, opened)

def appendAt (fs : FileSystem) (place : Place) (bytes : Bytes) : Except (IoError × FileSystem) FileSystem :=
  match fs.nodeAt? place with
  | some (.file content mode) =>
    match fs.limits.lookup place with
    | none => .ok (fs.put place (.file (content ++ bytes) mode))
    | some limit =>
      if content.length + bytes.length ≤ limit.size then .ok (fs.put place (.file (content ++ bytes) mode))
      else
        let taken := bytes.take (limit.size - content.length)
        .error (limit.refusal, fs.put place (.file (content ++ taken) mode))
  | _ => .error (.notFound, fs)

def appendLines (fs : FileSystem) (place : Place) : List String → Except (IoError × FileSystem) FileSystem
  | [] => .ok fs
  | line :: rest => do
    let fs ← fs.appendAt place (Bytes.ofString (line ++ "\n"))
    fs.appendLines place rest

def setMode (fs : FileSystem) (path : String) (mode : Nat) : Except IoError FileSystem := do
  let place ← fs.locate path
  match fs.nodeAt? place with
  | some (.file content _) => .ok (fs.put place (.file content mode))
  | some (.dir _) => .ok (fs.put place (.dir mode))
  | none => .error .notFound

def createDir (fs : FileSystem) (path : String) : Except IoError FileSystem := do
  let place ← fs.locate path
  match fs.nodeAt? place with
  | some _ => .error .alreadyExists
  | none => .ok (fs.put place (.dir dirMode))

-- Creates a directory and those above it; the steps come in reverse. A directory that is already there will do.
-- A failure comes with the tree as far as it was made.
def createDirs (fs : FileSystem) (absolute : Bool) : List String → Except (IoError × FileSystem) FileSystem
  | [] => .ok fs
  | step :: above =>
    let path := Path.ofSteps absolute (step :: above).reverse
    match fs.createDir path with
    | .ok made => .ok made
    | .error e =>
      if e.kind = .notFound then do
        let fs ← fs.createDirs absolute above
        match fs.createDir path with
        | .ok made => .ok made
        | .error e => if fs.isDir path then .ok fs else .error (e, fs)
      else if fs.isDir path then .ok fs
      else .error (e, fs)

def createParents (fs : FileSystem) (path : String) : Except (IoError × FileSystem) FileSystem :=
  fs.createDirs (Path.isAbsolute path) (Path.steps path).reverse.tail

def install (fs : FileSystem) (path : String) (content : Option Bytes) : FileSystem :=
  let fs := (fs.createParents path).toOption.getD fs
  let made := match content with
    | some b => fs.write path b
    | none => fs.createDir path
  made.toOption.getD fs

end FileSystem
end RemoteExec
