import RemoteExec.Environment
import RemoteExec.Files.FileSystem
import RemoteExec.Log
import RemoteExec.Text.Lowercase

namespace RemoteExec

inductive KeyStatus where
  | verified
  | unknown
  | changed
deriving DecidableEq, Inhabited

structure KnownKey where
  pattern : String
  keyType : String
  key : String
deriving DecidableEq, Inhabited

structure KnownHosts where
  path : String
  keys : List KnownKey
  pending : List String
deriving Inhabited

namespace KnownHosts

def defaultPath? (env : Environment) : Option String :=
  env.home?.map fun home => Path.join (Path.join home ".ssh") "known_hosts"

def hostPattern (host : String) (port : Nat) : String :=
  let host := host.lowercase
  if port = 22 then host else "[" ++ host ++ "]:" ++ toString port

def readLine (line : List Char) : List KnownKey :=
  match Text.words line with
  | names :: keyType :: key :: _ =>
    if names.head? == some '#' || names.head? == some '@' then []
    else ((Text.splitOn ',' names).filter fun n => n.head? != some '|').map fun n =>
      ⟨String.ofList (Text.lower n), String.ofList keyType, String.ofList key⟩
  | _ => []

def readKeys (content : String) : List KnownKey := (Text.lines content.toList).flatMap readLine

def load (fs : FileSystem) (path : String) : Except Failure KnownHosts × List Event :=
  if fs.exists? path then
    match fs.readText path with
    | .error e => (.error (.io e), [])
    | .ok content =>
      let keys := readKeys content
      (.ok ⟨path, keys, []⟩,
        [⟨.info, "Loaded " ++ toString keys.length ++ " known host entries from " ++ path⟩])
  else (.ok ⟨path, [], []⟩, [⟨.debug, "Known hosts file " ++ path ++ " does not exist yet"⟩])

-- What the store says of a key. One match outweighs any number of other keys.
def status (store : KnownHosts) (host : String) (port : Nat) (keyType key : String) : KeyStatus :=
  let same := store.keys.filter fun k => k.pattern == hostPattern host port && k.keyType == keyType
  if same.any (·.key == key) then .verified
  else if same.isEmpty then .unknown
  else .changed

def check (store : KnownHosts) (host : String) (port : Nat) (keyType key : String) : KeyStatus × List Event :=
  match store.status host port keyType key with
  | .changed => (.changed, [⟨.warn, "HOST KEY CHANGED for " ++ hostPattern host port ++ " (type: " ++ keyType ++ ")"⟩])
  | s => (s, [])

def add (store : KnownHosts) (host : String) (port : Nat) (keyType key : String) : KnownHosts × List Event :=
  let (s, events) := store.check host port keyType key
  if s = .verified then (store, events)
  else
    let pattern := hostPattern host port
    ({ store with
        keys := store.keys ++ [⟨pattern, keyType, key⟩]
        pending := store.pending ++ [pattern ++ " " ++ keyType ++ " " ++ key] }, events)

-- Appends the pending lines to the file. Once the file is open no line is pending any more, whether or not all of them
-- get into it. A failure comes with the store and the files as they are then.
def save (store : KnownHosts) (fs : FileSystem) :
    Except (Failure × KnownHosts × FileSystem) (KnownHosts × FileSystem) × List Event :=
  if store.pending.isEmpty then (.ok (store, fs), [])
  else
    match fs.createParents store.path with
    | .error (e, fs) => (.error (.io e, store, fs), [])
    | .ok fs =>
      match fs.openAppend store.path with
      | .error e => (.error (.io e, store, fs), [])
      | .ok (place, fs) =>
        let drained := { store with pending := [] }
        match fs.appendLines place store.pending with
        | .error (e, fs) => (.error (.io e, drained, fs), [])
        | .ok fs => (.ok (drained, fs), [⟨.info, "Updated known hosts file " ++ store.path⟩])

structure Entry where
  host : String
  port : Nat
  keyType : String
  key : String

inductive Use where
  | add (e : Entry)
  | check (e : Entry)
  | save

inductive Answer where
  | done
  | found (status : KeyStatus)
  | failed (e : Failure)
deriving DecidableEq, Inhabited

end KnownHosts

structure FiledHosts where
  store : KnownHosts
  files : FileSystem

namespace FiledHosts

open KnownHosts

def use (f : FiledHosts) : Use → Answer × List Event × FiledHosts
  | .add e =>
    let (store, events) := f.store.add e.host e.port e.keyType e.key
    (.done, events, { f with store := store })
  | .check e =>
    let (status, events) := f.store.check e.host e.port e.keyType e.key
    (.found status, events, f)
  | .save =>
    match f.store.save f.files with
    | (.ok (store, files), events) => (.done, events, ⟨store, files⟩)
    | (.error (e, store, files), events) => (.failed e, events, ⟨store, files⟩)

-- What each file takes may be another matter at any time.
def under (f : FiledHosts) (limits : List (Place × Limit)) : FiledHosts :=
  { f with files := { f.files with limits := limits } }

def after (f : FiledHosts) (run : List (List (Place × Limit) × Use)) : FiledHosts :=
  run.foldl (fun f u => ((f.under u.1).use u.2).2.2) f

end FiledHosts
end RemoteExec
