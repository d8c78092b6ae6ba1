import RemoteExec.HostKeys.KnownHosts
import RemoteExec.HostKeys.Policy
import RemoteExec.Keys.PublicKey

namespace RemoteExec

structure Gate where
  host : String
  port : Nat
  checking : Bool
  policy : KeyPolicy
  store : KnownHosts
  trusted : List HostKey
deriving Inhabited

namespace Gate

def verify (g : Gate) (key : HostKey) (operator : Prompter) :
    Except Failure Unit × Gate × Prompter × List Event :=
  let (outcome, operator, events) := g.policy.verify key operator
  match outcome with
  | .ok () => (.ok (), { g with trusted := g.trusted ++ [key] }, operator, events)
  | .error e => (.error e, g, operator, events)

def check (g : Gate) (key : PublicKey) (operator : Prompter) :
    Except Failure Unit × Gate × Prompter × List Event :=
  if !g.checking then
    (.ok (), g, operator, [⟨.debug, "Host key checking disabled, accepting key for " ++ g.host⟩])
  else
    let shown := key.hostKey g.host g.port "host key is unknown"
    let (status, events) := g.store.check g.host g.port shown.keyType shown.publicKey
    match status with
    | .verified =>
      (.ok (), g, operator, events ++ [⟨.info, "Host key verified for " ++ g.host ++ ":" ++ toString g.port⟩])
    | .changed =>
      (.error (shown.rejected "host key has changed; possible man-in-the-middle attack"), g, operator, events)
    | .unknown =>
      let (outcome, g, operator, more) := g.verify shown operator
      (outcome, g, operator, events ++ more)

def recorded (g : Gate) : KnownHosts × List Event :=
  g.trusted.foldl (fun (done : KnownHosts × List Event) k =>
    let (store, events) := done.1.add k.hostname k.port k.keyType k.publicKey
    (store, done.2 ++ events)) (g.store, [])

-- Writes the trusted keys to the store's file, if any key was trusted and checked at all. A failure comes with the
-- files as they are then.
def persist (g : Gate) (fs : FileSystem) : Except (Failure × FileSystem) FileSystem × Gate × List Event :=
  if !g.policy.checking || g.trusted.isEmpty then (.ok fs, g, [])
  else
    let (store, events) := g.recorded
    match store.save fs with
    | (.error (e, store, fs), more) => (.error (e, fs), { g with store := store }, events ++ more)
    | (.ok (store, fs), more) =>
      (.ok fs, { g with store := store },
        events ++ more ++ [⟨.info, "Saved " ++ toString g.trusted.length ++ " host key(s) to " ++ store.path⟩])

end Gate
end RemoteExec
