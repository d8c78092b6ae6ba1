import RemoteExec.Client.Server
import RemoteExec.Command.Result

namespace RemoteExec.Client

structure Channel where
  inbox : List Message
  ended : Bool
  pending : Bytes
  exitStatus : Option Nat
  eof : Bool
  closed : Bool
deriving DecidableEq, Inhabited

namespace Channel

def fresh : Channel := ⟨[], false, [], none, false, false⟩

def deliver (c : Channel) (ms : List Message) : Channel := { c with inbox := c.inbox ++ ms }

def note (c : Channel) : Message → Channel
  | .exitStatus n => { c with exitStatus := some n }
  | .eof => { c with eof := true }
  | .close => { c with eof := true, closed := true }
  | _ => c

def output : Message → Bytes × Bytes
  | .data b => (b, [])
  | .extended code b => if code = 1 then ([], b) else (b, [])
  | _ => ([], [])

def fill (c : Channel) : List Message → Channel
  | [] =>
    if !c.pending.isEmpty || c.eof then { c with inbox := [] }
    else if c.ended then { c with inbox := [], eof := true, closed := true }
    else { c with inbox := [] }
  | m :: rest =>
    if !c.pending.isEmpty || c.eof then { c with inbox := m :: rest }
    else
      let c := c.note m
      fill { c with pending := (output m).1 ++ (output m).2 } rest

-- At most `limit` bytes of output, none at its end; no answer while it may still come.
def receive (c : Channel) (limit : Nat) : Option Bytes × Channel :=
  let c := c.fill c.inbox
  if c.pending.isEmpty && !c.eof then (none, c)
  else (some (c.pending.take limit), { c with pending := c.pending.drop limit })

def drainFrom (c : Channel) : List Message → List Bytes → List Bytes → Channel × List Bytes × List Bytes
  | [], out, err =>
    ((if c.ended && !c.closed then { c with inbox := [], eof := true, closed := true } else { c with inbox := [] }),
      out, err)
  | m :: rest, out, err =>
    if c.closed then ({ c with inbox := m :: rest }, out, err)
    else drainFrom (c.note m) rest ((output m).1 :: out) ((output m).2 :: err)

def finish (c : Channel) : Option ChannelExit × Channel :=
  let (c', out, err) := drainFrom { c with pending := [] } c.inbox [c.pending] []
  let exit : ChannelExit := ⟨c'.exitStatus, out.reverse.flatten, err.reverse.flatten⟩
  if c'.closed then (some exit, c') else (none, c')

end Channel
end RemoteExec.Client
