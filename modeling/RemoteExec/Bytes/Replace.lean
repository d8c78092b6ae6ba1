import RemoteExec.Bytes

namespace RemoteExec.Bytes

-- `skip` bytes belong to a place that was found; `done` is backwards.
def replaceFrom (old new : Bytes) (skip : Nat) (done : Bytes) : Bytes → Bytes
  | [] => done.reverse
  | b :: rest =>
    if 0 < skip then replaceFrom old new (skip - 1) done rest
    else if old.isPrefixOf (b :: rest) then replaceFrom old new (old.length - 1) (new.reverse ++ done) rest
    else replaceFrom old new 0 (b :: done) rest

def replace (old new b : Bytes) : Bytes := if old.isEmpty then b else replaceFrom old new 0 [] b

end RemoteExec.Bytes
