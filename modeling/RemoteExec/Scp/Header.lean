import RemoteExec.Decimal.Reader
import RemoteExec.Failure
import RemoteExec.Files.Path
import RemoteExec.Text.Blank

namespace RemoteExec.Scp

def headerSize (line : String) : Except IoError Nat :=
  match line.toList with
  | 'C' :: rest =>
    match Text.words rest with
    | _ :: size :: _ =>
      match Decimal.readNat? Decimal.largest64 size with
      | some n => .ok n
      | none => .error (.ofText ("invalid SCP header: " ++ line.trimBlanksRight))
    | _ => .error (.ofText ("invalid SCP header: " ++ line.trimBlanksRight))
  | _ => .error (.ofText ("unexpected SCP header: " ++ line.trimBlanksRight))

def octal (n : Nat) : String :=
  let ds := Nat.toDigits 8 n
  String.ofList (List.replicate (4 - ds.length) '0' ++ ds)

def headerLine (mode size : Nat) (remote : String) : String :=
  "C" ++ octal mode ++ " " ++ toString size ++ " " ++ (Path.fileName? remote).getD remote ++ "\n"

end RemoteExec.Scp
