import Syslog.Document.Values
import Syslog.Message
import Syslog.Names

/-!
# Messages in documents

A message is read from a table of its fields, each of which may be missing. Facility, severity and
charset are given by name or number, and a time by the seconds since the start of 1970 and
nanoseconds.
-/

namespace Syslog

/-- Reads a name. -/
def decodeName {α : Type} (read : String → Except NameError α) : Decoder α := fun d => do
  match read (← Decode.text d) with
  | .ok a => return a
  | .error e => throw (.badName e)

instance : FromDocument Facility := ⟨decodeName Facility.read⟩
instance : FromDocument Severity := ⟨decodeName Severity.read⟩
instance : FromDocument Charset := ⟨decodeName Charset.read⟩

instance : FromDocument Time.DateTime where
  decoder d := do
    let (seconds, nanoseconds) : Int × Nat ← FromDocument.decoder d
    match Time.DateTime.ofUnix? seconds nanoseconds with
    | some t => return t
    | none => throw (.refused "timestamp out of range")

instance : FromDocument Message where
  decoder d := do
    return {
      facility := ← d.readD "facility" .user
      severity := ← d.readD "severity" .info
      timestamp := ← d.read? "timestamp"
      host := ← d.read? "host"
      ident := ← d.read? "ident"
      body := ← d.readD "body" ""
      appName := ← d.read? "app_name"
      procId := ← d.read? "proc_id"
      msgId := ← d.read? "msg_id"
      structuredData := .ofList (← d.readD "sd" []) }

end Syslog
