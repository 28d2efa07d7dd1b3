import Gatehouse.Settings.Audit
import Gatehouse.Settings.Decode
import Gatehouse.Text.Utf8
import Gatehouse.Toml.Document

/-!
# Loading settings

Settings are read from the text of a file and are accepted only if the audit finds no fault.
-/

namespace Gatehouse

inductive LoadError where
  | missing
  | notText
  /-- The text is not TOML, or its values do not fit the settings. -/
  | malformed
  /-- The audit found faults. -/
  | faulty (faults : List Fault)
  deriving DecidableEq, Repr

def LoadError.message : LoadError → String
  | .missing => "IO error: no such file"
  | .notText => "IO error: stream did not contain valid UTF-8"
  | .malformed => "Parse error: no settings in TOML"
  | .faulty faults => "Validation failed: " ++ ", ".intercalate (faults.map Fault.message)

namespace Settings

def audited (s : Settings) : Except LoadError Settings :=
  if s.faults = [] then .ok s else .error (.faulty s.faults)

def read (text : String) : Except LoadError Settings :=
  match (Toml.parse? text).bind decode? with
  | none => .error .malformed
  | some settings => settings.audited

/-- Reads settings from the bytes of a file, if there is one. -/
def load : Option (List UInt8) → Except LoadError Settings
  | none => .error .missing
  | some bytes =>
    match Text.ofUtf8? bytes with
    | none => .error .notText
    | some text => read text

end Settings

end Gatehouse
