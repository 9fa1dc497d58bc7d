import FormLease.Text.Quoted

/-!
# Settings faults

What can be wrong with the settings a process is started with. A fault
about one value names the key it was found under and, when known, the
source that gave it.
-/

namespace FormLease

inductive SettingsFault where
  | plain (text : String)
  | missing (field : String)
  | frozen
  /-- A source that cannot be read as a document. -/
  | unreadable (source : String)
  /-- A value of the wrong type. -/
  | mistyped (found expected key : String) (origin : Option String)
  /-- A value that its section refuses. -/
  | refused (text key : String)
  deriving DecidableEq

namespace SettingsFault

def message : SettingsFault → String
  | plain text => text
  | missing field => "missing configuration field " ++ Text.quoted field
  | frozen => "configuration is frozen"
  | unreadable source => "unreadable settings in " ++ source
  | mistyped found expected key origin =>
    "invalid type: " ++ found ++ ", expected " ++ expected ++ " for key `" ++ key ++ "`"
      ++ (match origin with
        | some o => " in " ++ o
        | none => "")
  | refused text key => text ++ " for key `" ++ key ++ "`"

end SettingsFault

end FormLease
