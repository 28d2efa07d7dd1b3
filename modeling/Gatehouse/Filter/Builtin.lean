import Gatehouse.Filter.Guard
import Gatehouse.Filter.Screen
import Gatehouse.Settings.Schema

/-!
# Built-in filters

The filters that settings can define, each set up from the parameters of its definition.
-/

namespace Gatehouse

inductive BuiltinFilter where
  | guard (g : Guard)
  | screen (s : Screen)
  deriving DecidableEq, Repr

namespace BuiltinFilter

def ofDefinition (definition : FilterDefinition) : Except InitError BuiltinFilter :=
  let reader := InitReader.start definition.name definition.params definition.isStrict
  match definition.kind with
  | .csrfPrevention => do
    let options ← GuardOptions.read reader
    return .guard (← Guard.ofOptions definition.name options)
  | .failedRequest => do
    return .screen (← Screen.read reader)

instance : Filter BuiltinFilter where
  pass
    | .guard g => g.pass
    | .screen s => s.pass

end BuiltinFilter

end Gatehouse
