/-!
What can go wrong between a configuration document and a schema fit for use.
-/

namespace TagQuery

inductive ConfigFault where
  | unreadable (path reason : String)
  | unparsable (reason : String)
  | invalidIdentifier (setting value : String)
  | noEntityColumns
deriving DecidableEq, Repr

def ConfigFault.message : ConfigFault → String
  | .unreadable path reason => "failed to read config file '" ++ path ++ "': " ++ reason
  | .unparsable reason => "failed to parse config: " ++ reason
  | .invalidIdentifier setting value =>
    "invalid sql identifier for " ++ setting ++ ": '" ++ value ++ "'"
  | .noEntityColumns => "entity table must select at least one column"

end TagQuery
