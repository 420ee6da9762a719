namespace LinkedControls

inductive SyncError
  | groupNotFound (id : String)
  | ruleNotFound (id : String)
  | conflictNotFound (id : String)
  | notAMember (group control : String)
  | invalidGroup (id message : String)
  | repository (message : String)
deriving DecidableEq, Repr

namespace SyncError

def message : SyncError → String
  | .groupNotFound id => "Sync group not found: " ++ id
  | .ruleNotFound id => "Sync rule not found: " ++ id
  | .conflictNotFound id => "Sync conflict not found: " ++ id
  | .notAMember group control => "Control " ++ control ++ " is not a member of group " ++ group
  | .invalidGroup id message => "Invalid sync group " ++ id ++ ": " ++ message
  | .repository message => "Sync repository error: " ++ message

def isNotFound : SyncError → Bool
  | .groupNotFound _ => true
  | .ruleNotFound _ => true
  | .conflictNotFound _ => true
  | _ => false

end SyncError

end LinkedControls
