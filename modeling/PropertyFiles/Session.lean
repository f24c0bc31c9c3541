import PropertyFiles.Filter
import PropertyFiles.Store.Configurations
import PropertyFiles.Store.Files
/-!
# Sessions

A session works on several stores over one file tree. Stores are known by names; each action
addresses one of them, answers, and may report notices. A refused action leaves the stores as they
were, and also the tree, unless it is a save that was stopped while it wrote.
-/
namespace PropertyFiles

structure Session where
  tree : FileTree
  stores : OrderedMap String Store

/-- What can be asked of a session. Kinds are given by name. -/
inductive Action
  | load (folder kind : String)
  | create (folder kind : String)
  | merge (kind : String)
  | set (key : String) (value : Option RawText)
  | setTarget (hash : RawText)
  | get (key : String)
  | remove (key : String)
  | contains (key : String)
  | inspect
  | save
  | configurations
  | setConfigurations (configurations : Properties)
  | filter (filter : Filter)

inductive Reply
  | done
  | flag (value : Bool)
  | value (value : Option RawText)
  | properties (properties : Properties)
  | store (store : Store)
  | noStore

inductive Refusal
  | unknownKind (name : String)
  | store (error : StoreError)

structure Outcome where
  reply : Except Refusal Reply
  notices : List Notice := []
  session : Session

namespace Session

def start (tree : FileTree) : Session :=
  ⟨tree, OrderedMap.empty⟩

def keep (session : Session) (name : String) (store : Store) : Session :=
  { session with stores := session.stores.insert name store }

def answer (session : Session) (reply : Reply) : Outcome :=
  ⟨.ok reply, [], session⟩

def refuse (session : Session) (refusal : Refusal) : Outcome :=
  ⟨.error refusal, [], session⟩

def withKind (session : Session) (kind : String) (action : Kind → Outcome) : Outcome :=
  match Kind.ofName? kind with
  | some kind => action kind
  | none => session.refuse (.unknownKind kind)

def withStore (session : Session) (name : String) (action : Store → Outcome) : Outcome :=
  match session.stores.get? name with
  | some store => action store
  | none => session.answer .noStore

def replace (session : Session) (name : String) (store : Except StoreError Store) : Outcome :=
  match store with
  | .ok store => (session.keep name store).answer .done
  | .error error => session.refuse (.store error)

def perform (session : Session) (name : String) : Action → Outcome
  | .load folder kind => session.withKind kind fun kind =>
    match Store.load session.tree folder kind with
    | (some store, notices) => ⟨.ok (.flag true), notices, session.keep name store⟩
    | (none, notices) =>
      ⟨.ok (.flag false), notices, { session with stores := session.stores.erase name }⟩
  | .create folder kind => session.withKind kind fun kind =>
    (session.keep name (Store.create folder kind)).answer (.flag true)
  | .merge kind => session.withStore name fun store => session.withKind kind fun kind =>
    let (merged, notices) := store.merge session.tree kind
    ⟨.ok (.flag true), notices, session.keep name merged⟩
  | .set key value => session.withStore name fun store =>
    session.replace name (.ok (store.set key value))
  | .setTarget hash => session.withStore name fun store =>
    session.replace name (store.setTarget hash)
  | .get key => session.withStore name fun store => session.answer (.value (store.get? key))
  | .remove key => session.withStore name fun store =>
    (session.keep name (store.remove key)).answer (.value (store.get? key))
  | .contains key => session.withStore name fun store =>
    session.answer (.flag (store.contains key))
  | .inspect => session.withStore name fun store => session.answer (.store store)
  | .save => session.withStore name fun store =>
    match store.save session.tree with
    | (tree, .ok notices) => ⟨.ok .done, notices, { session with tree }⟩
    | (tree, .error error) => { session with tree }.refuse (.store error)
  | .configurations => session.withStore name fun store =>
    session.answer (.properties (store.configurations.mapValues some))
  | .setConfigurations configurations => session.withStore name fun store =>
    session.replace name (store.setConfigurations configurations)
  | .filter filter => session.withStore name fun store =>
    session.answer (.properties (filter.select store.properties))

end Session
end PropertyFiles
