import PropertyFiles.Store.Basic
/-!
# Package configurations

One property lists the names of the configurations, separated by commas; each name has a property
of its own that holds the resources the configuration includes.
-/
namespace PropertyFiles

/-- The names in a comma separated list: blanks around a name do not count, nor do empty names. A name
that is no text is left out, since it belongs to no key. -/
def configurationNames (list : RawText) : List String :=
  ((((list.points.splitOn (.char ',')).filterMap CodePoint.chars?).map Text.trim).filter
    (· ≠ [])).map String.ofList

namespace Store

def configurationNames (store : Store) : List String :=
  match store.get? WellKnown.configurations with
  | none => []
  | some list => PropertyFiles.configurationNames list

/-- The configurations in the order of the list. A listed name without a value is left out. -/
def configurations (store : Store) : OrderedMap String RawText :=
  OrderedMap.ofList <| store.configurationNames.filterMap fun name =>
    (store.get? (WellKnown.configurationKey name)).map (name, ·)

def withConfigurations (store : Store) (configurations : Properties) : Store :=
  let cleared := store.configurationNames.foldl
    (fun store name => store.remove (WellKnown.configurationKey name)) store
  if configurations.entries = [] then cleared.remove WellKnown.configurations
  else
    let listed := cleared.set WellKnown.configurations
      (some (",".intercalate configurations.keys))
    configurations.entries.foldl
      (fun store e => store.set (WellKnown.configurationKey e.1) e.2) listed

def setConfigurations (store : Store) (configurations : Properties) : Except StoreError Store :=
  match configurations.keys.find? fun name => !isKey name with
  | some name => .error (.configurationName (WellKnown.configurationKey name))
  | none => .ok (store.withConfigurations configurations)

end Store
end PropertyFiles
