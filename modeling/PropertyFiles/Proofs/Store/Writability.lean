import PropertyFiles.Proofs.Document.Writability
import PropertyFiles.Proofs.Store.RoundTrip
/-!
# Stores that are refused for an entry

A store is refused for an entry exactly if the text that saving it would write does not read back as
its properties. The key in the refusal is that of the first entry whose own line does not read back.
The file tree plays no part in this.
-/
namespace PropertyFiles

/-- The key that an operation on a store is refused for. Other refusals are for the kind of the store
or for its file. -/
def StoreError.faultyKey? : StoreError → Option String
  | .unwritable key _ | .configurationName key => some key
  | .targetKind _ | .nulInPath | .file _ _ | .unencodable _ => none

namespace Store

private theorem save_faultyKey_iff (tree : FileTree) (store : Store) (key : String) :
    (∃ error, (store.save tree).2 = .error error ∧ error.faultyKey? = some key) ↔
      ∃ fault, Document.fault? store.properties = some (key, fault) := by
  unfold save
  cases Document.fault? store.properties with
  | some found => simp [StoreError.faultyKey?, Prod.ext_iff]
  | none =>
    cases store.path.hasNul with
    | true => simp [StoreError.faultyKey?]
    | false =>
      cases tree.writeFile store.path store.text.toUTF8 with
      | error failure => simp [StoreError.faultyKey?]
      | ok written =>
        cases Document.unencodable? store.properties <;> simp [StoreError.faultyKey?]

theorem save_faultyKey_eq_none_iff (tree : FileTree) (store : Store) :
    (∀ error, (store.save tree).2 = .error error → error.faultyKey? = none) ↔
      Document.fault? store.properties = none := by
  constructor
  · intro h
    rw [Option.eq_none_iff_forall_ne_some]
    rintro ⟨key, fault⟩ hfault
    obtain ⟨error, hsave, hkey⟩ := (save_faultyKey_iff tree store key).2 ⟨fault, hfault⟩
    rw [h error hsave] at hkey
    cases hkey
  · intro hnone error hsave
    rw [Option.eq_none_iff_forall_ne_some]
    intro key hkey
    obtain ⟨fault, hfault⟩ := (save_faultyKey_iff tree store key).1 ⟨error, hsave, hkey⟩
    rw [hnone] at hfault
    cases hfault

/-- A value that goes on in a second line may make a text that can be read, but as other properties. -/
example : Document.read "k=a\nb=c" = .ok (.ofList [("k", "a"), ("b", "c")]) := by decide

/-- A store that is refused for none of its entries. -/
def IsWritable (store : Store) : Prop :=
  Document.fault? store.properties = none

theorem isWritable_create (folder : String) (kind : Kind) : (create folder kind).IsWritable := rfl

theorem isWritable_of_load {tree : FileTree} {folder : String} {kind : Kind} {store : Store}
    (h : (load tree folder kind).1 = some store) : store.IsWritable :=
  (exists_save_of_load h).1

end Store
end PropertyFiles
