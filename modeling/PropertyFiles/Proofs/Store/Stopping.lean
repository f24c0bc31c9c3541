import PropertyFiles.Proofs.Store.RoundTrip
/-!
# Saves that are stopped

Whether a value can be encoded is found out only when its line is written, and then the file has already
been emptied. A save that is stopped there leaves the entries in front of that line in the file and loses
what the file held before.
-/
namespace PropertyFiles

namespace Document

section Front
variable {before : List (String × Option RawText)} (h : ∀ e ∈ before, (written? e.2).isSome)
include h

end Front

end Document

namespace Store

variable {tree after : FileTree} {store : Store} {line : RawText}

section Reasons
variable {tree : FileTree} {store : Store}

end Reasons

end Store
end PropertyFiles
