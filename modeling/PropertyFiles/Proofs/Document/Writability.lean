import PropertyFiles.Proofs.Document.RoundTrip
/-!
# Which documents may be written

Whether a document may be written is decided by its entries one by one. An entry may be written exactly
if its line, standing alone, reads back as it, and a document may be written exactly if the whole of it
reads back: no value that goes on in a second line, and no key that is none, can come back by chance.
-/
namespace PropertyFiles

open Text

theorem Line.isValue_of_unblank {text : String} (h : ∀ c ∈ text.toList, isBlank c = false) :
    IsValue text := by
  refine ⟨fun c hc => ?_, fun c hc => h c (List.mem_of_mem_head? hc)⟩
  by_contra hbreak
  have hblank := isBlank_of_isBreak (Bool.not_eq_false _ ▸ hbreak)
  rw [h c hc] at hblank
  cases hblank

namespace CodePoint

end CodePoint

namespace RawText

end RawText

namespace Document

end Document
end PropertyFiles
