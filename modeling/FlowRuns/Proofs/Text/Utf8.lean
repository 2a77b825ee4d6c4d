import FlowRuns.Text.Utf8

namespace FlowRuns

/-!
# Texts that begin alike

No character is stored as the beginning of another one.  So the stored form of
a text begins with that of another text exactly if the characters of the one
begin with those of the other.
-/

namespace Text

theorem bytes_append (first second : String) :
    bytes (first ++ second) = bytes first ++ bytes second := by
  simp [bytes]

theorem bytes_prefix_bytes_iff {start text : String} :
    bytes start <+: bytes text ↔ start.toList <+: text.toList := by
  constructor
  · rintro ⟨tail, whole⟩
    apply List.isPrefix_of_utf8Encode_append_eq_utf8Encode ⟨tail.toArray⟩
    rw [String.utf8Encode_toList, String.utf8Encode_toList]
    apply ByteArray.ext
    apply Array.toList_inj.mp
    simpa [bytes] using whole
  · rintro ⟨tail, whole⟩
    have same : start ++ String.ofList tail = text := by
      apply String.toList_inj.mp
      rw [String.toList_append, String.toList_ofList, whole]
    exact ⟨bytes (String.ofList tail), by rw [← bytes_append, same]⟩

end Text
end FlowRuns
