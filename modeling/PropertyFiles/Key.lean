import PropertyFiles.Text.Lines
/-!
# Property keys

A key is a non-empty word over the ASCII letters and digits, the full stop, the low line and the
hyphen. The well-known keys are fixed here, with the word that leads the key of a configuration.
-/
namespace PropertyFiles

def isKeyChar (c : Char) : Bool :=
  ('a' ≤ c && c ≤ 'z') || ('A' ≤ c && c ≤ 'Z') || ('0' ≤ c && c ≤ '9') ||
    c == '.' || c == '_' || c == '-'

def isKey (text : String) : Bool :=
  !text.toList.isEmpty && text.toList.all isKeyChar

theorem isKey_iff {text : String} :
    isKey text ↔ text.toList ≠ [] ∧ ∀ c ∈ text.toList, isKeyChar c := by
  rw [isKey, Bool.and_eq_true, Bool.not_eq_true', List.isEmpty_eq_false_iff, List.all_eq_true]

/-- The codes of key characters: small and capital letters, digits, and three marks. -/
theorem toNat_of_isKeyChar {c : Char} (h : isKeyChar c) :
    (97 ≤ c.toNat ∧ c.toNat ≤ 122) ∨ (65 ≤ c.toNat ∧ c.toNat ≤ 90) ∨
      (48 ≤ c.toNat ∧ c.toNat ≤ 57) ∨ c.toNat = 46 ∨ c.toNat = 95 ∨ c.toNat = 45 := by
  simp only [isKeyChar, Bool.or_eq_true, Bool.and_eq_true, decide_eq_true_eq, beq_iff_eq,
    Char.le_def, UInt32.le_iff_toNat_le] at h
  rcases h with ((((h | h) | h) | rfl) | rfl) | rfl
  · exact Or.inl h
  · exact Or.inr (Or.inl h)
  · exact Or.inr (Or.inr (Or.inl h))
  all_goals decide

namespace WellKnown

def target : String := "target"

def configurations : String := "apk-configurations"

def sdkLocation : String := "sdk-location"

/-- What stands before the name in the key of a configuration. -/
def configurationLeading : String := "apk-config-"

def configurationKey (name : String) : String :=
  configurationLeading ++ name

def commentLines : List (String × List String) := [
  (target, ["# Project target."]),
  (configurations, [
    "# apk configurations. This property allows creation of APK files with limited",
    "# resources. For example, if your application contains many locales and",
    "# you wish to release multiple smaller apks instead of a large one, you can",
    "# define configuration to create apks with limited language sets.",
    "# Format is a comma separated list of configuration names. For each",
    "# configuration, a property will declare the resource configurations to",
    "# include. Example:",
    "#     apk-configurations=european,northamerica",
    "#     apk-config-european=en,fr,it,de,es",
    "#     apk-config-northamerica=en,es"]),
  (sdkLocation, [
    "# location of the SDK. This is only used by Ant",
    "# For customization when using a Version Control System, please read the",
    "# header note."])]

def comment? (key : String) : Option String :=
  (commentLines.lookup key).map Text.unlines

end WellKnown
end PropertyFiles
