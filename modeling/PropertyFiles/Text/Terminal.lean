/-!
# Terminal control sequences

An escape character, an opening bracket, parameters and a letter make up a control sequence.
Output that does not go to a terminal is written without them.
-/
namespace PropertyFiles.Text

def isControlParameter (c : Char) : Bool :=
  c == ';' || c == '?' || c.isDigit

/-- What follows the control sequence that opens with an escape character and these characters. -/
def afterControl? : List Char → Option (List Char)
  | '[' :: rest =>
    match rest.dropWhile isControlParameter with
    | [] => none
    | last :: after => if last.isAlpha then some after else none
  | _ => none

theorem length_lt_of_afterControl? {cs after : List Char} (h : afterControl? cs = some after) :
    after.length < cs.length := by
  unfold afterControl? at h
  split at h
  · rename_i rest
    have hle := (List.dropWhile_sublist isControlParameter (l := rest)).length_le
    split at h
    · simp at h
    · rename_i last tail heq
      rw [heq] at hle
      split at h
      · obtain rfl := Option.some.inj h
        simp only [List.length_cons] at hle ⊢
        omega
      · simp at h
  · simp at h

def withoutControls : List Char → List Char
  | [] => []
  | c :: rest =>
    if c = '\x1b' then
      match _h : afterControl? rest with
      | some after => withoutControls after
      | none => c :: withoutControls rest
    else c :: withoutControls rest
termination_by cs => cs.length
decreasing_by
  · have := length_lt_of_afterControl? _h
    simp only [List.length_cons]
    omega
  · simp
  · simp

theorem withoutControls_of_no_escape {cs : List Char} (h : '\x1b' ∉ cs) :
    withoutControls cs = cs := by
  induction cs with
  | nil => simp [withoutControls]
  | cons c rest ih =>
    rw [List.mem_cons, not_or] at h
    rw [withoutControls, if_neg (Ne.symm h.1), ih h.2]

end PropertyFiles.Text
