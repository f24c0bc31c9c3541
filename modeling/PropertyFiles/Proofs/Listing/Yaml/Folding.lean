import Mathlib.Data.List.DropRight
import PropertyFiles.Listing.Yaml.Scalar
import PropertyFiles.Text.Blank
/-!
# Unfolding

How a text over several lines is read: a line break with the spaces around it is one space. Folding is
given as a relation without columns, so that what the writer does at a line width is one folding among
others, and unfolding takes back every one of them.
-/
namespace PropertyFiles.Listing.Yaml

def isSpacing (c : Char) : Bool :=
  c == ' ' || c == '\n'

/-- What a run of spaces and line breaks is read as: itself without a break, one space for one break,
and the breaks behind the first if there are more. -/
def spacing (run : List Char) : List Char :=
  match run.count '\n' with
  | 0 => run
  | 1 => [' ']
  | breaks + 2 => List.replicate (breaks + 1) '\n'

/-- A text behind a run of spaces and line breaks, with each such run as it is read. -/
def unfolded (run : List Char) : List Char → List Char
  | [] => spacing run
  | c :: rest =>
    if isSpacing c then unfolded (run ++ [c]) rest
    else spacing run ++ c :: unfolded [] rest

example : unfolded [] "a  b \n  c\n\n d ".toList = "a  b c\nd ".toList := by
  decide +kernel

/-- A text and the same text with line breaks in place of some single spaces behind words. The flag
tells whether the character before is there and no space. -/
inductive Folding : Bool → List Char → List Char → Prop
  | nil {afterWord : Bool} : Folding afterWord [] []
  | keep {afterWord : Bool} {c : Char} {cs lines : List Char} :
    Folding (c != ' ') cs lines → Folding afterWord (c :: cs) (c :: lines)
  | fold {c : Char} {cs lines : List Char} :
    c ≠ ' ' → Folding true cs lines →
      Folding true (' ' :: c :: cs) ('\n' :: indentation ++ c :: lines)

namespace Folding
variable {afterWord : Bool} {cs lines run : List Char}

theorem head? (h : Folding afterWord cs lines) :
    lines.head? = cs.head? ∨ lines.head? = some '\n' ∧ cs.head? = some ' ' := by
  cases h with
  | nil => exact Or.inl rfl
  | keep => exact Or.inl rfl
  | fold => exact Or.inr ⟨rfl, rfl⟩

theorem getLast? (h : Folding afterWord cs lines) : lines.getLast? = cs.getLast? := by
  induction h with
  | nil => rfl
  | keep _ ih => rw [List.getLast?_cons, List.getLast?_cons, ih]
  | fold _ _ ih => simp [indentation, List.getLast?_cons, ih]

theorem dropTrailing_eq (h : Folding afterWord cs lines) (hcs : '\n' ∉ cs)
    (hlast : cs.getLast? ≠ some ' ') : Text.dropTrailing isSpacing lines = lines := by
  apply List.rdropWhile_eq_self_iff.2
  intro hne
  have hget : cs.getLast? = some (lines.getLast hne) := by
    rw [← h.getLast?, List.getLast?_eq_some_getLast hne]
  have hspace : lines.getLast hne ≠ ' ' := fun heq => hlast (heq ▸ hget)
  have hbreak : lines.getLast hne ≠ '\n' := fun heq => hcs (heq ▸ List.mem_of_getLast? hget)
  simp [isSpacing, hspace, hbreak]

theorem eq_of_no_space (h : Folding afterWord cs lines) (hspace : ' ' ∉ cs) : lines = cs := by
  induction h with
  | nil => rfl
  | keep _ ih => rw [ih (List.not_mem_of_not_mem_cons hspace)]
  | fold => exact absurd List.mem_cons_self hspace

/-- Unfolding takes back what was folded, whatever spaces stand before, if no word does. -/
private theorem unfolded_eq (h : Folding afterWord cs lines) (hcs : '\n' ∉ cs) (hrun : '\n' ∉ run)
    (hafter : afterWord → run = []) : unfolded run lines = run ++ cs := by
  have hspacing {run : List Char} (hrun : '\n' ∉ run) : spacing run = run := by
    rw [spacing, List.count_eq_zero_of_not_mem hrun]
  have hword {c : Char} (hc : c ≠ '\n') (hspace : c ≠ ' ') : ¬ isSpacing c := by
    simp [isSpacing, hc, hspace]
  induction h generalizing run with
  | nil => rw [unfolded, hspacing hrun, List.append_nil]
  | @keep _ c cs lines _ ih =>
    obtain ⟨hc, hrest⟩ := not_or.1 (mt List.mem_cons.2 hcs)
    by_cases hspace : c = ' '
    · subst hspace
      have hrun' : '\n' ∉ run ++ [' '] := by simp [hrun]
      rw [unfolded, if_pos (by rfl), ih hrest hrun' (by simp), List.append_assoc]
      rfl
    · have hih := ih hrest List.not_mem_nil fun _ => rfl
      rw [unfolded, if_neg (hword (Ne.symm hc) hspace), hspacing hrun, hih]
      rfl
  | @fold c cs lines hspace _ ih =>
    obtain ⟨hc, hrest⟩ := not_or.1 (mt List.mem_cons.2 (List.not_mem_of_not_mem_cons hcs))
    have hih := ih hrest List.not_mem_nil fun _ => rfl
    rw [hafter rfl]
    change unfolded ['\n', ' ', ' '] (c :: lines) = _
    rw [unfolded, if_neg (hword (Ne.symm hc) hspace), hih]
    rfl

theorem unfolded_nil (h : Folding false cs lines) (hcs : '\n' ∉ cs) : unfolded [] lines = cs :=
  h.unfolded_eq hcs List.not_mem_nil nofun

end Folding

def written (style : Style) (c : Char) : List Char :=
  if style = .single ∧ c = '\x27' then ['\x27', '\x27'] else [c]

theorem flatMap_written_plain (cs : List Char) : cs.flatMap (written .plain) = cs := by
  have hsingle : written .plain = ([·]) := by
    funext c
    simp [written]
  rw [hsingle, List.flatMap_singleton']

/-- The writer folds a text and then doubles its single quotes. -/
theorem exists_folding (style : Style) (foldable : Bool) (column : Nat) (afterWord : Bool)
    (cs : List Char) : ∃ lines, Folding afterWord cs lines ∧
      folded style foldable column afterWord cs = lines.flatMap (written style) := by
  fun_induction folded style foldable column afterWord cs with
  | case1 => exact ⟨[], .nil, rfl⟩
  | case2 column afterWord next rest hfold ih =>
    simp only [Bool.and_eq_true, bne_iff_ne] at hfold
    obtain ⟨⟨⟨_, hword⟩, hnext⟩, _⟩ := hfold
    obtain ⟨lines, hlines, heq⟩ := ih
    subst hword
    cases hlines with
    | keep hrest =>
      have hrest' : Folding true rest _ := bne_iff_ne.2 hnext ▸ hrest
      refine ⟨_, .fold hnext hrest', ?_⟩
      rw [heq]
      simp [written, indentation]
  | case3 column afterWord next rest _ ih =>
    obtain ⟨lines, hlines, heq⟩ := ih
    refine ⟨' ' :: lines, .keep hlines, ?_⟩
    rw [heq]
    simp [written]
  | case4 column afterWord c rest _ hquote ih =>
    obtain ⟨lines, hlines, heq⟩ := ih
    obtain ⟨rfl, rfl⟩ := hquote
    refine ⟨'\x27' :: lines, .keep hlines, ?_⟩
    rw [heq]
    rfl
  | case5 column afterWord c rest _ hquote ih =>
    obtain ⟨lines, hlines, heq⟩ := ih
    refine ⟨c :: lines, .keep hlines, ?_⟩
    rw [heq, List.flatMap_cons, written, if_neg hquote]
    rfl

end PropertyFiles.Listing.Yaml
