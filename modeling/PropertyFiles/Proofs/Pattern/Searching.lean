import PropertyFiles.Pattern.Search
/-!
# What a search decides

A pattern leads from one position of a text to another if the text between them can be cut into matches
of its parts. A search with sets of positions finds out whether a pattern leads from anywhere in the text
to anywhere.
-/
namespace PropertyFiles

namespace Pattern

/-- So many steps, one after another. -/
def Rounds (step : Nat → Nat → Prop) : Nat → Nat → Nat → Prop
  | 0, i, j => i = j
  | count + 1, i, j => ∃ k, step i k ∧ Rounds step count k j

/-- A match of the pattern can begin at the first position and end at the second, given the steps of its
atoms. -/
def Leads (steps : α → Nat → Nat → Prop) : Pattern α → Nat → Nat → Prop
  | empty, i, j => i = j
  | atom a, i, j => steps a i j
  | sequence first second, i, j => ∃ k, first.Leads steps i k ∧ second.Leads steps k j
  | choice first second, i, j => first.Leads steps i j ∨ second.Leads steps i j
  | repetition body least more, i, j =>
    ∃ count, (∀ limit ∈ more, count ≤ limit) ∧ Rounds (body.Leads steps) (least + count) i j

end Pattern

/-- What an atom takes of a text: a character of its set, or nothing at a place with its property. -/
def Atom.Steps (text : List Char) : Atom → Nat → Nat → Prop
  | one members, i, j => j = i + 1 ∧ ∃ c ∈ text[i]?, members.contains c
  | spot place, i, j => j = i ∧ i ≤ text.length ∧ place.holds (text.take i).getLast? (text.drop i)

namespace Pattern
variable {step : Nat → Nat → Prop} {length count i j : Nat}

private theorem rounds_add (more : Nat) : Rounds step (count + more) i j ↔
    ∃ k, Rounds step count i k ∧ Rounds step more k j := by
  induction count generalizing i with
  | zero => simp [Rounds]
  | succ count ih =>
    rw [Nat.add_right_comm]
    simp only [Rounds, ih]
    constructor
    · rintro ⟨k, hstep, l, hrounds, hmore⟩
      exact ⟨l, ⟨k, hstep, hrounds⟩, hmore⟩
    · rintro ⟨l, ⟨k, hstep, hrounds⟩, hmore⟩
      exact ⟨k, hstep, l, hrounds, hmore⟩

/-- Steps go on, and not beyond the end of the text. -/
def Advances (length : Nat) (step : Nat → Nat → Prop) : Prop :=
  ∀ i j, step i j → i ≤ j ∧ j ≤ max i length

private theorem advances_rounds (h : Advances length step) (count : Nat) :
    Advances length (Rounds step count) := by
  induction count with
  | zero =>
    rintro i _ rfl
    omega
  | succ count ih =>
    rintro i j ⟨k, hstep, hrounds⟩
    have hfirst := h i k hstep
    have hrest := ih k j hrounds
    omega

/-- Rounds that stay where they are can be left out, so that no more are needed than there are positions
to pass. -/
private theorem exists_rounds_le (h : Advances length step) (hrounds : Rounds step count i j) :
    ∃ fewer ≤ length, Rounds step fewer i j := by
  suffices hpassed : ∃ fewer ≤ j - i, Rounds step fewer i j by
    obtain ⟨fewer, hle, hfewer⟩ := hpassed
    have hends := advances_rounds h fewer i j hfewer
    exact ⟨fewer, by omega, hfewer⟩
  induction count generalizing i with
  | zero => exact ⟨0, Nat.zero_le _, hrounds⟩
  | succ count ih =>
    obtain ⟨k, hstep, hrest⟩ := hrounds
    obtain ⟨fewer, hle, hfewer⟩ := ih hrest
    have hfirst := h i k hstep
    have hends := advances_rounds h count k j hrest
    rcases Nat.eq_or_lt_of_le hfirst.1 with rfl | hlt
    · exact ⟨fewer, hle, hfewer⟩
    · exact ⟨fewer + 1, by omega, k, hstep, hfewer⟩

private theorem advances_leads {steps : α → Nat → Nat → Prop} (h : ∀ a, Advances length (steps a))
    (pattern : Pattern α) : Advances length (pattern.Leads steps) := by
  induction pattern with
  | empty =>
    rintro i _ rfl
    omega
  | atom a => exact h a
  | sequence first second ihfirst ihsecond =>
    rintro i j ⟨k, hfirst, hsecond⟩
    have hbegin := ihfirst i k hfirst
    have hend := ihsecond k j hsecond
    omega
  | choice first second ihfirst ihsecond =>
    rintro i j (hfirst | hsecond)
    · exact ihfirst i j hfirst
    · exact ihsecond i j hsecond
  | repetition body least more ih =>
    rintro i j ⟨count, -, hrounds⟩
    exact advances_rounds ih (least + count) i j hrounds

end Pattern

namespace Positions
open Pattern (Rounds)
variable {round : Positions → Positions} {step : Nat → Nat → Prop}

/-- A round leads from a set to the positions that the step leads to from positions of the set. -/
def Follows (round : Positions → Positions) (step : Nat → Nat → Prop) : Prop :=
  ∀ set j, contains (round set) j ↔ ∃ i, contains set i ∧ step i j

private theorem contains_or (set other : Positions) (j : Nat) :
    contains (set ||| other) j = (contains set j || contains other j) :=
  Nat.testBit_or set other j

private theorem ne_zero_iff {set : Positions} : set ≠ 0 ↔ ∃ i, contains set i := by
  constructor
  · exact Nat.exists_testBit_of_ne_zero
  · rintro ⟨i, hi⟩ rfl
    simp [contains] at hi

private theorem follows_afterRounds (h : Follows round step) (count : Nat) :
    Follows (afterRounds round count) (Rounds step count) := by
  intro set j
  rw [afterRounds_eq_repeat]
  induction count generalizing set with
  | zero => simp [Nat.repeat, Rounds]
  | succ count ih =>
    rw [repeat_succ, ih]
    simp only [h set, Rounds]
    constructor
    · rintro ⟨k, ⟨i, hi, hstep⟩, hrounds⟩
      exact ⟨i, hi, k, hstep, hrounds⟩
    · rintro ⟨i, hi, k, hstep, hrounds⟩
      exact ⟨k, ⟨i, hi, hstep⟩, hrounds⟩

/-- What a round adds to the positions found, when it starts from the latest of them only. What was found
before the latest leads to nothing new. -/
private theorem contains_withinRounds_of_closed (h : Follows round step) (count : Nat)
    {found latest : Positions} (hlatest : ∀ i, contains latest i → contains found i)
    (hclosed : ∀ i j, contains found i → ¬ contains latest i → step i j → contains found j) (j : Nat) :
    contains (withinRounds round count found latest) j ↔
      ∃ i, contains found i ∧ ∃ fewer ≤ count, Rounds step fewer i j := by
  induction count generalizing found latest with
  | zero => simp [withinRounds, Rounds]
  | succ count ih =>
    have hnew (j : Nat) : contains (without (round latest) found) j ↔
        (∃ i, contains latest i ∧ step i j) ∧ ¬ contains found j := by
      rw [contains_without, Bool.and_eq_true, Bool.not_eq_true', Bool.eq_false_iff, h latest]
    have hstays (i k : Nat) (hi : contains found i) (hstep : step i k) :
        contains (found ||| without (round latest) found) k := by
      rw [contains_or, Bool.or_eq_true, hnew]
      by_cases hk : contains found k
      · exact Or.inl hk
      · by_cases hi' : contains latest i
        · exact Or.inr ⟨⟨i, hi', hstep⟩, hk⟩
        · exact absurd (hclosed i k hi hi' hstep) hk
    rw [withinRounds]
    split
    · rename_i hnone
      -- Nothing is new, so that no number of steps leads out of the set.
      have hfound (fewer : Nat) (i : Nat) (hi : contains found i) (hrounds : Rounds step fewer i j) :
          contains found j := by
        induction fewer generalizing i with
        | zero => exact hrounds ▸ hi
        | succ fewer ihfewer =>
          obtain ⟨k, hstep, hrest⟩ := hrounds
          have hk := hstays i k hi hstep
          rw [hnone, Nat.or_zero] at hk
          exact ihfewer k hk hrest
      constructor
      · exact fun hj => ⟨j, hj, 0, Nat.zero_le _, rfl⟩
      · rintro ⟨i, hi, fewer, -, hrounds⟩
        exact hfound fewer i hi hrounds
    · rw [ih (fun i hi => by rw [contains_or, hi, Bool.or_true])]
      · constructor
        · rintro ⟨i, hi, fewer, hfewer, hrounds⟩
          rw [contains_or, Bool.or_eq_true, hnew] at hi
          rcases hi with hi | ⟨⟨i', hi', hstep⟩, -⟩
          · exact ⟨i, hi, fewer, by omega, hrounds⟩
          · exact ⟨i', hlatest i' hi', fewer + 1, by omega, i, hstep, hrounds⟩
        · rintro ⟨i, hi, fewer, hfewer, hrounds⟩
          cases fewer with
          | zero => exact ⟨i, by rw [contains_or, hi, Bool.true_or], 0, Nat.zero_le _, hrounds⟩
          | succ fewer =>
            obtain ⟨k, hstep, hrest⟩ := hrounds
            exact ⟨k, hstays i k hi hstep, fewer, by omega, hrest⟩
      · intro i k hi hold hstep
        rw [contains_or, Bool.or_eq_true] at hi
        exact hstays i k (hi.resolve_right hold) hstep

private theorem contains_withinRounds (h : Follows round step) (count : Nat) (set : Positions) (j : Nat) :
    contains (withinRounds round count set set) j ↔
      ∃ i, contains set i ∧ ∃ fewer ≤ count, Rounds step fewer i j :=
  contains_withinRounds_of_closed h count (fun _ hi => hi) (fun _ _ hi hnot => absurd hi hnot) j

end Positions

namespace Atom
variable {text : List Char}

private theorem advances_steps (text : List Char) (a : Atom) :
    Pattern.Advances text.length (a.Steps text) := by
  intro i j hstep
  cases a with
  | one members =>
    obtain ⟨rfl, c, hc, -⟩ := hstep
    have hlt := (List.getElem?_eq_some_iff.1 hc).1
    omega
  | spot place =>
    obtain ⟨rfl, -, -⟩ := hstep
    omega

private theorem getD_tests (place : Spot) (before : Option Char) (text : List Char) (i : Nat) :
    (place.tests before text).getD i false =
      (decide (i ≤ text.length) && place.holds ((text.take i).getLast?.or before) (text.drop i)) := by
  induction text generalizing before i with
  | nil => cases i <;> simp [Spot.tests]
  | cons c rest ih =>
    cases i with
    | zero => simp [Spot.tests]
    | succ i =>
      have hbefore : ((c :: rest).take (i + 1)).getLast?.or before =
          (rest.take i).getLast?.or (some c) := by
        rw [List.take_succ_cons, List.getLast?_cons]
        cases (rest.take i).getLast? <;> rfl
      rw [Spot.tests, List.getD_cons_succ, ih, hbefore, List.drop_succ_cons, List.length_cons]
      simp only [Nat.add_le_add_iff_right]

private theorem contains_reach (move : Move) (set : Positions) (j : Nat) :
    Positions.contains (move.reach set) j ↔
      ∃ i, Positions.contains set i ∧ Positions.contains move.origins i ∧ j = i + move.length := by
  simp only [Positions.contains, Move.reach, Nat.testBit_shiftLeft, Nat.testBit_and, Bool.and_eq_true,
    ge_iff_le, decide_eq_true_eq]
  constructor
  · rintro ⟨hle, hset, horigin⟩
    exact ⟨j - move.length, hset, horigin, by omega⟩
  · rintro ⟨i, hset, horigin, rfl⟩
    rw [Nat.add_sub_cancel]
    exact ⟨Nat.le_add_left _ _, hset, horigin⟩

theorem follows_reach (text : List Char) (a : Atom) :
    Positions.Follows (a.inText text).reach (a.Steps text) := by
  intro set j
  rw [contains_reach]
  refine exists_congr fun i => and_congr_right fun _ => ?_
  rw [and_comm]
  cases a with
  | one members =>
    refine and_congr_right fun _ => ?_
    rw [inText, Positions.contains_ofTests, List.getD_eq_getElem?_getD, List.getElem?_map]
    cases text[i]? <;> simp
  | spot place =>
    refine and_congr_right fun _ => ?_
    rw [inText, Positions.contains_ofTests, getD_tests, Option.or_none, Bool.and_eq_true,
      decide_eq_true_eq]

end Atom

namespace Pattern

/-- The sets of positions follow the matches of a pattern. -/
theorem follows_reach (text : List Char) (pattern : Pattern Atom) :
    Positions.Follows ((pattern.map (Atom.inText text)).reach text.length)
      (pattern.Leads (Atom.Steps text)) := by
  induction pattern with
  | empty =>
    intro set j
    simp [map, reach, Leads]
  | atom a => exact a.follows_reach text
  | sequence first second ihfirst ihsecond =>
    intro set j
    rw [map, reach, ihsecond]
    simp only [ihfirst set, Leads]
    constructor
    · rintro ⟨k, ⟨i, hi, hfirst⟩, hsecond⟩
      exact ⟨i, hi, k, hfirst, hsecond⟩
    · rintro ⟨i, hi, k, hfirst, hsecond⟩
      exact ⟨k, ⟨i, hi, hfirst⟩, hsecond⟩
  | choice first second ihfirst ihsecond =>
    intro set j
    rw [map, reach, Positions.contains_or, Bool.or_eq_true, ihfirst, ihsecond]
    simp only [Leads, and_or_left, exists_or]
  | repetition body least more ih =>
    intro set j
    rw [map, reach, Positions.contains_withinRounds ih]
    simp only [Positions.follows_afterRounds ih least set, Leads, rounds_add]
    constructor
    · rintro ⟨k, ⟨i, hi, hrequired⟩, count, hcount, hoptional⟩
      refine ⟨i, hi, count, ?_, k, hrequired, hoptional⟩
      rintro limit hlimit
      rwa [Option.mem_def.1 hlimit, Option.getD_some] at hcount
    · rintro ⟨i, hi, count, hlimit, k, hrequired, hoptional⟩
      refine ⟨k, ⟨i, hi, hrequired⟩, ?_⟩
      cases more with
      | none => exact exists_rounds_le (advances_leads (Atom.advances_steps text) body) hoptional
      | some limit => exact ⟨count, hlimit limit rfl, hoptional⟩

/-- A search finds out whether the pattern has a match anywhere in the text. -/
theorem foundIn_iff (pattern : Pattern Atom) (text : String) : pattern.foundIn text ↔
    ∃ i ≤ text.toList.length, ∃ j, pattern.Leads (Atom.Steps text.toList) i j := by
  rw [foundIn, bne_iff_ne, Positions.ne_zero_iff]
  simp only [follows_reach text.toList pattern (Positions.below (text.toList.length + 1)),
    Positions.contains_below, decide_eq_true_eq, Nat.lt_succ_iff]
  rw [exists_comm]
  simp only [exists_and_left]

end Pattern
end PropertyFiles
