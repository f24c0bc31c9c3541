import PropertyFiles.Pattern.Parser
import PropertyFiles.Pattern.Search
/-!
# First matches

Patterns that are tried piece by piece, from left to right, and report what their groups took. A run of
characters is tried at its greatest length first and then at shorter ones, so that what counts is the
first way through the whole pattern. If whatever can follow a shorter run can also follow the longest
one, only the longest needs to be tried.
-/
namespace PropertyFiles

/-- The ways to cut a run of at least so many characters of a set off a text, the longest first. -/
def CharSet.runs (set : CharSet) : Nat → List Char → List (List Char × List Char)
  | 0, [] => [([], [])]
  | _ + 1, [] => []
  | least, c :: rest =>
    (if set.contains c then (set.runs (least - 1) rest).map fun run => (c :: run.1, run.2) else []) ++
      if least = 0 then [([], c :: rest)] else []

namespace Pattern

/-- A piece of a pattern: a position, one character of a set, or a run of them, which may be a group. -/
inductive Piece
  | spot (place : Spot)
  | one (set : CharSet)
  | run (set : CharSet) (least : Nat) (isGroup : Bool)

namespace Piece

def isGroup : Piece → Bool
  | run _ _ isGroup => isGroup
  | _ => false

/-- The ways to match a piece between a character and a text: what it takes, and what it leaves. -/
def ways : Piece → Option Char → List Char → List (List Char × List Char)
  | spot place, before, cs => if place.holds before cs then [([], cs)] else []
  | one _, _, [] => []
  | one set, _, c :: rest => if set.contains c then [([c], rest)] else []
  | run set least _, _, cs => set.runs least cs

def pattern : Piece → Pattern Atom
  | spot place => .atom (.spot place)
  | one set => .atom (.one set)
  | run set least _ => .repetition (.atom (.one set)) least none

end Piece

def joined : List Piece → Pattern Atom
  | [] => .empty
  | [piece] => piece.pattern
  | piece :: more => .sequence piece.pattern (joined more)

/-- What the groups took, for every way to match the pieces one after another, in the order in which
the ways are tried. -/
def attempts : List Piece → Option Char → List Char → List (List (List Char))
  | [], _, _ => [[]]
  | piece :: more, before, cs => (piece.ways before cs).flatMap fun way =>
      (attempts more (way.1.getLast?.or before) way.2).map fun groups =>
        if piece.isGroup then way.1 :: groups else groups

def firstMatch? (pieces : List Piece) (cs : List Char) : Option (List (List Char)) :=
  (attempts pieces none cs).head?

end Pattern

namespace CharSet
variable {set : CharSet} {least : Nat} {cs : List Char}

private theorem mem_runs {run : List Char × List Char} (h : run ∈ set.runs least cs) :
    cs = run.1 ++ run.2 ∧ ∀ c ∈ run.1, set.contains c := by
  induction cs generalizing least run with
  | nil =>
    cases least with
    | zero =>
      obtain rfl := List.mem_singleton.1 h
      simp
    | succ least => cases h
  | cons c rest ih =>
    rw [runs] at h
    rcases List.mem_append.1 h with h | h
    · split at h
      · rename_i hc
        obtain ⟨shorter, hshorter, rfl⟩ := List.mem_map.1 h
        obtain ⟨hrest, hset⟩ := ih hshorter
        refine ⟨congrArg (c :: ·) hrest, ?_⟩
        simpa [hc] using hset
      · cases h
    · split at h
      · obtain rfl := List.mem_singleton.1 h
        simp
      · cases h

private theorem runs_eq (set : CharSet) (least : Nat) (cs : List Char) :
    ∃ shorter, set.runs least cs =
      if least ≤ (cs.takeWhile set.contains).length then
        (cs.takeWhile set.contains, cs.dropWhile set.contains) :: shorter
      else [] := by
  induction cs generalizing least with
  | nil => cases least <;> exact ⟨[], by simp [runs]⟩
  | cons c rest ih =>
    rw [runs]
    cases hc : set.contains c with
    | false =>
      refine ⟨[], ?_⟩
      simp [hc]
    | true =>
      obtain ⟨shorter, hshorter⟩ := ih (least - 1)
      rw [hshorter, List.takeWhile_cons_of_pos hc, List.dropWhile_cons_of_pos hc, List.length_cons]
      refine ⟨shorter.map (fun run => (c :: run.1, run.2)) ++
        if least = 0 then [([], c :: rest)] else [], ?_⟩
      by_cases hlong : least - 1 ≤ (rest.takeWhile set.contains).length
      · rw [if_pos hlong, if_pos (show least ≤ _ + 1 by omega)]
        simp
      · have hpos : least ≠ 0 := by
          rintro rfl
          exact hlong (Nat.zero_le _)
        rw [if_neg hlong, if_neg (show ¬ least ≤ _ + 1 by omega), if_neg hpos]
        simp

end CharSet

namespace Pattern
variable {set : CharSet} {least : Nat} {isGroup : Bool} {more : List Piece} {before : Option Char}
  {cs : List Char}

private theorem head?_attempts_cons (piece : Piece) (more : List Piece) (before : Option Char)
    (cs : List Char) :
    (attempts (piece :: more) before cs).head? = (piece.ways before cs).findSome? fun way =>
      (attempts more (way.1.getLast?.or before) way.2).head?.map fun groups =>
        if piece.isGroup then way.1 :: groups else groups := by
  rw [attempts, List.head?_flatMap]
  simp only [List.head?_map]

theorem head?_attempts_spot (place : Spot) (more : List Piece) (before : Option Char)
    (cs : List Char) :
    (attempts (.spot place :: more) before cs).head? =
      if place.holds before cs then (attempts more before cs).head? else none := by
  rw [head?_attempts_cons, Piece.ways]
  by_cases hplace : place.holds before cs <;> simp [hplace, Piece.isGroup]

theorem head?_attempts_one (set : CharSet) (more : List Piece) (before : Option Char)
    (c : Char) (rest : List Char) :
    (attempts (.one set :: more) before (c :: rest)).head? =
      if set.contains c then (attempts more (some c) rest).head? else none := by
  rw [head?_attempts_cons, Piece.ways]
  by_cases hc : set.contains c <;> simp [hc, Piece.isGroup]

/-- If the rest fails after the longest run only where it fails after all, the longest run is taken. -/
theorem head?_attempts_run
    (h : (attempts more ((cs.takeWhile set.contains).getLast?.or before)
        (cs.dropWhile set.contains)).head? = none →
      ∀ front back, cs = front ++ back → (∀ c ∈ front, set.contains c) →
        (attempts more (front.getLast?.or before) back).head? = none) :
    (attempts (.run set least isGroup :: more) before cs).head? =
      if least ≤ (cs.takeWhile set.contains).length then
        (attempts more ((cs.takeWhile set.contains).getLast?.or before)
          (cs.dropWhile set.contains)).head?.map fun groups =>
            if isGroup then cs.takeWhile set.contains :: groups else groups
      else none := by
  rw [head?_attempts_cons, Piece.ways, Piece.isGroup]
  obtain ⟨shorter, hruns⟩ := set.runs_eq least cs
  cases hlongest : (attempts more ((cs.takeWhile set.contains).getLast?.or before)
      (cs.dropWhile set.contains)).head? with
  | none =>
    have hall : ∀ run ∈ set.runs least cs,
        (attempts more (run.1.getLast?.or before) run.2).head? = none := by
      intro run hrun
      obtain ⟨hcs, hset⟩ := CharSet.mem_runs hrun
      exact h hlongest run.1 run.2 hcs hset
    rw [Option.map_none, ite_self, List.findSome?_eq_none_iff]
    intro run hrun
    rw [hall run hrun, Option.map_none]
  | some groups =>
    by_cases hlong : least ≤ (cs.takeWhile set.contains).length
    · rw [hruns, if_pos hlong, if_pos hlong, List.findSome?_cons, hlongest]
      rfl
    · rw [hruns, if_neg hlong, if_neg hlong]
      rfl

theorem head?_attempts_run_of_stop
    (h : ∀ before left, (∃ c ∈ left.head?, set.contains c) → (attempts more before left).head? = none) :
    (attempts (.run set least isGroup :: more) before cs).head? =
      if least ≤ (cs.takeWhile set.contains).length then
        (attempts more ((cs.takeWhile set.contains).getLast?.or before)
          (cs.dropWhile set.contains)).head?.map fun groups =>
            if isGroup then cs.takeWhile set.contains :: groups else groups
      else none := by
  apply head?_attempts_run
  intro hlongest front back hcs hfront
  by_cases hback : ∃ c ∈ back.head?, set.contains c
  · exact h _ back hback
  · have hstop : ∀ c ∈ back.head?, set.contains c = false := by
      intro c hc
      exact Bool.eq_false_iff.2 fun hcontains => hback ⟨c, hc, hcontains⟩
    obtain ⟨htaken, hleft⟩ := Text.takeWhile_dropWhile_of_stop hfront hstop
    rw [hcs, htaken, hleft] at hlongest
    exact hlongest

end Pattern
end PropertyFiles
