import PropertyFiles.Key
import PropertyFiles.Listing.Yaml.Mapping
import PropertyFiles.Proofs.Listing.Yaml.Folding
import PropertyFiles.Proofs.Listing.Yaml.Resolving
/-!
# Reading YAML listings

A reader of block mappings of scalars after the rules of YAML 1.1, which refuses whatever else a text may
hold. It knows nothing of the writer: its tables are those of the format, and text without quotes takes
the type whose form it has. A listing reads as the entries of its map, keys and values being text.
-/
namespace PropertyFiles.Listing.Yaml

/-- A scalar as it is read: a text and the type that it has. -/
structure Node where
  tag : Implicit.Tag
  text : String
deriving DecidableEq, Repr

def Node.ofText (text : String) : Node :=
  ⟨.text, text⟩

def prepend (c : Char) (read : List Char × List Char) : List Char × List Char :=
  (c :: read.1, read.2)

/-- The text up to a single quote that does not stand twice, and what is behind it. -/
def single? : List Char → Option (List Char × List Char)
  | [] => none
  | '\x27' :: '\x27' :: rest => (single? rest).map (prepend '\x27')
  | '\x27' :: rest => some ([], rest)
  | c :: rest => (single? rest).map (prepend c)

/-- The character that one behind a backslash stands for. -/
def meaning? (c : Char) : Option Char :=
  [('0', '\x00'), ('a', '\x07'), ('b', '\x08'), ('t', '\t'), ('\t', '\t'), ('n', '\n'), ('v', '\x0b'),
    ('f', '\x0c'), ('r', '\r'), ('e', '\x1b'), (' ', ' '), ('\x22', '\x22'), ('/', '/'), ('\\', '\\'),
    ('N', '\x85'), ('_', '\xa0'), ('L', '\u2028'), ('P', '\u2029')].lookup c

/-- How many digits of a code follow a letter behind a backslash, the last one not counted. -/
def codeWidth? (c : Char) : Option Nat :=
  [('x', 1), ('u', 3), ('U', 7)].lookup c

def charOfCode? (n : Nat) : Option Char :=
  if n.isValidChar then some (Char.ofNat n) else none

/-- Where the next character in double quotes stands. -/
inductive Place
  | text
  | escape
  /-- In a code; `left` more digits follow the next one. -/
  | code (value left : Nat)

/-- The text up to a double quote, without escape sequences, and what is behind it. -/
def double? : Place → List Char → Option (List Char × List Char)
  | _, [] => none
  | .text, c :: rest =>
    if c = '\x22' then some ([], rest)
    else if c = '\\' then double? .escape rest
    else if c = '\n' then none
    else (double? .text rest).map (prepend c)
  | .escape, c :: rest =>
    match codeWidth? c with
    | some left => double? (.code 0 left) rest
    | none => (meaning? c).bind fun meant => (double? .text rest).map (prepend meant)
  | .code value left, c :: rest =>
    (Text.hexValue? c).bind fun digit =>
      match left with
      | 0 => (charOfCode? (16 * value + digit)).bind fun meant =>
        (double? .text rest).map (prepend meant)
      | left + 1 => double? (.code (16 * value + digit) left) rest

/-- A plain scalar ends at a colon that ends a key, and in front of a comment. -/
def endsPlain (c : Char) (rest : List Char) : Bool :=
  (c == ':' && rest.head?.all isSpacing) || (isSpacing c && rest.head? == some '#')

/-- The text of a plain scalar and what is behind it. -/
def plain : List Char → List Char × List Char
  | [] => ([], [])
  | c :: rest => if endsPlain c rest then ([], c :: rest) else prepend c (plain rest)

def reserved : List Char :=
  [',', '[', ']', '\x7b', '\x7d', '#', '&', '*', '!', '|', '>', '\x27', '\x22', '%', '@', '\x60']

def beginsPlain : List Char → Bool
  | [] => false
  | c :: rest =>
    !isSpacing c && !reserved.contains c &&
      (!(['-', '?', ':'].contains c) || rest.head?.any (!isSpacing ·))

def scalar? : List Char → Option (Node × List Char)
  | '\x27' :: rest => (single? rest).map fun (lines, rest) =>
    (.ofText (String.ofList (unfolded [] lines)), rest)
  | '\x22' :: rest => (double? .text rest).map fun (cs, rest) => (.ofText (String.ofList cs), rest)
  | cs =>
    if beginsPlain cs then
      let (lines, rest) := plain cs
      let text := unfolded [] (Text.dropTrailing isSpacing lines)
      some (⟨Implicit.resolve text, String.ofList text⟩, rest)
    else none

def whole? (cs : List Char) : Option Node :=
  match scalar? cs with
  | some (node, []) => some node
  | _ => none

def behind? (mark : Char) (cs : List Char) : Option (List Char) :=
  (Implicit.after? mark cs).bind (Implicit.after? ' ')

/-- The lines of a text. A line that is empty or begins with a space belongs to the one before. -/
def items : List Char → List (List Char)
  | [] => []
  | c :: rest =>
    if c = '\n' ∧ !rest.head?.any isSpacing then [] :: items rest
    else match items rest with
      | [] => [[c]]
      | item :: more => (c :: item) :: more

/-- Whether a line may separate documents. -/
def isMarker (line : List Char) : Bool :=
  line.take 3 == "---".toList || line.take 3 == "...".toList

/-- The most characters that a key without a question mark may take. -/
def keyLimit : Nat := 1024

/-- A key on a line, and a value behind it that may take more lines. -/
def pair? (item : List Char) : Option (Node × Node) := do
  let line := item.takeWhile (· ≠ '\n')
  let (key, rest) ← scalar? line
  let value ← behind? ':' rest
  if isMarker line || keyLimit < line.length - rest.length then none
  else return (key, ← whole? (value ++ item.dropWhile (· ≠ '\n')))

def entries? : List (List Char) → Option (List (Node × Node))
  | [] => some []
  | item :: more =>
    match behind? '?' item, more with
    | some key, value :: more => do
      return (← whole? key, ← whole? (← behind? ':' value)) :: (← entries? more)
    | some _, [] => none
    | none, more => do
      return (← pair? item) :: (← entries? more)

/-- A line feed, or a character of ASCII that can be printed. -/
def isReadable (c : Char) : Bool :=
  c == '\n' || (0x20 ≤ c.toNat && c.toNat ≤ 0x7E)

/-- The entries of a block mapping, or of an empty one in braces. -/
def read? (text : String) : Option (List (Node × Node)) :=
  let lines := items text.toList
  if lines.isEmpty || !text.toList.all isReadable then none
  else if lines = ["\x7b\x7d".toList] then some []
  else entries? lines

example : read? "a: yes\nb: 1_000\n? c\n: 'it''s  x\n\n  y\n  z '\nd: '~'\n" = some [
    (.ofText "a", ⟨.boolean, "yes"⟩), (.ofText "b", ⟨.integer, "1_000"⟩),
    (.ofText "c", .ofText "it's  x\ny z "), (.ofText "d", .ofText "~")] := by
  decide +kernel

section Quoted
variable {cs lines after : List Char}

private theorem single?_written (hafter : after.head? ≠ some '\x27') :
    single? (lines.flatMap (written .single) ++ '\x27' :: after) = some (lines, after) := by
  induction lines with
  | nil =>
    cases after with
    | nil => rfl
    | cons c rest =>
      have hc : c ≠ '\x27' := fun h => hafter (h ▸ rfl)
      simp [single?, hc]
  | cons c lines ih =>
    rw [List.flatMap_cons, List.append_assoc, written]
    by_cases hc : c = '\x27'
    · rw [if_pos ⟨rfl, hc⟩, hc]
      simp [single?, ih, prepend]
    · rw [if_neg (mt And.right hc)]
      simp [single?, ih, prepend, hc]

private theorem double?_hexDigits (width value left n : Nat) (rest : List Char) :
    double? (.code value (width + left)) (Text.hexDigits .upper width n ++ rest) =
      double? (.code (16 ^ width * value + n % 16 ^ width) left) rest := by
  induction width generalizing left n rest with
  | zero => simp [Text.hexDigits, Nat.mod_one]
  | succ width ih =>
    have hdigit := Text.hexValue?_hexDigit .upper (Nat.mod_lt n (show 0 < 16 by decide))
    have hvalue : 16 * (16 ^ width * value + n / 16 % 16 ^ width) + n % 16 =
        16 ^ (width + 1) * value + n % 16 ^ (width + 1) := by
      rw [Nat.pow_succ', Nat.mod_mul, Nat.mul_add, Nat.mul_assoc]
      omega
    rw [Text.hexDigits, List.append_assoc, Nat.add_right_comm width 1 left, Nat.add_assoc, ih,
      List.singleton_append, double?, hdigit, Option.bind_some, hvalue]

private theorem double?_code {width : Nat} {c : Char} (h : c.toNat < 16 ^ (width + 1)) (rest : List Char) :
    double? (.code 0 width) (Text.hexDigits .upper (width + 1) c.toNat ++ rest) =
      (double? .text rest).map (prepend c) := by
  have hdigit := Text.hexValue?_hexDigit .upper (Nat.mod_lt c.toNat (show 0 < 16 by decide))
  have hlt : c.toNat / 16 < 16 ^ width := Nat.div_lt_of_lt_mul (by rwa [← Nat.pow_succ'])
  have hvalue : 16 * (16 ^ width * 0 + c.toNat / 16 % 16 ^ width) + c.toNat % 16 = c.toNat := by
    rw [Nat.mod_eq_of_lt hlt]
    omega
  have hchar : charOfCode? c.toNat = some c := by
    rw [charOfCode?, if_pos (show c.toNat.isValidChar from c.valid), Char.ofNat_toNat]
  have hdigits := double?_hexDigits width 0 0 (c.toNat / 16)
  rw [Nat.add_zero] at hdigits
  rw [Text.hexDigits, List.append_assoc, hdigits, List.singleton_append, double?, hdigit]
  simp only [Option.bind_some, hvalue, hchar]

theorem mem_of_lookup {c letter : Char} {table : List (Char × Char)} (h : table.lookup c = some letter) :
    (c, letter) ∈ table := by
  obtain ⟨before, more, hsplit, _⟩ := List.lookup_eq_some_iff.1 h
  rw [hsplit]
  exact List.mem_append_right before List.mem_cons_self

private theorem meaning?_of_mem {e : Char × Char} (h : e ∈ shortEscapes) :
    codeWidth? e.2 = none ∧ meaning? e.2 = some e.1 := by
  revert e
  decide

private theorem double?_escaped (c : Char) (rest : List Char) :
    double? .text (escaped c ++ rest) = (double? .text rest).map (prepend c) := by
  have hcode : c.toNat < 0x110000 := by
    have hvalid : c.toNat < 0xD800 ∨ 0xDFFF < c.toNat ∧ c.toNat < 0x110000 := c.valid
    omega
  have hbackslash (cs : List Char) : double? .text ('\\' :: cs) = double? .escape cs := rfl
  unfold escaped
  split
  · rename_i letter hletter
    obtain ⟨hwidth, hmeaning⟩ := meaning?_of_mem (mem_of_lookup hletter)
    change double? .text ('\\' :: letter :: rest) = _
    rw [hbackslash, double?, hwidth, hmeaning]
    rfl
  · rename_i hnone
    split_ifs with hdirect hx hu
    · have hquote : c ≠ '\x22' := by
        rintro rfl
        cases hnone
      have hback : c ≠ '\\' := by
        rintro rfl
        cases hnone
      have hbreak : c ≠ '\n' := by
        rintro rfl
        cases hnone
      rw [List.singleton_append, double?, if_neg hquote, if_neg hback, if_neg hbreak]
    · change double? (.code 0 1) (Text.hexDigits .upper 2 c.toNat ++ rest) = _
      exact double?_code hx rest
    · change double? (.code 0 3) (Text.hexDigits .upper 4 c.toNat ++ rest) = _
      exact double?_code hu rest
    · change double? (.code 0 7) (Text.hexDigits .upper 8 c.toNat ++ rest) = _
      exact double?_code (by omega) rest

private theorem double?_flatMap_escaped :
    double? .text (cs.flatMap escaped ++ '\x22' :: after) = some (cs, after) := by
  induction cs with
  | nil => rfl
  | cons c rest ih =>
    rw [List.flatMap_cons, List.append_assoc, double?_escaped, ih]
    rfl

end Quoted

private theorem endsKey_tail {c : Char} {cs : List Char} (h : endsKey (c :: cs) = false) :
    endsKey cs = false := by
  cases cs with
  | nil => rfl
  | cons d rest => exact (Bool.or_eq_false_iff.1 h).2

private theorem beginsComment_tail {c : Char} {cs : List Char} (h : beginsComment (c :: cs) = false) :
    beginsComment cs = false := by
  cases cs with
  | nil => rfl
  | cons d rest => exact (Bool.or_eq_false_iff.1 h).2

/-- What may stand behind a scalar on its lines: nothing, or a colon and a value. -/
def MayFollow (after : List Char) : Prop :=
  after = [] ∨ ∃ value, after = ':' :: ' ' :: value

section Plain
variable {afterWord : Bool} {c : Char} {cs lines after : List Char}

private theorem not_endsPlain (h : Folding (c != ' ') cs lines) (hkey : endsKey (c :: cs) = false)
    (hcomment : beginsComment (c :: cs) = false) (hbreak : '\n' ∉ c :: cs) (hafter : MayFollow after) :
    endsPlain c (lines ++ after) = false := by
  have hhash : after.head? ≠ some '#' := by
    rcases hafter with rfl | ⟨value, rfl⟩ <;> simp
  have hhead := h.head?
  rw [endsPlain, List.head?_append]
  cases cs with
  | nil =>
    have hc : c ≠ ':' := by simpa [endsKey] using hkey
    have hnone : lines.head? = none := by simpa using hhead
    simp [hnone, hc, hhash]
  | cons d rest =>
    have hcolon : c = ':' → d ≠ ' ' := by
      rintro rfl rfl
      simp [endsKey] at hkey
    have hspace : c = ' ' → d ≠ '#' := by
      rintro rfl rfl
      simp [beginsComment] at hcomment
    obtain ⟨hc, hd⟩ : c ≠ '\n' ∧ d ≠ '\n' := by
      simp only [List.mem_cons, not_or] at hbreak
      exact ⟨Ne.symm hbreak.1, Ne.symm hbreak.2.1⟩
    rcases hhead with hhead | ⟨hhead, hfold⟩
    · rw [hhead]
      simpa [isSpacing, hc, hd] using ⟨hcolon, hspace⟩
    · have hd' : d = ' ' := by simpa using hfold
      rw [hhead]
      simpa [isSpacing] using fun h => hcolon h hd'

/-- A folded text is read up to its end. -/
private theorem plain_folding (h : Folding afterWord cs lines) (hkey : endsKey cs = false)
    (hcomment : beginsComment cs = false) (hbreak : '\n' ∉ cs) (hafter : MayFollow after) :
    plain (lines ++ after) = (lines, after) := by
  induction h with
  | nil => rcases hafter with rfl | ⟨value, rfl⟩ <;> rfl
  | keep h ih =>
    have hends := not_endsPlain h hkey hcomment hbreak hafter
    have hih := ih (endsKey_tail hkey) (beginsComment_tail hcomment) (List.not_mem_of_not_mem_cons hbreak)
    rw [List.cons_append, plain, hends, hih]
    rfl
  | @fold c cs lines hc h ih =>
    have hkey' := endsKey_tail hkey
    have hcomment' := beginsComment_tail hcomment
    have hbreak' := List.not_mem_of_not_mem_cons hbreak
    have hword : Folding (c != ' ') cs lines := (bne_iff_ne.2 hc).symm ▸ h
    have hends := not_endsPlain hword hkey' hcomment' hbreak' hafter
    have hih := ih (endsKey_tail hkey') (beginsComment_tail hcomment')
      (List.not_mem_of_not_mem_cons hbreak')
    have hspace : endsPlain ' ' (c :: (lines ++ after)) = false := by
      have hc' : c ≠ '#' := by
        rintro rfl
        simp [beginsComment] at hcomment
      simp [endsPlain, hc']
    -- Neither the break nor the indentation ends the scalar, nor does the word behind them.
    change plain ('\n' :: ' ' :: ' ' :: c :: (lines ++ after)) = _
    rw [plain, plain, plain, hspace, plain, hends, hih]
    rfl

end Plain

section Scalar
variable {cs lines after : List Char}

theorem not_mem_break (hdirect : cs.all isDirect) : '\n' ∉ cs := fun h =>
  absurd (List.all_eq_true.1 hdirect _ h) (by decide)

private theorem of_isIndicated_eq_false {c : Char} {rest : List Char}
    (h : isIndicated (c :: rest) = false) :
    c ∉ indicators ∧ (c ∈ ['-', '?', ':'] → ∃ d more, rest = d :: more ∧ d ≠ ' ') := by
  unfold isIndicated at h
  split at h
  · cases h
  · cases h
  · cases h
  · rename_i hsplit
    obtain ⟨rfl, rfl⟩ := List.cons.inj hsplit
    simp only [Bool.or_eq_false_iff, List.contains_eq_mem, decide_eq_false_iff_not] at h
    refine ⟨h.1, fun hc => ?_⟩
    have hmark : (c == '?' || c == ':' || c == '-') = true := by
      simpa [or_comm, or_left_comm] using hc
    rw [hmark, Bool.true_and, Bool.or_eq_false_iff] at h
    cases rest with
    | nil => cases h.2.1
    | cons d more => exact ⟨d, more, rfl, by simpa using h.2.2⟩

private theorem beginsPlain_folding (h : Folding false cs lines) (hbreak : '\n' ∉ cs)
    (hindicated : isIndicated cs = false) (hhead : cs.head? ≠ some ' ') :
    beginsPlain (lines ++ after) := by
  cases h with
  | nil => cases hindicated
  | @keep _ c rest lines h =>
    obtain ⟨hindicator, hmark⟩ := of_isIndicated_eq_false hindicated
    have hsubset : reserved ⊆ indicators := by decide
    have hreserved : c ∉ reserved := fun hc => hindicator (hsubset hc)
    simp only [List.mem_cons, not_or] at hbreak
    have hc : isSpacing c = false := by
      simpa [isSpacing, Ne.symm hbreak.1] using hhead
    simp only [List.cons_append, beginsPlain, Bool.and_eq_true]
    refine ⟨⟨?_, ?_⟩, ?_⟩
    · rw [hc]
      rfl
    · simpa using hreserved
    · by_cases hcmark : c ∈ ['-', '?', ':']
      · obtain ⟨d, more, rfl, hd⟩ := hmark hcmark
        have hdbreak : d ≠ '\n' := by
          rintro rfl
          exact hbreak.2 List.mem_cons_self
        have hlines : lines.head? = some d := h.head?.resolve_right fun hfold =>
          hd (Option.some.inj hfold.2)
        simp [hlines, isSpacing, hd, hdbreak]
      · simp [hcmark]

private theorem scalar?_plain (hdirect : cs.all isDirect) (hquotes : needsQuotes cs = false)
    (foldable : Bool) (column : Nat) (hafter : MayFollow after) :
    scalar? (folded .plain foldable column false cs ++ after) =
      some (.ofText (String.ofList cs), after) := by
  simp only [needsQuotes, Bool.or_eq_false_iff, beq_eq_false_iff_ne, bne_eq_false_iff_eq] at hquotes
  obtain ⟨⟨⟨⟨⟨hindicated, hhead⟩, hlast⟩, hkey⟩, hcomment⟩, htag⟩ := hquotes
  obtain ⟨lines, hlines, heq⟩ := exists_folding .plain foldable column false cs
  have hbreak := not_mem_break hdirect
  have hbegins : beginsPlain (lines ++ after) := beginsPlain_folding hlines hbreak hindicated hhead
  have htrailing := hlines.dropTrailing_eq hbreak hlast
  have htext := hlines.unfolded_nil hbreak
  rw [heq, flatMap_written_plain, scalar?, if_pos hbegins, plain_folding hlines hkey hcomment hbreak hafter]
  · simp only [htrailing, htext, Implicit.resolve_eq_tagOf, htag]
    rfl
  all_goals
    intro rest h
    rw [h] at hbegins
    cases hbegins

private theorem scalar?_single (hdirect : cs.all isDirect) (foldable : Bool) (column : Nat)
    (hafter : after.head? ≠ some '\x27') :
    scalar? ('\x27' :: folded .single foldable column false cs ++ '\x27' :: after) =
      some (.ofText (String.ofList cs), after) := by
  obtain ⟨lines, hlines, heq⟩ := exists_folding .single foldable column false cs
  have htext := hlines.unfolded_nil (not_mem_break hdirect)
  rw [heq, List.cons_append, scalar?, single?_written hafter]
  simp only [Option.map_some, htext]

/-- A written text is read as it is, and as text. -/
theorem scalar?_scalar (foldable : Bool) (column : Nat) (cs : List Char) (hafter : MayFollow after) :
    scalar? (scalar foldable column cs ++ after) = some (.ofText (String.ofList cs), after) := by
  unfold scalar styleOf
  by_cases hdirect : cs.all isDirect
  · simp only [hdirect, Bool.not_true, Bool.false_eq_true, if_false]
    cases hquotes : needsQuotes cs with
    | false => exact scalar?_plain hdirect hquotes foldable column hafter
    | true =>
      have hquote : after.head? ≠ some '\x27' := by
        rcases hafter with rfl | ⟨value, rfl⟩ <;> simp
      rw [if_pos rfl]
      simp only [List.append_assoc, List.singleton_append]
      exact scalar?_single hdirect foldable (column + 1) hquote
  · simp only [hdirect, Bool.not_false, if_true]
    rw [List.append_assoc, List.singleton_append, List.cons_append, scalar?, double?_flatMap_escaped]
    rfl

theorem whole?_scalar (foldable : Bool) (column : Nat) (cs : List Char) :
    whole? (scalar foldable column cs) = some (.ofText (String.ofList cs)) := by
  have hscalar := scalar?_scalar foldable column cs (Or.inl rfl)
  rw [List.append_nil] at hscalar
  rw [whole?, hscalar]

end Scalar

end PropertyFiles.Listing.Yaml
