import PropertyFiles.Proofs.Listing.Yaml.Forms
/-!
# Resolving implicit types

The tests that decide on quotes recognise exactly the forms of the format: one law for each test, from
digits and signs up to numbers and points in time.
-/
namespace PropertyFiles.Listing.Yaml.Implicit

open RegularExpression Form

section Classes
variable (c : Char)

private theorem isDigit_iff : c.isDigit ↔ c ∈ between '0' '9' := by
  rw [mem_between (by decide)]
  simp [Char.isDigit, Char.le_def]

private theorem isGroupedDigit_iff : isGroupedDigit c ↔ c ∈ '_' :: between '0' '9' := by
  rw [isGroupedDigit, Bool.or_eq_true, isDigit_iff, List.mem_cons, or_comm, beq_iff_eq]

private theorem isSign_iff : (c == '+' || c == '-') ↔ c ∈ ['-', '+'] := by
  simp [or_comm]

private theorem isGap_iff : isGap c ↔ c ∈ [' ', '\t'] := by
  simp [isGap]

end Classes

section Numbers
variable {cs : List Char}

private theorem areSome_iff {p : Char → Bool} {chars : List Char} (hp : ∀ c, p c ↔ c ∈ chars) :
    areSome p cs ↔ Fits (many (oneOf chars)) cs := by
  rw [fits_many_oneOf, areSome, Bool.and_eq_true, Bool.not_eq_true', List.isEmpty_eq_false_iff,
    List.all_eq_true]
  simp only [hp]

private theorem isNumeral_iff : isNumeral cs ↔ Fits numeral cs := by
  cases cs with
  | nil => simp [isNumeral, numeral, digit]
  | cons c rest =>
    simp [isNumeral, numeral, digit, grouped, fits_star_oneOf, isDigit_iff, isGroupedDigit_iff]

private theorem isExponent_iff : isExponent cs ↔ Fits (maybe exponent) cs := by
  have hmany (digits : List Char) : areSome Char.isDigit digits ↔ Fits (many digit) digits :=
    areSome_iff isDigit_iff
  rw [fits_maybe]
  rcases cs with _ | ⟨e, _ | ⟨sign, digits⟩⟩
  · simp [isExponent]
  · simp [isExponent, exponent]
  · rw [exponent, fits_oneOf_mul_cons, fits_oneOf_mul_cons, ← hmany, ← isSign_iff]
    simp [isExponent, and_assoc]

private theorem isFraction_iff : isFraction cs ↔ Fits (grouped * maybe exponent) cs := by
  rw [isFraction, isExponent_iff, grouped, fits_star_oneOf_mul isGroupedDigit_iff]
  intro c rest h
  rw [fits_maybe, exponent, fits_oneOf_mul_cons] at h
  have hc := (h.resolve_left (List.cons_ne_nil c rest)).1
  rcases (by simpa using hc : c = 'e' ∨ c = 'E') with rfl | rfl <;> decide

private theorem isSixtieth_iff : isSixtieth cs ↔ Fits (maybe (oneOf (between '0' '5')) * digit) cs := by
  have htens (c : Char) : ('0' ≤ c && c ≤ '5') ↔ c ∈ between '0' '5' := by
    rw [mem_between (by decide), Bool.and_eq_true, decide_eq_true_eq, decide_eq_true_eq]
  rw [fits_maybe_mul, digit]
  rcases cs with _ | ⟨c, _ | ⟨d, _ | ⟨e, rest⟩⟩⟩
  · simp [isSixtieth]
  · simp [isSixtieth, isDigit_iff]
  · simp [isSixtieth, isDigit_iff, ← htens]
  · simp [isSixtieth]

private theorem fits_places : Fits places cs ↔
    ∃ parts ≠ [], cs = parts.flatMap (':' :: ·) ∧ ∀ part ∈ parts, isSixtieth part := by
  rw [places, fits_many not_fits_char_mul_nil]
  constructor
  · rintro ⟨words, hne, rfl, hwords⟩
    have hword : ∀ word ∈ words, word = ':' :: word.tail ∧ isSixtieth word.tail := by
      intro word hword
      have hfits := hwords word hword
      cases word with
      | nil => exact absurd hfits not_fits_char_mul_nil
      | cons c rest =>
        rw [fits_char_mul_cons, ← isSixtieth_iff] at hfits
        exact ⟨congrArg (· :: rest) hfits.1, hfits.2⟩
    refine ⟨words.map List.tail, by simpa using hne, ?_, ?_⟩
    · rw [List.flatMap_map, List.flatMap_def]
      congr 1
      have hsame := List.map_congr_left fun word h => (hword word h).1
      rw [List.map_id'] at hsame
      exact hsame
    · simpa using fun word h => (hword word h).2
  · rintro ⟨parts, hne, rfl, hparts⟩
    refine ⟨parts.map (':' :: ·), by simpa using hne, List.flatMap_def .., ?_⟩
    intro word hword
    obtain ⟨part, hpart, rfl⟩ := List.mem_map.1 hword
    exact fits_char_mul_cons.2 ⟨rfl, isSixtieth_iff.1 (hparts part hpart)⟩

private theorem intercalate_cons_eq (c : Char) (first : List Char) (parts : List (List Char)) :
    [c].intercalate (first :: parts) = first ++ parts.flatMap (c :: ·) := by
  induction parts generalizing first with
  | nil => simp
  | cons part parts ih =>
    rw [List.intercalate_cons_cons, ih, List.flatMap_cons, List.append_assoc]
    rfl

private theorem isGroupedDigit_of_isNumeral (h : isNumeral cs) : ∀ c ∈ cs, isGroupedDigit c := by
  cases cs with
  | nil => nofun
  | cons c rest =>
    rw [isNumeral, Bool.and_eq_true, List.all_eq_true] at h
    exact List.forall_mem_cons.2 ⟨by rw [isGroupedDigit, h.1, Bool.true_or], h.2⟩

private theorem isGroupedDigit_of_isSixtieth (h : isSixtieth cs) : ∀ c ∈ cs, isGroupedDigit c := by
  have hdigit {c : Char} (hc : c.isDigit) : isGroupedDigit c := by rw [isGroupedDigit, hc, Bool.true_or]
  rcases cs with _ | ⟨c, _ | ⟨d, _ | ⟨e, rest⟩⟩⟩
  · nofun
  · simpa using hdigit h
  · simp only [isSixtieth, Bool.and_eq_true, decide_eq_true_eq] at h
    have htens : c.isDigit := by
      rw [isDigit_iff, mem_between (by decide)]
      exact ⟨h.1.1, Char.le_trans h.1.2 (by decide)⟩
    simpa using ⟨hdigit htens, hdigit h.2⟩
  · simp [isSixtieth] at h

private theorem isSexagesimal_iff : isSexagesimal cs ↔ Fits (numeral * places) cs := by
  have hjoin : [':'].intercalate (cs.splitOn ':') = cs := List.intercalate_splitOn ':'
  rw [fits_mul]
  simp only [← isNumeral_iff, fits_places]
  constructor
  · intro h
    rw [isSexagesimal] at h
    split at h
    · rename_i first place more hsplit
      rw [hsplit, intercalate_cons_eq] at hjoin
      rw [Bool.and_eq_true, List.all_eq_true] at h
      exact ⟨first, _, hjoin.symm, h.1, place :: more, List.cons_ne_nil place more, rfl, h.2⟩
    · cases h
  · rintro ⟨first, _, rfl, hfirst, parts, hne, rfl, hparts⟩
    have hgrouped : ∀ part ∈ first :: parts, ∀ c ∈ part, isGroupedDigit c :=
      List.forall_mem_cons.2 ⟨isGroupedDigit_of_isNumeral hfirst,
        fun part hpart => isGroupedDigit_of_isSixtieth (hparts part hpart)⟩
    have hsplit : (first ++ parts.flatMap (':' :: ·)).splitOn ':' = first :: parts := by
      rw [← intercalate_cons_eq, List.splitOn_intercalate]
      · intro part hpart hcolon
        exact absurd (hgrouped part hpart ':' hcolon) (by decide)
      · exact List.cons_ne_nil first parts
    cases parts with
    | nil => exact absurd rfl hne
    | cons place more =>
      rw [isSexagesimal, hsplit]
      simpa [hfirst] using hparts

private theorem of_mem_isSexagesimal (h : isSexagesimal cs) : ∀ c ∈ cs, isGroupedDigit c ∨ c = ':' := by
  rw [isSexagesimal_iff, fits_mul] at h
  simp only [← isNumeral_iff, fits_places] at h
  obtain ⟨first, _, rfl, hfirst, parts, _, rfl, hparts⟩ := h
  rw [List.forall_mem_append]
  refine ⟨fun c hc => Or.inl (isGroupedDigit_of_isNumeral hfirst c hc), fun c hc => ?_⟩
  obtain ⟨part, hpart, hmem⟩ := List.mem_flatMap.1 hc
  rcases List.mem_cons.1 hmem with rfl | hmem
  · exact Or.inr rfl
  · exact Or.inl (isGroupedDigit_of_isSixtieth (hparts part hpart) c hmem)

/-- A sign may be taken off a form that begins with none. -/
private theorem fits_sign_mul {form : Form} (h : ∀ c rest, Fits form (c :: rest) → c ∉ ['-', '+']) :
    Fits (sign * form) cs ↔ Fits form (unsigned cs) := by
  rw [sign, fits_maybe_mul]
  cases cs with
  | nil => simp [unsigned]
  | cons c rest =>
    rw [fits_oneOf_mul_cons]
    by_cases hc : c ∈ ['-', '+']
    · have hunsigned : unsigned (c :: rest) = rest := by
        rcases (by simpa using hc : c = '-' ∨ c = '+') with rfl | rfl <;> rfl
      have hnot : ¬ Fits form (c :: rest) := fun hform => h c rest hform hc
      simp only [hunsigned, hc, hnot, true_and, false_or]
    · have hunsigned : unsigned (c :: rest) = c :: rest := by
        unfold unsigned
        split <;> simp_all
      simp only [hunsigned, hc, false_and, or_false]

private theorem mem_between_one_iff {c : Char} (hc : c ≠ '0') : c ∈ between '1' '9' ↔ c.isDigit := by
  have hcode : c.toNat ≠ '0'.toNat := fun h => hc (Char.toNat_inj.1 h)
  rw [isDigit_iff, mem_between (by decide), mem_between (by decide)]
  simp only [Char.le_def, UInt32.le_iff_toNat_le]
  change '1'.toNat ≤ c.toNat ∧ _ ↔ '0'.toNat ≤ c.toNat ∧ _
  have h0 : '0'.toNat = 48 := rfl
  have h1 : '1'.toNat = 49 := rfl
  omega

private theorem isUnsignedInteger_zero_iff {rest : List Char} :
    isUnsignedInteger ('0' :: rest) ↔ Fits unsignedInteger ('0' :: rest) := by
  have hbinary (digits : List Char) : areSome (fun c => c == '0' || c == '1' || c == '_') digits ↔
      Fits (many (oneOf ['0', '1', '_'])) digits :=
    areSome_iff (by simp [or_assoc])
  have hoctal (digits : List Char) : areSome (fun c => ('0' ≤ c && c ≤ '7') || c == '_') digits ↔
      Fits (many (oneOf ('_' :: between '0' '7'))) digits :=
    areSome_iff (by simp [mem_between, or_comm])
  have hhexadecimal (digits : List Char) :
      areSome (fun c => isGroupedDigit c || ('a' ≤ c && c ≤ 'f') || ('A' ≤ c && c ≤ 'F')) digits ↔
        Fits (many (oneOf ('_' :: between '0' '9' ++ between 'a' 'f' ++ between 'A' 'F'))) digits :=
    areSome_iff (by simp [mem_between, or_assoc, isGroupedDigit_iff])
  have hzero : '0' ∉ between '1' '9' := by decide
  have hletters : 'b' ∉ '_' :: between '0' '7' ∧ 'x' ∉ '_' :: between '0' '7' := by decide
  simp only [unsignedInteger, fits_anyOf, List.mem_cons, List.not_mem_nil, or_false, exists_eq_or_imp,
    exists_eq_left, fits_add, fits_char, positive, fits_mul_assoc, fits_char_mul_cons,
    fits_oneOf_mul_cons, hzero, false_and, true_and, List.cons.injEq]
  rcases rest with _ | ⟨d, digits⟩
  · simp [isUnsignedInteger]
  · by_cases hb : d = 'b'
    · subst hb
      rw [isUnsignedInteger, hbinary]
      simp [many, hletters.1]
    · by_cases hx : d = 'x'
      · subst hx
        rw [isUnsignedInteger, hhexadecimal]
        simp [many, hletters.2]
      · have hdef : isUnsignedInteger ('0' :: d :: digits) =
            areSome (fun c => ('0' ≤ c && c ≤ '7') || c == '_') (d :: digits) := by
          unfold isUnsignedInteger
          split <;> simp_all
        rw [hdef, hoctal]
        simp [hb, hx]

private theorem isUnsignedInteger_iff : isUnsignedInteger cs ↔ Fits unsignedInteger cs := by
  cases cs with
  | nil =>
    simp [isUnsignedInteger, unsignedInteger, fits_anyOf, fits_add, fits_char, positive, fits_mul_assoc]
  | cons c rest =>
    by_cases hc : c = '0'
    · rw [hc, isUnsignedInteger_zero_iff]
    · have hdef : isUnsignedInteger (c :: rest) =
          (isNumeral (c :: rest) || isSexagesimal (c :: rest)) := by
        unfold isUnsignedInteger
        split <;> simp_all
      rw [hdef, Bool.or_eq_true, isNumeral_iff, isSexagesimal_iff]
      simp [unsignedInteger, fits_anyOf, fits_add, fits_char, positive, numeral, digit, fits_mul_assoc,
        hc, mem_between_one_iff hc, isDigit_iff]

private theorem isInteger_iff : isInteger cs ↔ Fits integer cs := by
  have hsigns : '-' ∉ between '1' '9' ∧ '+' ∉ between '1' '9' := by decide
  rw [isInteger, isUnsignedInteger_iff, integer, fits_sign_mul]
  intro c rest h hsign
  rcases (by simpa using hsign : c = '-' ∨ c = '+') with rfl | rfl <;>
    simp [unsignedInteger, fits_anyOf, fits_add, fits_char, positive, fits_mul_assoc, hsigns] at h

/-- What stands in front of the first point and behind it. -/
private theorem fits_mul_point {form more : Form} (h : ∀ front, Fits form front → '.' ∉ front) :
    Fits (form * (char '.' * more)) cs ↔ Fits form (cs.takeWhile (· ≠ '.')) ∧
      ∃ fraction, cs.dropWhile (· ≠ '.') = '.' :: fraction ∧ Fits more fraction := by
  rw [fits_mul]
  constructor
  · rintro ⟨front, rest, rfl, hfront, hrest⟩
    cases rest with
    | nil => exact absurd hrest not_fits_char_mul_nil
    | cons c fraction =>
      rw [fits_char_mul_cons] at hrest
      obtain ⟨rfl, hmore⟩ := hrest
      have hpos : ∀ c ∈ front, decide (c ≠ '.') := by
        intro c hc
        apply decide_eq_true
        rintro rfl
        exact h front hfront hc
      rw [List.takeWhile_append_of_pos hpos, List.dropWhile_append_of_pos hpos]
      simpa using ⟨hfront, hmore⟩
  · rintro ⟨hform, fraction, hdrop, hmore⟩
    refine ⟨_, _, List.takeWhile_append_dropWhile.symm, hform, ?_⟩
    rw [hdrop, fits_char_mul_cons]
    exact ⟨rfl, hmore⟩

private theorem mem_unsigned {c : Char} (hc : c ∉ ['-', '+']) (h : c ∈ cs) : c ∈ unsigned cs := by
  unfold unsigned
  split <;> simp_all

private theorem not_mem_signs_of_digit {c : Char} (h : c ∈ between '0' '9') : c ∉ ['-', '+'] := by
  intro hsign
  rcases (by simpa using hsign : c = '-' ∨ c = '+') with rfl | rfl
  · exact absurd h (by decide)
  · exact absurd h (by decide)

private theorem fits_sign_numeral : Fits (sign * numeral) cs ↔ isNumeral (unsigned cs) := by
  rw [isNumeral_iff]
  apply fits_sign_mul
  intro c rest h
  rw [numeral, digit, fits_oneOf_mul_cons] at h
  exact not_mem_signs_of_digit h.1

private theorem fits_sign_numeral_places :
    Fits (sign * (numeral * places)) cs ↔ isSexagesimal (unsigned cs) := by
  rw [isSexagesimal_iff]
  apply fits_sign_mul
  intro c rest h
  rw [numeral, fits_mul_assoc, digit, fits_oneOf_mul_cons] at h
  exact not_mem_signs_of_digit h.1

private theorem isPointed_iff : isPointed cs ↔
    Fits (sign * numeral * (char '.' * (grouped * maybe exponent))) cs ∨
      Fits (sign * (numeral * places) * (char '.' * grouped)) cs := by
  have hpoint : '.' ∉ ['-', '+'] := by decide
  have hall (fraction : List Char) : fraction.all isGroupedDigit ↔ Fits grouped fraction := by
    rw [grouped, fits_star_oneOf, List.all_eq_true]
    simp only [isGroupedDigit_iff]
  rw [fits_mul_point, fits_mul_point]
  · simp only [fits_sign_numeral, fits_sign_numeral_places, ← isFraction_iff, ← hall]
    unfold isPointed
    split
    · rename_i fraction hdrop
      simp only [hdrop, List.cons.injEq, true_and, exists_eq_left', Bool.or_eq_true, Bool.and_eq_true]
    · rename_i hdrop
      constructor
      · exact fun h => absurd h Bool.false_ne_true
      · rintro (⟨_, fraction, hpoint, _⟩ | ⟨_, fraction, hpoint, _⟩) <;> exact (hdrop fraction hpoint).elim
  · intro front h hmem
    rw [fits_sign_numeral_places] at h
    have hc := of_mem_isSexagesimal h _ (mem_unsigned hpoint hmem)
    exact absurd hc (by decide)
  · intro front h hmem
    rw [fits_sign_numeral] at h
    have hc := isGroupedDigit_of_isNumeral h _ (mem_unsigned hpoint hmem)
    exact absurd hc (by decide)

private theorem fits_point_numeral_mul {form : Form} : Fits (char '.' * (numeral * form)) cs ↔
    ∃ c rest, cs = '.' :: c :: rest ∧ c.isDigit ∧ Fits (grouped * form) rest := by
  rcases cs with _ | ⟨p, _ | ⟨c, rest⟩⟩
  · simp
  · simp [numeral, digit, fits_mul_assoc]
  · simp [numeral, digit, fits_mul_assoc, isDigit_iff]

private theorem isWordOf_iff {words : List String} :
    isWordOf words cs ↔ Fits (anyOf (words.map word)) cs := by
  rw [isWordOf, List.any_eq_true, fits_anyOf]
  simp only [List.mem_map, exists_exists_and_eq_and, fits_word, beq_iff_eq, @eq_comm _ cs]

private theorem fits_sign_words {words : List String} (h : ∀ text ∈ words, text.toList.head? = some '.') :
    Fits (sign * anyOf (words.map word)) cs ↔ isWordOf words (unsigned cs) := by
  rw [isWordOf_iff]
  apply fits_sign_mul
  intro c rest hfits
  rw [← isWordOf_iff, isWordOf, List.any_eq_true] at hfits
  obtain ⟨text, htext, heq⟩ := hfits
  have hhead := h text htext
  rw [beq_iff_eq.1 heq] at hhead
  obtain rfl := Option.some.inj hhead
  decide

private theorem isReal_iff : isReal cs ↔ Fits real cs := by
  rw [real, fits_anyOf]
  simp only [List.mem_cons, List.not_mem_nil, or_false, exists_eq_or_imp, exists_eq_left,
    fits_point_numeral_mul, ← isFraction_iff]
  rw [fits_sign_words (by decide), ← isWordOf_iff]
  unfold isReal
  rw [Bool.or_eq_true, Bool.or_eq_true, Bool.or_eq_true, isPointed_iff]
  split
  · rename_i c rest
    simp only [List.cons.injEq, true_and, and_assoc, exists_and_left, exists_eq_left', Bool.and_eq_true,
      or_assoc, or_left_comm]
  · rename_i hcs
    have hnone (c : Char) (rest : List Char) : cs ≠ '.' :: c :: rest := hcs c rest
    simp only [hnone, false_and, exists_false, false_or, Bool.false_eq_true, or_false, or_assoc]

end Numbers

section Moments
variable {cs rest : List Char}

private theorem fits_digits {least most : Nat} : Fits (digits least most) cs ↔
    (∀ c ∈ cs, c.isDigit) ∧ least ≤ cs.length ∧ cs.length ≤ most := by
  fun_induction digits least most generalizing cs with
  | case1 => cases cs <;> simp [fits_one]
  | case2 most ih =>
    rw [fits_maybe]
    cases cs with
    | nil => simp
    | cons c rest => simp [digit, ih, isDigit_iff, and_assoc]
  | case3 least => cases cs <;> simp [Fits, zero_rmatch]
  | case4 least most ih =>
    cases cs with
    | nil => simp [digit]
    | cons c rest => simp [digit, ih, isDigit_iff, and_assoc]

private theorem afterDigits?_eq_some_iff {least most : Nat} : afterDigits? least most cs = some rest ↔
    ∃ front, cs = front ++ rest ∧ Fits (digits least most) front ∧
      ∀ c ∈ rest.head?, c.isDigit = false := by
  simp only [fits_digits]
  constructor
  · intro h
    simp only [afterDigits?, Option.ite_none_right_eq_some, Option.some.injEq] at h
    obtain ⟨hlength, rfl⟩ := h
    refine ⟨cs.takeWhile Char.isDigit, List.takeWhile_append_dropWhile.symm,
      ⟨fun c hc => List.mem_takeWhile_imp hc, hlength⟩, ?_⟩
    have hhead := List.head?_dropWhile_not Char.isDigit cs
    intro c hc
    rw [hc] at hhead
    exact hhead
  · rintro ⟨front, rfl, ⟨hfront, hlength⟩, hhead⟩
    obtain ⟨htake, hdrop⟩ := Text.takeWhile_dropWhile_of_stop hfront hhead
    rw [afterDigits?, htake, hdrop, if_pos hlength]

private theorem fits_digits_iff {least most : Nat} :
    Fits (digits least most) cs ↔ afterDigits? least most cs = some [] := by
  rw [afterDigits?_eq_some_iff]
  simp

private theorem fits_digits_mul {least most : Nat} {form : Form}
    (hstop : ∀ c rest, Fits form (c :: rest) → c.isDigit = false) :
    Fits (digits least most * form) cs ↔
      ∃ rest, afterDigits? least most cs = some rest ∧ Fits form rest := by
  simp only [afterDigits?_eq_some_iff, fits_mul]
  constructor
  · rintro ⟨front, rest, hsplit, hfront, hform⟩
    refine ⟨rest, ⟨front, hsplit, hfront, ?_⟩, hform⟩
    cases rest with
    | nil => nofun
    | cons c rest => simpa using hstop c rest hform
  · rintro ⟨rest, ⟨front, hsplit, hfront, _⟩, hform⟩
    exact ⟨front, rest, hsplit, hfront, hform⟩

private theorem after?_eq_some_iff {c : Char} : after? c cs = some rest ↔ cs = c :: rest := by
  cases cs with
  | nil => simp [after?]
  | cons d rest => simp [after?]

private theorem fits_char_mul {c : Char} {form : Form} :
    Fits (char c * form) cs ↔ ∃ rest, after? c cs = some rest ∧ Fits form rest := by
  simp only [after?_eq_some_iff]
  cases cs with
  | nil => simp
  | cons d rest => simp

private theorem stop_of_fits_char_mul {d : Char} {form : Form} (hd : d.isDigit = false) :
    ∀ c rest, Fits (char d * form) (c :: rest) → c.isDigit = false := by
  intro c rest h
  rwa [(fits_char_mul_cons.1 h).1]

private theorem isDate_iff : isDate cs ↔
    Fits (digits 4 4 * (char '-' * (digits 2 2 * (char '-' * digits 2 2)))) cs := by
  have hdash {form : Form} : ∀ c rest, Fits (char '-' * form) (c :: rest) → c.isDigit = false :=
    stop_of_fits_char_mul rfl
  rw [fits_digits_mul hdash]
  simp only [fits_char_mul, fits_digits_mul hdash, fits_digits_iff, isDate, beq_iff_eq,
    Option.bind_eq_bind, Option.bind_eq_some_iff]

private theorem isZone_iff : isZone cs ↔ Fits zone cs := by
  have hstop : ∀ c rest, Fits (maybe (char ':' * digits 2 2)) (c :: rest) → c.isDigit = false := by
    intro c rest h
    rw [fits_maybe, fits_char_mul_cons] at h
    rw [(h.resolve_left (List.cons_ne_nil c rest)).1]
    rfl
  rw [zone, fits_add, fits_word]
  unfold isZone
  split
  · simp
  · rename_i sign rest hz
    have hword : sign :: rest ≠ "Z".toList := by
      intro h
      obtain ⟨hsign, hrest⟩ := List.cons.inj (show sign :: rest = ['Z'] from h)
      exact hz hsign hrest
    rw [fits_oneOf_mul_cons, fits_digits_mul hstop, ← isSign_iff, Bool.and_eq_true]
    simp only [hword, false_or, fits_maybe, fits_char_mul, fits_digits_iff]
    apply and_congr_right'
    cases hdigits : afterDigits? 1 2 rest with
    | none => simp
    | some after =>
      rcases after with _ | ⟨c, minutes⟩
      · simp
      · by_cases hc : c = ':'
        · simp [hc, after?]
        · simp [hc, after?]
  · simp

private theorem of_fits_zone {c : Char} (h : Fits zone (c :: rest)) : c ∈ ['Z', '-', '+'] := by
  rw [zone, fits_add, fits_word, fits_oneOf_mul_cons] at h
  rcases h with h | h
  · rw [(List.cons.inj (show c :: rest = ['Z'] from h)).1]
    decide
  · exact List.mem_cons_of_mem _ h.1

/-- A zone with gaps in front of it, or nothing at all. -/
private theorem fits_gap_zone :
    Fits (maybe (gap.star * zone)) cs ↔ cs = [] ∨ isZone (cs.dropWhile isGap) := by
  have hstop : ∀ c rest, Fits zone (c :: rest) → c ∉ [' ', '\t'] := by
    intro c rest h hgap
    have hc := of_fits_zone h
    rcases (by simpa using hgap : c = ' ' ∨ c = '\t') with rfl | rfl <;> revert hc <;> decide
  rw [fits_maybe, gap, fits_star_oneOf_mul isGap_iff hstop, isZone_iff]

private theorem of_fits_gap_zone {c : Char} (h : Fits (maybe (gap.star * zone)) (c :: rest)) :
    c ∈ [' ', '\t', 'Z', '-', '+'] := by
  by_cases hc : isGap c
  · exact List.mem_append_left ['Z', '-', '+'] ((isGap_iff c).1 hc)
  · rw [fits_gap_zone, List.dropWhile_cons_of_neg hc, isZone_iff] at h
    have hzone := of_fits_zone (h.resolve_left (List.cons_ne_nil c rest))
    exact List.mem_append_right [' ', '\t'] hzone

private theorem isAfterSeconds_iff : isAfterSeconds cs ↔ Fits afterSeconds cs := by
  have hstop : ∀ c rest, Fits (maybe (gap.star * zone)) (c :: rest) → c ∉ between '0' '9' := by
    intro c rest h
    have hc := of_fits_gap_zone h
    simp only [List.mem_cons, List.not_mem_nil, or_false] at hc
    rcases hc with rfl | rfl | rfl | rfl | rfl <;> decide
  rw [afterSeconds, fits_maybe_mul, fits_mul_assoc]
  unfold isAfterSeconds
  split
  · rename_i fraction
    have hpoint : ¬ Fits (maybe (gap.star * zone)) ('.' :: fraction) := by
      intro h
      exact absurd (of_fits_gap_zone h) (by decide)
    rw [fits_char_mul_cons, digit, fits_star_oneOf_mul isDigit_iff hstop]
    simp only [hpoint, false_or, true_and, fits_gap_zone, Bool.or_eq_true, List.isEmpty_iff]
  · rename_i hcs
    have hpoint : ¬ Fits (char '.' * (digit.star * maybe (gap.star * zone))) cs := by
      rw [fits_char_mul]
      rintro ⟨rest, hrest, _⟩
      exact hcs rest (after?_eq_some_iff.1 hrest)
    simp only [hpoint, or_false, fits_gap_zone, Bool.or_eq_true, List.isEmpty_iff]

private theorem fits_timeMark_mul {form : Form}
    (hstop : ∀ c rest, Fits form (c :: rest) → c ∉ [' ', '\t']) :
    Fits ((oneOf ['T', 't'] + many gap) * form) cs ↔
      ∃ rest, afterTimeMark? cs = some rest ∧ Fits form rest := by
  rw [fits_add_mul, many, fits_mul_assoc, gap]
  cases cs with
  | nil => simp [afterTimeMark?]
  | cons c rest =>
    rw [fits_oneOf_mul_cons, fits_oneOf_mul_cons, fits_star_oneOf_mul isGap_iff hstop, ← isGap_iff]
    by_cases hletter : c = 'T' ∨ c = 't'
    · have hgap : isGap c = false := by rcases hletter with rfl | rfl <;> rfl
      simp [afterTimeMark?, hletter, hgap]
    · by_cases hgap : isGap c
      · simp [afterTimeMark?, hletter, hgap]
      · simp [afterTimeMark?, hletter, hgap]

private theorem isDateTime_iff : isDateTime cs ↔
    Fits (digits 4 4 * (char '-' * (digits 1 2 * (char '-' * (digits 1 2 *
      ((oneOf ['T', 't'] + many gap) * timeOfDay)))))) cs := by
  have hdash {form : Form} : ∀ c rest, Fits (char '-' * form) (c :: rest) → c.isDigit = false :=
    stop_of_fits_char_mul rfl
  have hcolon {form : Form} : ∀ c rest, Fits (char ':' * form) (c :: rest) → c.isDigit = false :=
    stop_of_fits_char_mul rfl
  have hmark {form : Form} : ∀ c rest, Fits ((oneOf ['T', 't'] + many gap) * form) (c :: rest) →
      c.isDigit = false := by
    intro c rest h
    rw [fits_add_mul, many, gap, fits_mul_assoc, fits_oneOf_mul_cons, fits_oneOf_mul_cons] at h
    rcases (by simpa using Or.imp And.left And.left h : (c = 'T' ∨ c = 't') ∨ c = ' ' ∨ c = '\t')
      with (rfl | rfl) | rfl | rfl <;> rfl
  have htime : ∀ c rest, Fits timeOfDay (c :: rest) → c ∉ [' ', '\t'] := by
    intro c rest h hgap
    rw [timeOfDay, digits, fits_mul_assoc, digit, fits_oneOf_mul_cons] at h
    rcases (by simpa using hgap : c = ' ' ∨ c = '\t') with rfl | rfl <;> exact absurd h.1 (by decide)
  have hafter : ∀ c rest, Fits afterSeconds (c :: rest) → c.isDigit = false := by
    intro c rest h
    rw [afterSeconds, fits_maybe_mul, fits_mul_assoc, fits_char_mul_cons] at h
    rcases h with h | ⟨rfl, _⟩
    · have hc := of_fits_gap_zone h
      simp only [List.mem_cons, List.not_mem_nil, or_false] at hc
      rcases hc with rfl | rfl | rfl | rfl | rfl <;> rfl
    · rfl
  simp only [fits_digits_mul hdash, fits_char_mul, fits_digits_mul hmark, fits_timeMark_mul htime]
  simp only [timeOfDay, fits_digits_mul hcolon, fits_char_mul, fits_digits_mul hafter,
    ← isAfterSeconds_iff, isDateTime, Option.bind_eq_bind, Option.any_bind, Function.comp_def,
    Option.any_eq_true]

private theorem isMoment_iff : isDate cs || isDateTime cs ↔ Fits moment cs := by
  rw [Bool.or_eq_true, isDate_iff, isDateTime_iff, moment, fits_add]

end Moments

private theorem firstOf_cons {tag : Tag} {form : Form} {forms : List (Tag × Form)} {cs : List Char}
    {b : Bool} (h : b ↔ Fits form cs) :
    firstOf ((tag, form) :: forms) cs = if b then tag else firstOf forms cs := by
  have hb : form.rmatch cs = b := Bool.eq_iff_iff.2 h.symm
  rw [firstOf, List.find?_cons, hb]
  cases b <;> rfl

/-- The tests find the type whose form a text has. -/
theorem resolve_eq_tagOf (cs : List Char) : resolve cs = tagOf cs := by
  have hboolean : isWordOf booleans cs ↔ Fits boolean cs := isWordOf_iff
  have hnull : isWordOf nulls cs ↔ Fits null cs := isWordOf_iff
  have hword (text : String) : isWordOf [text] cs ↔ Fits (word text) cs := by
    rw [isWordOf, fits_word, List.any_cons, List.any_nil, Bool.or_false, beq_iff_eq, eq_comm]
  rw [resolve, forms, firstOf_cons hboolean, firstOf_cons hnull, firstOf_cons isInteger_iff,
    firstOf_cons isReal_iff, firstOf_cons isMoment_iff, firstOf_cons (hword "="), firstOf_cons (hword "<<")]
  rfl

end PropertyFiles.Listing.Yaml.Implicit
