import CsvCleaning.Text.LowerCase
import CsvCleaning.Text.Search
import Mathlib.Data.List.TakeWhile

/-!
# Lower-casing a part of a text

The lower-case form of a part of a text is that of the part by itself, as long as no capital sigma
in it depends on what stands outside. A sigma does if a letter put before or after the part would
change it: such a letter makes a word end at a sigma that had no letter before it, or takes the end
of a word away from a sigma that had no letter after it. Characters that are case-ignorable are
passed over, so they shield a sigma from nothing.

A part whose sigmas are all settled is found in lower case wherever it stands, and one with a loose
sigma is missed somewhere.
-/

namespace CsvCleaning.Text

/-! ### What a sigma meets -/

/-- Decide whether all characters are case-ignorable, so that what is met beyond them counts. -/
def isOpen (cs : List Char) : Bool :=
  cs.all fun c => inRanges caseIgnorableRanges c.toNat

/-- Beyond case-ignorable characters the first that is not is met. -/
theorem meetsCased_append_of_isOpen {cs : List Char} (h : isOpen cs = true) (rest : List Char) :
    meetsCased (cs ++ rest) = meetsCased rest := by
  have hall : ∀ c ∈ cs, inRanges caseIgnorableRanges c.toNat = true := List.all_eq_true.1 h
  rw [meetsCased, List.dropWhile_append_of_pos hall, meetsCased]

/-- Case-ignorable characters alone are no letter. -/
theorem meetsCased_of_isOpen {cs : List Char} (h : isOpen cs = true) : meetsCased cs = false := by
  have hcs := meetsCased_append_of_isOpen h []
  rw [List.append_nil] at hcs
  exact hcs

/-- Nothing beyond a character that is not case-ignorable is met. -/
theorem meetsCased_append_of_not_isOpen {cs : List Char} (h : isOpen cs = false)
    (rest : List Char) : meetsCased (cs ++ rest) = meetsCased cs := by
  have hrest : (cs.dropWhile fun c => inRanges caseIgnorableRanges c.toNat) ≠ [] := by
    intro hnil
    have hopen : isOpen cs = true := List.all_eq_true.2 (List.dropWhile_eq_nil_iff.1 hnil)
    rw [h] at hopen
    cases hopen
  unfold meetsCased
  rw [List.dropWhile_append]
  cases hdrop : cs.dropWhile fun c => inRanges caseIgnorableRanges c.toNat with
  | nil => exact absurd hdrop hrest
  | cons c after => simp

/-- A capital sigma is not case-ignorable. -/
theorem not_isOpen_of_mem {cs : List Char} (h : capitalSigma ∈ cs) : isOpen cs = false := by
  have hsigma : ¬ inRanges caseIgnorableRanges capitalSigma.toNat = true := by decide +kernel
  exact List.all_eq_false.2 ⟨capitalSigma, h, hsigma⟩

/-! ### Characters among others -/

/-- The lower-case form of a character, given those before it in reverse and those after it. -/
def lowerAt (before : List Char) (c : Char) (after : List Char) : List Char :=
  if c = capitalSigma then [if isWordEnd before after then finalSigma else smallSigma]
  else lowerChar c

/-- The lower-case form of characters, given those before them in reverse and those after them. -/
def lowerBetween : List Char → List Char → List Char → List Char
  | _, [], _ => []
  | before, c :: rest, after =>
    lowerAt before c (rest ++ after) ++ lowerBetween (c :: before) rest after

/-- Characters that nothing follows are lower-cased by what is before them. -/
theorem lowerBetween_nil (before cs : List Char) : lowerBetween before cs [] = lowerAfter before cs := by
  induction cs generalizing before with
  | nil => rfl
  | cons c rest ih =>
    rw [lowerBetween, ih, List.append_nil]
    rfl

/-- Characters in a row are lower-cased part by part, each among the others. -/
theorem lowerBetween_append (before cs cs' after : List Char) :
    lowerBetween before (cs ++ cs') after =
      lowerBetween before cs (cs' ++ after) ++ lowerBetween (cs.reverse ++ before) cs' after := by
  induction cs generalizing before with
  | nil => rfl
  | cons c rest ih =>
    simp only [List.cons_append, List.nil_append, lowerBetween, ih, List.append_assoc,
      List.reverse_cons]

/-- The lower-case form of a text that stands between two others has that of the text among them. -/
theorem lower_append_append (before cs after : List Char) :
    lower (before ++ cs ++ after) =
      lowerBetween [] before (cs ++ after) ++ lowerBetween before.reverse cs after ++
        lowerAfter (before ++ cs).reverse after := by
  rw [lower, ← lowerBetween_nil, lowerBetween_append, lowerBetween_append, List.append_nil,
    List.append_nil, List.append_nil, lowerBetween_nil]

/-- What stands before a character that is not case-ignorable does not matter after it. -/
theorem lowerBetween_append_left {before : List Char} (h : isOpen before = false)
    (outer cs after : List Char) :
    lowerBetween (before ++ outer) cs after = lowerBetween before cs after := by
  induction cs generalizing before with
  | nil => rfl
  | cons c rest ih =>
    have hcons : isOpen (c :: before) = false := by
      rw [isOpen, List.all_cons, ← isOpen, h, Bool.and_false]
    rw [lowerBetween, lowerBetween, ← List.cons_append, ih hcons, lowerAt, lowerAt, isWordEnd,
      isWordEnd, meetsCased_append_of_not_isOpen h]

/-- What stands after a character that is not case-ignorable does not matter before it. -/
theorem lowerBetween_append_right {after : List Char} (h : isOpen after = false)
    (before cs outer : List Char) :
    lowerBetween before cs (after ++ outer) = lowerBetween before cs after := by
  induction cs generalizing before with
  | nil => rfl
  | cons c rest ih =>
    have hrest : isOpen (rest ++ after) = false := by
      rw [isOpen, List.all_append, ← isOpen, ← isOpen, h, Bool.and_false]
    rw [lowerBetween, lowerBetween, ih, lowerAt, lowerAt, isWordEnd, isWordEnd,
      ← List.append_assoc, meetsCased_append_of_not_isOpen hrest]

/-- Case-ignorable characters are lower-cased one by one. -/
theorem lowerBetween_of_isOpen {cs : List Char} (h : isOpen cs = true) (before after : List Char) :
    lowerBetween before cs after = cs.flatMap lowerChar := by
  have hfree : capitalSigma ∉ cs := fun hmem => by
    rw [not_isOpen_of_mem hmem] at h
    cases h
  clear h
  induction cs generalizing before with
  | nil => rfl
  | cons c rest ih =>
    obtain ⟨hc, hrest⟩ := not_or.1 (mt List.mem_cons.2 hfree)
    rw [lowerBetween, ih _ hrest, lowerAt, if_neg (Ne.symm hc), List.flatMap_cons]

/-! ### Settled texts -/

/-- Decide whether a letter put before or after could change whether a word ends between the
reversed text before and the text after. -/
def isLoose (before after : List Char) : Bool :=
  (isOpen before && !meetsCased after) || (meetsCased before && isOpen after)

/-- Whether a word ends is told by what stands nearby, unless that is loose. -/
theorem isWordEnd_append_append {before after : List Char} (h : isLoose before after = false)
    (outer outer' : List Char) :
    isWordEnd (before ++ outer) (after ++ outer') = isWordEnd before after := by
  obtain ⟨hbefore, hafter⟩ := Bool.or_eq_false_iff.1 h
  have hbefore : isOpen before = true → meetsCased after = true := by simpa using hbefore
  have hafter : isOpen after = true → meetsCased before = false := by
    cases hmeets : meetsCased before <;> simp_all
  unfold isWordEnd
  cases hopen : isOpen after with
  | true =>
    -- No letter is before, and none can be put there.
    have hleft := hafter hopen
    have hclosed : isOpen before = false := by
      by_contra hopen'
      have hmeets := hbefore (by simpa using hopen')
      rw [meetsCased_of_isOpen hopen] at hmeets
      cases hmeets
    rw [meetsCased_append_of_not_isOpen hclosed, hleft, Bool.false_and, Bool.false_and]
  | false =>
    rw [meetsCased_append_of_not_isOpen hopen]
    cases hopen' : isOpen before with
    | true => rw [hbefore hopen', Bool.not_true, Bool.and_false, Bool.and_false]
    | false => rw [meetsCased_append_of_not_isOpen hopen']

/-- Decide whether no capital sigma among characters is loose, given those before them in
reverse. -/
def isSettledAfter : List Char → List Char → Bool
  | _, [] => true
  | before, c :: rest =>
    (c ≠ capitalSigma || !isLoose before rest) && isSettledAfter (c :: before) rest

/-- Decide whether the lower-case form of a text is the same wherever the text stands. -/
def isSettled (cs : List Char) : Bool :=
  isSettledAfter [] cs

/-- A text without a capital sigma is settled. -/
theorem isSettled_of_not_mem {cs : List Char} (h : capitalSigma ∉ cs) : isSettled cs = true := by
  suffices hafter : ∀ before, isSettledAfter before cs = true from hafter []
  induction cs with
  | nil => exact fun _ => rfl
  | cons c rest ih =>
    intro before
    obtain ⟨hc, hrest⟩ := not_or.1 (mt List.mem_cons.2 h)
    simp [isSettledAfter, Ne.symm hc, ih hrest]

/-- Settled characters are lower-cased alike whatever else stands around them. -/
theorem lowerBetween_of_isSettledAfter {before cs : List Char}
    (h : isSettledAfter before cs = true) (outer after : List Char) :
    lowerBetween (before ++ outer) cs after = lowerAfter before cs := by
  induction cs generalizing before with
  | nil => rfl
  | cons c rest ih =>
    simp only [isSettledAfter, Bool.and_eq_true, Bool.or_eq_true, decide_eq_true_eq,
      Bool.not_eq_true'] at h
    obtain ⟨hc, hrest⟩ := h
    have hat : lowerAt (before ++ outer) c (rest ++ after) = lowerAt before c rest := by
      unfold lowerAt
      split
      · rename_i hsigma
        rw [isWordEnd_append_append (hc.resolve_left (not_not_intro hsigma))]
      · rfl
    rw [lowerBetween, hat, ← List.cons_append, ih hrest]
    rfl

/-- In characters that are not settled there is a loose capital sigma. -/
theorem exists_isLoose {before cs : List Char} (h : isSettledAfter before cs = false) :
    ∃ left right, cs = left ++ capitalSigma :: right ∧
      isLoose (left.reverse ++ before) right = true := by
  induction cs generalizing before with
  | nil => cases h
  | cons c rest ih =>
    rw [isSettledAfter, Bool.and_eq_false_iff] at h
    rcases h with h | h
    · obtain ⟨hc, hloose⟩ := Bool.or_eq_false_iff.1 h
      have hc : c = capitalSigma := by simpa using hc
      exact ⟨[], rest, by rw [hc, List.nil_append], by simpa using hloose⟩
    · obtain ⟨left, right, hrest, hloose⟩ := ih h
      exact ⟨c :: left, right, by rw [hrest, List.cons_append], by simpa using hloose⟩

/-- A settled text is found in lower case wherever it stands. -/
theorem occursIn_lower_of_isSettled {cs : List Char} (h : isSettled cs = true)
    (before after : List Char) : occursIn (lower cs) (lower (before ++ cs ++ after)) = true := by
  have hcs : lowerBetween before.reverse cs after = lower cs :=
    lowerBetween_of_isSettledAfter h before.reverse after
  rw [lower_append_append, hcs]
  exact occursIn_iff.2 ⟨_, _, rfl⟩

/-! ### Loose sigmas -/

/-- A text has no more of a character than a text in which it occurs. -/
theorem count_le_of_occursIn {cs text : List Char} (h : occursIn cs text = true) (c : Char) :
    cs.count c ≤ text.count c := by
  obtain ⟨before, after, rfl⟩ := occursIn_iff.1 h
  exact (List.infix_append before cs after).sublist.count_le c

/-- A letter meets itself. -/
theorem meetsCased_letter : meetsCased ['a'] = true := by
  decide +kernel

/-- The lower-case form of a text with a capital sigma in it, in three parts. -/
theorem lower_sigma (left right : List Char) :
    lower (left ++ capitalSigma :: right) =
      lowerBetween [] left (capitalSigma :: right) ++
        (if isWordEnd left.reverse right then finalSigma else smallSigma) ::
          lowerAfter (capitalSigma :: left.reverse) right := by
  rw [lower, ← lowerBetween_nil, lowerBetween_append, List.append_nil, List.append_nil,
    lowerBetween, lowerAt, if_pos rfl, List.append_nil, lowerBetween_nil, List.singleton_append]

/-- A text is missed before a letter if its last letter is a capital sigma: the sigma is final in the
text alone, and there it is not. -/
theorem occursIn_lower_append_letter {left right : List Char}
    (hleft : meetsCased left.reverse = true) (hright : isOpen right = true) :
    occursIn (lower (left ++ capitalSigma :: right))
      (lower (left ++ capitalSigma :: (right ++ ['a']))) = false := by
  have hend : isWordEnd left.reverse right = true := by
    rw [isWordEnd, hleft, meetsCased_of_isOpen hright]
    rfl
  have hmiddle : isWordEnd left.reverse (right ++ ['a']) = false := by
    rw [isWordEnd, hleft, meetsCased_append_of_isOpen hright, meetsCased_letter]
    rfl
  have hbefore : lowerBetween [] left (capitalSigma :: (right ++ ['a'])) =
      lowerBetween [] left (capitalSigma :: right) :=
    lowerBetween_append_right (not_isOpen_of_mem List.mem_cons_self) [] left ['a']
  have hafter (before : List Char) :
      lowerAfter before (right ++ ['a']) = lowerAfter before right ++ ['a'] := by
    rw [← lowerBetween_nil, lowerBetween_append, ← lowerBetween_nil,
      lowerBetween_of_isOpen hright, lowerBetween_of_isOpen hright]
    rfl
  refine Bool.eq_false_iff.2 fun hoccurs => ?_
  have hcount := count_le_of_occursIn hoccurs finalSigma
  have hsmall : (smallSigma == finalSigma) = false := by decide
  have hletter : ('a' == finalSigma) = false := by decide
  rw [lower_sigma, lower_sigma, hend, hmiddle, hbefore, hafter] at hcount
  simp only [List.count_append, List.count_cons, List.count_nil, beq_self_eq_true, hsmall, hletter,
    if_true, Bool.false_eq_true, if_false] at hcount
  omega

/-- A text is missed after a letter if a capital sigma is its first letter and none follows: the
sigma is not final in the text alone, and there it is. -/
theorem occursIn_lower_letter_append {left right : List Char}
    (hleft : isOpen left.reverse = true) (hright : meetsCased right = false) :
    occursIn (lower (left ++ capitalSigma :: right))
      (lower ('a' :: left ++ capitalSigma :: right)) = false := by
  have hmiddle : isWordEnd left.reverse right = false := by
    rw [isWordEnd, meetsCased_of_isOpen hleft]
    rfl
  have hend : isWordEnd (left.reverse ++ ['a']) right = true := by
    rw [isWordEnd, meetsCased_append_of_isOpen hleft, meetsCased_letter, hright]
    rfl
  have hopen : isOpen left = true := by
    rwa [isOpen, List.all_reverse] at hleft
  have hbefore (after : List Char) :
      lowerBetween [] ('a' :: left) after = 'a' :: lowerBetween [] left after := by
    rw [lowerBetween, lowerBetween_of_isOpen hopen, lowerBetween_of_isOpen hopen]
    rfl
  have hafter : lowerAfter (capitalSigma :: (left.reverse ++ ['a'])) right =
      lowerAfter (capitalSigma :: left.reverse) right := by
    rw [← lowerBetween_nil, ← lowerBetween_nil, ← List.cons_append,
      lowerBetween_append_left (not_isOpen_of_mem List.mem_cons_self)]
  refine Bool.eq_false_iff.2 fun hoccurs => ?_
  have hcount := count_le_of_occursIn hoccurs smallSigma
  have hfinal : (finalSigma == smallSigma) = false := by decide
  have hletter : ('a' == smallSigma) = false := by decide
  rw [lower_sigma, lower_sigma, List.reverse_cons, hend, hmiddle, hbefore, hafter] at hcount
  simp only [List.count_append, List.count_cons, beq_self_eq_true, hfinal, hletter, if_true,
    Bool.false_eq_true, if_false] at hcount
  omega

/-- A text that is not settled is missed somewhere. -/
theorem exists_not_occursIn_lower {cs : List Char} (h : isSettled cs = false) :
    ∃ before after, occursIn (lower cs) (lower (before ++ cs ++ after)) = false := by
  obtain ⟨left, right, rfl, hloose⟩ := exists_isLoose h
  rw [List.append_nil] at hloose
  rcases Bool.or_eq_true_iff.1 hloose with hloose | hloose
  · obtain ⟨hleft, hright⟩ := Bool.and_eq_true_iff.1 hloose
    have hmissed := occursIn_lower_letter_append hleft (by simpa using hright)
    exact ⟨['a'], [], by rwa [List.append_nil]⟩
  · obtain ⟨hleft, hright⟩ := Bool.and_eq_true_iff.1 hloose
    have hmissed := occursIn_lower_append_letter hleft hright
    exact ⟨[], ['a'], by simpa using hmissed⟩

end CsvCleaning.Text
