import CsvCleaning.Proofs.Text.Splitting
import CsvCleaning.Url.Basic
import Mathlib.Data.List.DropRight

/-!
# Addresses below a base

An address that is a base, a slash and more text has the scheme, the host and the port of the base
with its slash alone. Only the rest of the text, without what is dropped of it, decides the query
and the fragment, and its segments are followed from those of the base.
-/

namespace CsvCleaning

namespace Segments

/-- Follow segments none of which is the last, from those that were passed. -/
def walk : List (List Char) → List (List Char) → List (List Char)
  | passed, [] => passed
  | passed, segment :: rest =>
    if isUp segment then walk passed.tail rest
    else if isHere segment then walk passed rest
    else walk (segment :: passed) rest

/-- Following segments in front of others is walking along them and following the others. -/
theorem follow_append (passed before : List (List Char)) {after : List (List Char)} (h : after ≠ []) :
    follow passed (before ++ after) = follow (walk passed before) after := by
  induction before generalizing passed with
  | nil => rfl
  | cons segment rest ih =>
    obtain ⟨next, more, hnext⟩ : ∃ next more, rest ++ after = next :: more :=
      List.exists_cons_of_ne_nil fun hnil => h (List.append_eq_nil_iff.mp hnil).2
    rw [List.cons_append, walk, hnext, follow, ← hnext]
    · split
      · exact ih passed.tail
      · split
        · exact ih passed
        · exact ih (segment :: passed)
    · simp

/-- An empty segment at the end stays. -/
theorem follow_empty (passed : List (List Char)) : follow passed [[]] = passed.reverse ++ [[]] := by
  simp [follow, isUp, isHere, dropDot?]

end Segments

namespace Url

/-- Decide whether a character is dropped at the ends of an address. -/
def isMargin (c : Char) : Bool :=
  decide (c.toNat ≤ 0x20)

/-- Decide whether a character is dropped anywhere in an address. -/
def isDropped (c : Char) : Bool :=
  c == '\t' || c == '\n' || c == '\r'

/-- What stays of the beginning of an address. -/
def cleanFront (cs : List Char) : List Char :=
  (cs.dropWhile isMargin).filter (!isDropped ·)

/-- What stays of the end of an address. -/
def cleanEnd (cs : List Char) : List Char :=
  (cs.reverse.dropWhile isMargin).reverse.filter (!isDropped ·)

/-- Before a character that stays, the end of an address is cleaned as its middle is. -/
theorem cleanEnd_append_cons {c : Char} (hmargin : isMargin c = false) (hdropped : isDropped c = false)
    (before after : List Char) :
    cleanEnd (before ++ c :: after) = before.filter (!isDropped ·) ++ c :: cleanEnd after := by
  unfold cleanEnd
  rw [List.reverse_append, List.reverse_cons, List.append_assoc, List.singleton_append,
    Text.dropWhile_append_cons isMargin _ hmargin, List.reverse_append, List.reverse_cons,
    List.reverse_reverse, List.append_assoc, List.singleton_append, List.filter_append,
    List.filter_cons_of_pos (by simp [hdropped])]

/-- Around a character that stays, an address is cleaned apart. -/
theorem clean_append_cons {c : Char} (hmargin : isMargin c = false) (hdropped : isDropped c = false)
    (before after : List Char) :
    clean (before ++ c :: after) = cleanFront before ++ c :: cleanEnd after := by
  change (((before ++ c :: after).dropWhile isMargin).reverse.dropWhile isMargin).reverse.filter
    (!isDropped ·) = _
  rw [Text.dropWhile_append_cons isMargin before hmargin]
  exact cleanEnd_append_cons hmargin hdropped _ after

/-- What is kept of the end of an address is a stretch of it. -/
theorem sublist_cleanEnd (cs : List Char) : (cleanEnd cs).Sublist cs :=
  List.filter_sublist.trans (List.rdropWhile_prefix isMargin cs).sublist

/-- An end is kept as it is exactly if no character is dropped from it, where it stands. -/
theorem cleanEnd_eq_self_iff {cs : List Char} :
    cleanEnd cs = cs ↔ (∀ c ∈ cs, isDropped c = false) ∧ ∀ c ∈ cs.getLast?, isMargin c = false := by
  have hends : cs.rdropWhile isMargin = cs ↔ ∀ c ∈ cs.getLast?, isMargin c = false := by
    rw [List.rdropWhile_eq_self_iff]
    constructor
    · intro hlast c hc
      obtain ⟨hne, rfl⟩ := List.mem_getLast?_eq_getLast hc
      simpa using hlast hne
    · intro hlast hne
      simp [hlast _ (List.getLast_mem_getLast? hne)]
  change (cs.rdropWhile isMargin).filter (!isDropped ·) = cs ↔ _
  rw [← hends]
  constructor
  · intro hself
    have hdropped : cs.rdropWhile isMargin = cs := by
      refine List.Sublist.antisymm (List.rdropWhile_prefix isMargin cs).sublist ?_
      conv_lhs => rw [← hself]
      exact List.filter_sublist
    rw [hdropped, List.filter_eq_self] at hself
    exact ⟨fun c hc => by simpa using hself c hc, hdropped⟩
  · rintro ⟨hkept, hdropped⟩
    rw [hdropped, List.filter_eq_self]
    exact fun c hc => by simp [hkept c hc]

/-- Decide whether a character ends the host and its port. -/
def endsAuthority (c : Char) : Bool :=
  Segments.isSlash c || c == '?' || c == '#'

/-- The host and the port of an address, after the slashes that lead to them. -/
def authority? (scheme : Scheme) (cs : List Char) : Option (String × Option Nat) := do
  let (hostText, portText) := cutPort false (withoutCredentials (cs.takeWhile (!endsAuthority ·)))
  let host ← Host.ofChars? hostText
  let port ← port? scheme portText
  return (host, port)

/-- The path, the query and the fragment that a text spells. -/
def cutMarks (cs : List Char) : List Char × Option (List Char) × Option (List Char) :=
  let (rest, fragment) := Text.cutAt (· == '#') cs
  let (path, query) := Text.cutAt (· == '?') rest
  (path, query, fragment)

/-- A text without marks is all path. -/
theorem cutMarks_of_all {cs : List Char} (h : ∀ c ∈ cs, c ≠ '?' ∧ c ≠ '#') :
    cutMarks cs = (cs, none, none) := by
  rw [cutMarks, Text.cutAt_of_all fun c hc => beq_eq_false_iff_ne.mpr (h c hc).2]
  dsimp only
  rw [Text.cutAt_of_all fun c hc => beq_eq_false_iff_ne.mpr (h c hc).1]

/-- A path without marks is part of the path up to a slash after it. -/
theorem cutMarks_append_slash {path : List Char} (hmarks : ∀ c ∈ path, c ≠ '?' ∧ c ≠ '#')
    (cs : List Char) :
    cutMarks (path ++ '/' :: cs) = (path ++ '/' :: (cutMarks cs).1, (cutMarks cs).2) := by
  have hpath : ∀ c ∈ path ++ ['/'], c ≠ '?' ∧ c ≠ '#' := by
    intro c hc
    rcases List.mem_append.mp hc with hc | hc
    · exact hmarks c hc
    · rw [List.mem_singleton.mp hc]
      decide
  rw [← List.singleton_append, ← List.append_assoc, cutMarks,
    Text.cutAt_append_of_all fun c hc => beq_eq_false_iff_ne.mpr (hpath c hc).2]
  dsimp only
  rw [Text.cutAt_append_of_all fun c hc => beq_eq_false_iff_ne.mpr (hpath c hc).1,
    List.append_assoc]
  rfl

/-- What follows the slash of a base, below segments that were passed. -/
def below (home : Url) (passed : List (List Char)) (cs : List Char) : Url :=
  { home with
    path := (Segments.follow passed ((Text.splitWhere Segments.isSlash (cutMarks cs).1).map
      (Percent.encode keptInPath))).map String.ofList
    query := (cutMarks cs).2.1.map fun q => String.ofList (Percent.encode keptInQuery q)
    fragment := (cutMarks cs).2.2.map fun f => String.ofList (Percent.encode keptInFragment f) }

/-- Below a base are its scheme, its host and its port. -/
theorem place_below (home : Url) (passed : List (List Char)) (cs : List Char) :
    (home.below passed cs).scheme = home.scheme ∧ (home.below passed cs).host = home.host ∧
      (home.below passed cs).port = home.port := by
  unfold below
  exact ⟨rfl, rfl, rfl⟩

/-- Below a base nothing follows but its slash. -/
theorem path_below_nil (home : Url) (passed : List (List Char)) :
    (home.below passed []).path = (passed.reverse.map String.ofList) ++ [""] := by
  change (Segments.follow passed [[]]).map String.ofList = _
  rw [Segments.follow_empty, List.map_append]
  rfl

/-- The address that a host and a port begin and more text ends. -/
def finish (scheme : Scheme) (place : String × Option Nat) (cs : List Char) : Url where
  scheme := scheme
  host := place.1
  port := place.2
  path := readPath (cutMarks cs).1
  query := (cutMarks cs).2.1.map fun q => String.ofList (Percent.encode keptInQuery q)
  fragment := (cutMarks cs).2.2.map fun f => String.ofList (Percent.encode keptInFragment f)

/-- What follows the scheme is the host with its port, and the text from their end on. -/
theorem readAfterScheme?_eq (scheme : Scheme) (cs : List Char) :
    readAfterScheme? scheme cs =
      (authority? scheme (cs.dropWhile Segments.isSlash)).map fun place =>
        finish scheme place ((cs.dropWhile Segments.isSlash).dropWhile (!endsAuthority ·)) := by
  unfold authority?
  simp only [Option.bind_eq_bind, Option.map_bind, Function.comp_def, Option.pure_def, Option.map_some]
  rfl

/-- Segments in front of a slash are passed before those that come after it. -/
theorem follow_splitWhere_append_slash (passed : List (List Char)) (before after : List Char) :
    Segments.follow passed ((Text.splitWhere Segments.isSlash (before ++ '/' :: after)).map
        (Percent.encode keptInPath)) =
      Segments.follow
        (Segments.walk passed ((Text.splitWhere Segments.isSlash before).map (Percent.encode keptInPath)))
        ((Text.splitWhere Segments.isSlash after).map (Percent.encode keptInPath)) := by
  have hafter : (Text.splitWhere Segments.isSlash after).map (Percent.encode keptInPath) ≠ [] := by
    simpa using Text.splitWhere_ne_nil Segments.isSlash after
  rw [Text.splitWhere_append_separator before (by decide), List.map_append,
    Segments.follow_append passed _ hafter]

/-- What comes first below a base without marks is passed before what follows a slash after it. -/
theorem below_append_slash (home : Url) (passed : List (List Char)) {path : List Char}
    (hmarks : ∀ c ∈ path, c ≠ '?' ∧ c ≠ '#') (cs : List Char) :
    home.below passed (path ++ '/' :: cs) =
      home.below (Segments.walk passed
        ((Text.splitWhere Segments.isSlash path).map (Percent.encode keptInPath))) cs := by
  rw [below, cutMarks_append_slash hmarks, follow_splitWhere_append_slash]
  rfl

/-- If the path of a base has no marks, what follows its slash decides the rest of an address. -/
theorem exists_finish_eq_below (scheme : Scheme) (place : String × Option Nat) {path : List Char}
    (hmarks : ∀ c ∈ path, c ≠ '?' ∧ c ≠ '#') :
    ∃ passed, ∀ cs, finish scheme place (path ++ '/' :: cs) =
      (finish scheme place (path ++ ['/'])).below passed cs := by
  -- The first slash of a path parts no segments, so a base without one has none to be passed.
  have hpath : ∃ passed, ∀ cs, readPath (path ++ '/' :: cs) =
      (Segments.follow passed ((Text.splitWhere Segments.isSlash cs).map
        (Percent.encode keptInPath))).map String.ofList := by
    cases path with
    | nil => exact ⟨[], fun cs => rfl⟩
    | cons c rest =>
      exact ⟨_, fun cs => congrArg (List.map String.ofList) (follow_splitWhere_append_slash [] rest cs)⟩
  obtain ⟨passed, hpassed⟩ := hpath
  refine ⟨passed, fun cs => ?_⟩
  rw [finish, cutMarks_append_slash hmarks, hpassed]
  rfl

/-- An address needs a host. -/
theorem authority?_nil (scheme : Scheme) : authority? scheme [] = none := by
  have hhost : Host.ofChars? [] = none := by decide +kernel
  rw [authority?]
  exact congrArg (Option.bind · _) hhost

/-- The host and the port end before a slash. -/
theorem authority?_append_slash (scheme : Scheme) (cs more : List Char) :
    authority? scheme (cs ++ '/' :: more) = authority? scheme (cs ++ ['/']) := by
  have hends : (!endsAuthority '/') = false := by decide
  unfold authority?
  rw [Text.takeWhile_append_cons (!endsAuthority ·) cs hends,
    Text.takeWhile_append_cons (!endsAuthority ·) cs hends]

/-- After the scheme, what follows a slash decides nothing of the host and the port in front of it. -/
theorem exists_readAfterScheme?_eq_finish {scheme : Scheme} {cs : List Char} {home : Url}
    (hhome : readAfterScheme? scheme (cs ++ ['/']) = some home) :
    ∃ place path, path.Sublist cs ∧
      ∀ more, readAfterScheme? scheme (cs ++ '/' :: more) =
        some (finish scheme place (path ++ '/' :: more)) := by
  by_cases hslashes : cs.dropWhile Segments.isSlash = []
  · -- The host would begin after the slash, where there is nothing.
    have hnil : (cs ++ ['/']).dropWhile Segments.isSlash = [] := by
      rw [List.dropWhile_append, hslashes]
      rfl
    rw [readAfterScheme?_eq, hnil, authority?_nil] at hhome
    cases hhome
  · have hdrop (more : List Char) : (cs ++ '/' :: more).dropWhile Segments.isSlash =
        cs.dropWhile Segments.isSlash ++ '/' :: more := by
      rw [List.dropWhile_append, if_neg (by simpa using hslashes)]
    rw [readAfterScheme?_eq, hdrop] at hhome
    obtain ⟨place, hplace, -⟩ := Option.map_eq_some_iff.mp hhome
    refine ⟨place, (cs.dropWhile Segments.isSlash).dropWhile (!endsAuthority ·),
      (List.dropWhile_sublist _).trans (List.dropWhile_sublist _), fun more => ?_⟩
    rw [readAfterScheme?_eq, hdrop, authority?_append_slash, hplace, Option.map_some,
      Text.dropWhile_append_cons (!endsAuthority ·) _ (by decide)]

/-- Let a base be an address with a slash at its end. With more text after the slash it is an address
too, of the same scheme, host and port; what stays of the text when it is cleaned ends it. -/
theorem exists_ofText?_eq_finish {base : String} {home : Url}
    (hhome : ofText? (base ++ "/") = some home) :
    ∃ scheme place path, path.Sublist base.toList ∧
      ∀ text : String, ofText? (base ++ "/" ++ text) =
        some (finish scheme place (path ++ '/' :: cleanEnd text.toList)) := by
  have hclean (text : String) : clean (base ++ "/" ++ text).toList =
      cleanFront base.toList ++ '/' :: cleanEnd text.toList := by
    rw [String.toList_append, String.toList_append, List.append_assoc]
    exact clean_append_cons (by decide) (by decide) _ _
  have hnone : clean (base ++ "/").toList = cleanFront base.toList ++ ['/'] := by
    have hempty := hclean ""
    rwa [String.append_empty] at hempty
  have hfront : (cleanFront base.toList).Sublist base.toList :=
    List.filter_sublist.trans (List.dropWhile_sublist _)
  unfold ofText? at hhome ⊢
  rw [hnone] at hhome
  rcases hcut : Text.cutAt (· == ':') (cleanFront base.toList) with ⟨name, _ | rest⟩
  · -- Without a colon in the base, there is none before the slash either.
    have hcolon : ∀ c ∈ cleanFront base.toList ++ ['/'], (c == ':') = false := by
      intro c hc
      rcases List.mem_append.mp hc with hc | hc
      · exact Text.not_isSeparator_of_cutAt hcut c hc
      · rw [List.mem_singleton.mp hc]
        rfl
    rw [Text.cutAt_of_all hcolon] at hhome
    cases hhome
  · rw [Text.cutAt_append_of_some hcut] at hhome
    obtain ⟨scheme, hscheme, hread⟩ := Option.bind_eq_some_iff.mp hhome
    obtain ⟨place, path, hpath, hfinish⟩ := exists_readAfterScheme?_eq_finish hread
    refine ⟨scheme, place, path, hpath.trans ((Text.sublist_of_cutAt hcut).trans hfront),
      fun text => ?_⟩
    rw [hclean, Text.cutAt_append_of_some hcut]
    dsimp only
    rw [hscheme, Option.bind_some, hfinish]

/-- More text after the slash leaves the scheme, the host and the port as they are. -/
theorem exists_ofText?_append {base : String} {home : Url} (hhome : ofText? (base ++ "/") = some home)
    (text : String) :
    ∃ found, ofText? (base ++ "/" ++ text) = some found ∧
      found.scheme = home.scheme ∧ found.host = home.host ∧ found.port = home.port := by
  obtain ⟨scheme, place, path, -, hfinish⟩ := exists_ofText?_eq_finish hhome
  have hempty := hfinish ""
  rw [String.append_empty, hhome] at hempty
  cases hempty
  exact ⟨_, hfinish text, rfl, rfl, rfl⟩

/-- If the base has no marks besides, its segments are passed before those of the text. -/
theorem exists_ofText?_eq_below {base : String} {home : Url}
    (hmarks : ∀ c ∈ base.toList, c ≠ '?' ∧ c ≠ '#') (hhome : ofText? (base ++ "/") = some home) :
    ∃ passed, ∀ text : String,
      ofText? (base ++ "/" ++ text) = some (home.below passed (cleanEnd text.toList)) := by
  obtain ⟨scheme, place, path, hpath, hfinish⟩ := exists_ofText?_eq_finish hhome
  obtain ⟨passed, hpassed⟩ := exists_finish_eq_below scheme place fun c hc =>
    hmarks c (hpath.subset hc)
  have hself : home = finish scheme place (path ++ ['/']) := by
    have hempty := hfinish ""
    rw [String.append_empty, hhome] at hempty
    exact Option.some.inj hempty
  exact ⟨passed, fun text => by rw [hfinish, hpassed, hself]⟩

end Url

end CsvCleaning
