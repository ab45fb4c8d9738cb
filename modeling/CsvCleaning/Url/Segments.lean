import CsvCleaning.Text.Split
import CsvCleaning.Url.Percent

/-!
# Segments of a path

A path is parted by slashes of either kind. A segment that is a dot stands for nothing and one that
is two dots takes away the segment before it; each dot may also be percent-encoded. Where either
comes last, the path ends in an empty segment.
-/

namespace CsvCleaning.Segments

/-- Decide whether a character parts segments. -/
def isSlash (c : Char) : Bool :=
  c == '/' || c == '\\'

/-- Take a dot off the front, plain or percent-encoded. -/
def dropDot? : List Char → Option (List Char)
  | '.' :: rest => some rest
  | '%' :: '2' :: 'e' :: rest | '%' :: '2' :: 'E' :: rest => some rest
  | _ => none

/-- Decide whether a segment is a single dot. -/
def isHere (segment : List Char) : Bool :=
  dropDot? segment == some []

/-- Decide whether a segment is two dots. -/
def isUp (segment : List Char) : Bool :=
  (dropDot? segment).bind dropDot? == some []

/-- Follow segments from those that were passed, the last of them in front. -/
def follow : List (List Char) → List (List Char) → List (List Char)
  | passed, [] => passed.reverse
  | passed, [last] =>
    if isUp last then ([] :: passed.tail).reverse
    else if isHere last then ([] :: passed).reverse
    else (last :: passed).reverse
  | passed, segment :: rest =>
    if isUp segment then follow passed.tail rest
    else if isHere segment then follow passed rest
    else follow (segment :: passed) rest

/-- The segments that are left when all dots are followed. -/
def resolve (segments : List (List Char)) : List (List Char) :=
  follow [] segments

/-- Segments without any dots to follow are left as they are. -/
theorem follow_of_plain {passed segments : List (List Char)}
    (h : ∀ s ∈ segments, isUp s = false ∧ isHere s = false) :
    follow passed segments = passed.reverse ++ segments := by
  induction segments generalizing passed with
  | nil => simp [follow]
  | cons s rest ih =>
    obtain ⟨up, here⟩ := h s List.mem_cons_self
    cases rest with
    | nil => simp [follow, up, here]
    | cons t more =>
      simp [follow, up, here, ih fun x hx => h x (List.mem_cons_of_mem _ hx)]

end CsvCleaning.Segments
