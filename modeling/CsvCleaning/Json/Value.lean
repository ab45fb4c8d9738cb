import CsvCleaning.Number.Binary64
import CsvCleaning.SortedMap

/-!
# JSON values

A number is a whole number or a binary64 value. A whole number comes from a token without a point
and an exponent that fits 64 bits. The members of an object stand in order of their names, each
name once.
-/

namespace CsvCleaning

/-- A JSON number. -/
inductive JsonNumber where
  | int (n : Int)
  | real (x : Binary64)
deriving DecidableEq, Repr

/-- A JSON value. -/
inductive Json where
  | null
  | bool (b : Bool)
  | number (n : JsonNumber)
  | text (s : String)
  | array (items : List Json)
  | object (members : List (String × Json))

namespace JsonNumber

/-- Decide whether a number is zero, of either kind and either sign. -/
def isZero : JsonNumber → Bool
  | int n => n == 0
  | real x => x.isZero

end JsonNumber

namespace Json

instance : Inhabited Json :=
  ⟨null⟩

mutual

/-- Decide whether two values are the same. -/
def decEq : (a b : Json) → Decidable (a = b)
  | null, null => .isTrue rfl
  | bool a, bool b => if h : a = b then .isTrue (h ▸ rfl) else .isFalse fun e => h (bool.inj e)
  | number a, number b =>
    if h : a = b then .isTrue (h ▸ rfl) else .isFalse fun e => h (number.inj e)
  | text a, text b => if h : a = b then .isTrue (h ▸ rfl) else .isFalse fun e => h (text.inj e)
  | array xs, array ys =>
    match decEqItems xs ys with
    | .isTrue h => .isTrue (h ▸ rfl)
    | .isFalse h => .isFalse fun e => h (array.inj e)
  | object xs, object ys =>
    match decEqMembers xs ys with
    | .isTrue h => .isTrue (h ▸ rfl)
    | .isFalse h => .isFalse fun e => h (object.inj e)
  | null, bool _ | null, number _ | null, text _ | null, array _ | null, object _
  | bool _, null | bool _, number _ | bool _, text _ | bool _, array _ | bool _, object _
  | number _, null | number _, bool _ | number _, text _ | number _, array _
  | number _, object _ | text _, null | text _, bool _ | text _, number _ | text _, array _
  | text _, object _ | array _, null | array _, bool _ | array _, number _ | array _, text _
  | array _, object _ | object _, null | object _, bool _ | object _, number _
  | object _, text _ | object _, array _ => .isFalse fun e => nomatch e

/-- Decide whether two lists of values are the same. -/
def decEqItems : (xs ys : List Json) → Decidable (xs = ys)
  | [], [] => .isTrue rfl
  | x :: xs, y :: ys =>
    match decEq x y, decEqItems xs ys with
    | .isTrue h, .isTrue h' => .isTrue (h ▸ h' ▸ rfl)
    | .isFalse h, _ => .isFalse fun e => h (List.cons.inj e).1
    | _, .isFalse h => .isFalse fun e => h (List.cons.inj e).2
  | [], _ :: _ | _ :: _, [] => .isFalse fun e => nomatch e

/-- Decide whether two lists of members are the same. -/
def decEqMembers : (xs ys : List (String × Json)) → Decidable (xs = ys)
  | [], [] => .isTrue rfl
  | (k, x) :: xs, (k', y) :: ys =>
    match decEq x y, decEqMembers xs ys with
    | .isTrue h, .isTrue h' =>
      if hk : k = k' then .isTrue (h ▸ h' ▸ hk ▸ rfl)
      else .isFalse fun e => hk (Prod.mk.inj (List.cons.inj e).1).1
    | .isFalse h, _ => .isFalse fun e => h (Prod.mk.inj (List.cons.inj e).1).2
    | _, .isFalse h => .isFalse fun e => h (List.cons.inj e).2
  | [], _ :: _ | _ :: _, [] => .isFalse fun e => nomatch e

end

instance : DecidableEq Json :=
  decEq

/-- A whole number that is not negative. -/
def count (n : Nat) : Json :=
  number (.int n)

/-- The object with these members, the last of a name counting. -/
def ofMembers (members : List (String × Json)) : Json :=
  object (SortedMap.ofList members).entries

/-- The array of some texts. -/
def texts (ss : List String) : Json :=
  array (ss.map text)

/-- A value or null. -/
def ofOption {α : Type} (f : α → Json) : Option α → Json
  | some a => f a
  | none => null

/-- The member of an object with a name. -/
def member? (name : String) : Json → Option Json
  | object members => (members.find? (·.1 == name)).map (·.2)
  | _ => none

end Json

end CsvCleaning
