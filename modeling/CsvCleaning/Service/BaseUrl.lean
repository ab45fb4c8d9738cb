import CsvCleaning.Failure

/-!
# Base addresses

The address of the service has to begin with `http://` or `https://`, in lower case. Slashes at
its end are dropped, since every endpoint begins with one.
-/

namespace CsvCleaning.BaseUrl

/-- Decide whether an address begins with a scheme that is spoken. -/
def hasScheme (url : String) : Bool :=
  "http://".toList.isPrefixOf url.toList || "https://".toList.isPrefixOf url.toList

/-- Refuse an address without such a scheme. -/
def check (url : String) : Except Failure Unit :=
  if hasScheme url then .ok () else .error (.validation ("Invalid URL format: " ++ url))

/-- An address without the slashes at its end. -/
def trim (url : String) : String :=
  String.ofList (url.toList.reverse.dropWhile (· == '/')).reverse

/-- An address is accepted exactly when it has such a scheme. -/
theorem check_eq_ok_iff {url : String} : check url = .ok () ↔ hasScheme url = true := by
  unfold check
  split <;> simp_all

end CsvCleaning.BaseUrl
