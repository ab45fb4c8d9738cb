import CsvCleaning.Http.Request

/-!
# A form with one file

The content of an upload: a single part named `file` between two lines that hold a boundary, with
the file's name in quotes and its bytes as they are.
-/

namespace CsvCleaning.FileForm

/-- Write one character of a file name in quotes: a quote, a backslash and the two characters of a
line break have a backslash before them. -/
def quoteChar (c : Char) : List Char :=
  if c = '\\' ∨ c = '\"' ∨ c = '\r' ∨ c = '\n' then ['\\', c] else [c]

/-- Write a file name in quotes. -/
def quote (name : String) : String :=
  String.ofList ('\"' :: (name.toList.flatMap quoteChar ++ ['\"']))

/-- What stands in front of the file's bytes. -/
def opening (boundary name : String) : String :=
  "--" ++ boundary ++ "\r\nContent-Disposition: form-data; name=\"file\"; filename=" ++ quote name
    ++ "\r\nContent-Type: text/csv\r\n\r\n"

/-- What stands after the file's bytes. -/
def closing (boundary : String) : String :=
  "\r\n--" ++ boundary ++ "--\r\n"

/-- The form with a file of a name. -/
def content (boundary name : String) (bytes : Bytes) : Content where
  type := "multipart/form-data; boundary=" ++ boundary
  body := Bytes.utf8 (opening boundary name) ++ bytes ++ Bytes.utf8 (closing boundary)

end CsvCleaning.FileForm
