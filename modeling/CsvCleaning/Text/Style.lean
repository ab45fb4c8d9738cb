/-!
# Styled terminal text

A style is a list of terminal codes. Styled text is wrapped in an opening sequence and a reset, and
every reset inside it is followed by the opening sequence again, so that text styled before may
stand inside. With colour off a text stays as it is.
-/

namespace CsvCleaning.Text

/-- A terminal code. -/
inductive Code where
  | bold
  | dimmed
  | red
  | green
  | yellow
  | blue
  | cyan
deriving DecidableEq, Repr

/-- The number of a code. -/
def Code.number : Code → String
  | bold => "1"
  | dimmed => "2"
  | red => "31"
  | green => "32"
  | yellow => "33"
  | blue => "34"
  | cyan => "36"

/-- The character that begins a terminal sequence. -/
def escape : Char :=
  Char.ofNat 0x1B

/-- The sequence that ends all styles. -/
def reset : List Char :=
  [escape, '[', '0', 'm']

/-- The sequence that begins a style. -/
def opening (codes : List Code) : List Char :=
  escape :: '[' :: ((";".intercalate (codes.map Code.number)).toList ++ ['m'])

/-- Put a sequence after every reset in a text. -/
def reopen (again : List Char) : List Char → List Char
  | a :: b :: c :: d :: rest =>
    if [a, b, c, d] = reset then reset ++ again ++ reopen again rest
    else a :: reopen again (b :: c :: d :: rest)
  | cs => cs

/-- Style a text, if colour is on. -/
def style (color : Bool) (codes : List Code) (text : String) : String :=
  if color then
    let first := opening codes
    String.ofList (first ++ reopen first text.toList ++ reset)
  else text

/-- Without colour a text stays as it is. -/
theorem style_false (codes : List Code) (text : String) : style false codes text = text := rfl

end CsvCleaning.Text
