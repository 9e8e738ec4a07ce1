import RecordSearch.Text.Printable

namespace RecordSearch.Text

/-!
# Quoted literals

How a text is quoted inside the text of a list or a mapping, and in messages. The quote is
the apostrophe, unless the text holds an apostrophe and no double quote. Backslashes and the
quote are escaped, line breaks and tabs have letters, and what is not printed is written by
its number.
-/

/-- The last `width` digits of a code point to the base sixteen. -/
def hexDigits : (width : Nat) → (code : Nat) → List Char
  | 0, _ => []
  | width + 1, code => hexDigits width (code / 16) ++ [Nat.digitChar (code % 16)]

/-- One code point inside a literal with the given quote. -/
def quoteCode (quote : Char) (code : Nat) : List Char :=
  if code = quote.toNat then ['\\', quote]
  else if code = 0x5C then ['\\', '\\']
  else if code = 0x0A then ['\\', 'n']
  else if code = 0x0D then ['\\', 'r']
  else if code = 0x09 then ['\\', 't']
  else if isPrinted code then [Char.ofNat code]
  else if code < 0x100 then '\\' :: 'x' :: hexDigits 2 code
  else if code < 0x10000 then '\\' :: 'u' :: hexDigits 4 code
  else '\\' :: 'U' :: hexDigits 8 code

/-- The quote for a text with these code points. -/
def quoteFor (codes : List Nat) : Char :=
  if codes.contains '\''.toNat && !codes.contains '"'.toNat then '"' else '\''

/-- The literal for a sequence of code points, which may be surrogates. -/
def quoteCodes (codes : List Nat) : String :=
  let quote := quoteFor codes
  String.ofList (quote :: codes.flatMap (quoteCode quote) ++ [quote])

/-- The literal for a text. -/
def quote (s : String) : String := quoteCodes (s.toList.map Char.toNat)

/-- One byte inside a literal where the given quote is escaped: ASCII is printed, the rest
    numbered. -/
def quoteByte (escaped : Char) (byte : UInt8) : List Char :=
  if byte.toNat < 0x7F then quoteCode escaped byte.toNat
  else '\\' :: 'x' :: hexDigits 2 byte.toNat

/-- The literal for a sequence of bytes, without its mark. -/
def quoteBytes (bytes : List UInt8) : String :=
  let quote := quoteFor (bytes.map UInt8.toNat)
  String.ofList (quote :: bytes.flatMap (quoteByte quote) ++ [quote])

/-- The literal for a buffer of bytes, without its mark. It is the apostrophe that is escaped,
    whatever the quote. -/
def quoteBuffer (bytes : List UInt8) : String :=
  let quote := quoteFor (bytes.map UInt8.toNat)
  String.ofList (quote :: bytes.flatMap (quoteByte '\'') ++ [quote])

end RecordSearch.Text
