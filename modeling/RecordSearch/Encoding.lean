import RecordSearch.Encoding.Chinese
import RecordSearch.Encoding.CodePage.Console
import RecordSearch.Encoding.CodePage.Latin
import RecordSearch.Encoding.CodePage.Macintosh
import RecordSearch.Encoding.CodePage.Mainframe
import RecordSearch.Encoding.CodePage.Regional
import RecordSearch.Encoding.CodePage.Windows
import RecordSearch.Encoding.Designated
import RecordSearch.Encoding.DomainName
import RecordSearch.Encoding.Escaped
import RecordSearch.Encoding.Japanese
import RecordSearch.Encoding.Korean
import RecordSearch.Platform

namespace RecordSearch

/-!
# Encodings

How the bytes of a file are read as text, and by which names this is asked for. Files are written
in UTF-8; to read one in another encoding gives another text, or fails.

* `Encoding`, `Encoding.reread`: an encoding, and the code points of a text whose bytes are read in
  it, which can be surrogates;
* `Encoding.codec`: what is found under a name.
-/

/-- How bytes stand for text. -/
inductive Encoding where
  /-- In UTF-8, as they are written. -/
  | utf8
  /-- In UTF-8 after a mark that is no text. -/
  | utf8Marked
  /-- Step by step, under a name in messages. -/
  | stepwise (name : String) (step : Nat → List Nat → ByteStep)
  /-- In units of so many bits, whose order a mark must say; in UTF-8 there is no such mark. -/
  | unmarked (bits : Nat) (step : Nat → List Nat → ByteStep)
  /-- In pairs of characters of ASCII. -/
  | hz
  /-- By sets that escapes designate. -/
  | designating (encoding : DesignatingEncoding)
  /-- By numbers for the places of characters. -/
  | punycode
  /-- By labels that may be the short forms of others. -/
  | domainName
  /-- Not at all. -/
  | unreadable

namespace Encoding

/-- The code points of bytes. The text as it is written is given too. -/
def decode (written : String) (bytes : List Nat) :
    Encoding → Except DecodingFault (List Nat)
  | .utf8 => .ok (Text.codes written)
  | .utf8Marked => .ok (Text.withoutMark (Text.codes written))
  | .stepwise name step => decodeBy name step 0 bytes
  | .unmarked bits step => do
    let codes ← decodeBy ("utf-" ++ toString bits ++ ByteOrder.little.suffix) step 0 bytes
    if bits / 8 ≤ bytes.length then throw (.noMark bits) else return codes
  | .hz => decodeHz false 0 bytes
  | .designating encoding => encoding.decode bytes
  | .punycode => decodePunycode bytes
  | .domainName => decodeDomainName bytes
  | .unreadable => .error .nothingReadable

/-- The code points of a text whose bytes are read in the encoding. -/
def reread (encoding : Encoding) (text : String) : Except DecodingFault (List Nat) :=
  encoding.decode text (text.toUTF8.toList.map UInt8.toNat)

/-! ### Names -/

/-- An encoding with its name and further names. Without one there is a way to change bytes under
    the names, but not to text. -/
structure Named where
  name : String
  names : List String
  encoding : Option Encoding

/-- The encodings of Unicode, and those with escapes. -/
def generalNames : List Named := [
  ⟨"utf_8", ["u8", "utf", "utf8", "utf8_ucs2", "utf8_ucs4", "cp65001"], some .utf8⟩,
  ⟨"utf_8_sig", [], some .utf8Marked⟩,
  ⟨"utf_16", ["u16", "utf16"], some (.unmarked 16 (utf16Step .little))⟩,
  ⟨"utf_16_le", ["unicodelittleunmarked", "utf_16le"],
      some (.stepwise "utf-16-le" (utf16Step .little))⟩,
  ⟨"utf_16_be", ["unicodebigunmarked", "utf_16be"], some (.stepwise "utf-16-be" (utf16Step .big))⟩,
  ⟨"utf_32", ["u32", "utf32"], some (.unmarked 32 (utf32Step .little))⟩,
  ⟨"utf_32_le", ["utf_32le"], some (.stepwise "utf-32-le" (utf32Step .little))⟩,
  ⟨"utf_32_be", ["utf_32be"], some (.stepwise "utf-32-be" (utf32Step .big))⟩,
  ⟨"utf_7", ["u7", "utf7", "unicode_1_1_utf_7"], some (.stepwise "utf7" utf7Step)⟩,
  ⟨"ascii", ["646", "ansi_x3.4_1968", "ansi_x3_4_1968", "ansi_x3.4_1986", "cp367", "csascii",
      "ibm367", "iso646_us", "iso_646.irv_1991", "iso_ir_6", "us", "us_ascii"],
      some (.stepwise "ascii" asciiStep)⟩,
  ⟨"latin_1", ["8859", "cp819", "csisolatin1", "ibm819", "iso8859", "iso8859_1", "iso_8859_1",
      "iso_8859_1_1987", "iso_ir_100", "l1", "latin", "latin1"],
      some (.stepwise "latin-1" latinStep)⟩,
  ⟨"charmap", [], some (.stepwise "charmap" latinStep)⟩,
  ⟨"unicode_escape", [], some (.stepwise "unicodeescape" escapedStep)⟩,
  ⟨"raw_unicode_escape", [], some (.stepwise "rawunicodeescape" rawEscapedStep)⟩,
  ⟨"punycode", [], some .punycode⟩,
  ⟨"idna", [], some .domainName⟩,
  ⟨"undefined", [], some .unreadable⟩]

/-- The encodings with more than one byte for a character. -/
def pairNames : List Named := [
  ⟨"shift_jis", ["csshiftjis", "shiftjis", "sjis", "s_jis", "x_mac_japanese"],
      some (.stepwise "shift_jis" shiftJisStep)⟩,
  ⟨"cp932", ["932", "ms932", "mskanji", "ms_kanji"], some (.stepwise "cp932" cp932Step)⟩,
  ⟨"shift_jisx0213", ["shiftjisx0213", "sjisx0213", "s_jisx0213"],
      some (.stepwise "shift_jisx0213" (shiftJisX0213Step false))⟩,
  ⟨"shift_jis_2004", ["shiftjis2004", "sjis_2004", "s_jis_2004"],
      some (.stepwise "shift_jis_2004" (shiftJisX0213Step true))⟩,
  ⟨"euc_jp", ["eucjp", "ujis", "u_jis"], some (.stepwise "euc_jp" eucJpStep)⟩,
  ⟨"euc_jisx0213", ["eucjisx0213"], some (.stepwise "euc_jisx0213" (eucJisX0213Step false))⟩,
  ⟨"euc_jis_2004", ["jisx0213", "eucjis2004", "euc_jis2004"],
      some (.stepwise "euc_jis_2004" (eucJisX0213Step true))⟩,
  ⟨"gb2312", ["chinese", "csiso58gb231280", "euc_cn", "euccn", "eucgb2312_cn", "gb2312_1980",
      "gb2312_80", "iso_ir_58", "x_mac_simp_chinese"], some (.stepwise "gb2312" gb2312Step)⟩,
  ⟨"gbk", ["936", "cp936", "ms936"], some (.stepwise "gbk" gbkStep)⟩,
  ⟨"gb18030", ["gb18030_2000"], some (.stepwise "gb18030" gb18030Step)⟩,
  ⟨"big5", ["big5_tw", "csbig5", "x_mac_trad_chinese"], some (.stepwise "big5" big5Step)⟩,
  ⟨"cp950", ["950", "ms950"], some (.stepwise "cp950" cp950Step)⟩,
  ⟨"big5hkscs", ["big5_hkscs", "hkscs"], some (.stepwise "big5hkscs" hkscsStep)⟩,
  ⟨"euc_kr", ["euckr", "korean", "ksc5601", "ks_c_5601", "ks_c_5601_1987", "ksx1001",
      "ks_x_1001", "x_mac_korean"], some (.stepwise "euc_kr" eucKrStep)⟩,
  ⟨"cp949", ["949", "ms949", "uhc"], some (.stepwise "cp949" cp949Step)⟩,
  ⟨"johab", ["cp1361", "ms1361"], some (.stepwise "johab" johabStep)⟩,
  ⟨"hz", ["hzgb", "hz_gb", "hz_gb_2312"], some .hz⟩]

/-- What changes bytes to bytes, or text to text. -/
def otherNames : List Named := [
  ⟨"base64_codec", ["base64", "base_64"], none⟩,
  ⟨"bz2_codec", ["bz2"], none⟩,
  ⟨"hex_codec", ["hex"], none⟩,
  ⟨"quopri_codec", ["quopri", "quoted_printable", "quotedprintable"], none⟩,
  ⟨"rot_13", ["rot13"], none⟩,
  ⟨"uu_codec", ["uu"], none⟩,
  ⟨"zlib_codec", ["zip", "zlib"], none⟩]

/-- An encoding with designated sets. -/
def ofDesignating (encoding : DesignatingEncoding) : Named :=
  ⟨encoding.name, encoding.names, some (.designating encoding)⟩

/-- A code page as an encoding. -/
def ofPage (page : CodePage) : Named :=
  ⟨page.name, page.names, some (.stepwise "charmap" page.step)⟩

/-- All encodings. -/
def all : List Named :=
  generalNames ++ pairNames ++ designatingEncodings.map ofDesignating ++ otherNames
    ++ (isoLatinPages ++ regionalPages ++ windowsPages ++ consolePages ++ macintoshPages
      ++ mainframePages).map ofPage

/-- The words of a name, which hold letters, digits and points. -/
def nameWords : List Char → List (List Char)
  | [] => [[]]
  | c :: cs =>
    match c.isAlphanum || c = '.', nameWords cs with
    | true, word :: words => (c.toLower :: word) :: words
    | _, words => [] :: words

/-- A name in small letters with underscores between its words. -/
def plainName (name : String) : String :=
  "_".intercalate (((nameWords name.toList).filter (!·.isEmpty)).map String.ofList)

/-- Does an encoding have a name? In a further name a point can stand for an underscore. -/
def Named.isCalled (encoding : Named) (name : String) : Bool :=
  encoding.name == name || encoding.names.contains name
    || encoding.names.contains (String.ofList (name.toList.map fun c => if c = '.' then '_' else c))

/-- What is found under a name, in any case and with any signs between its words. One name stands
    for the encoding of the surroundings. -/
def codec (name : String) : Codec :=
  if name = "locale" then .utf8
  else match all.find? fun e => e.isCalled (plainName name) with
    | some ⟨_, _, some e⟩ => .reading e.reread
    | some _ => .notText
    | none => .unknown

end Encoding

end RecordSearch
