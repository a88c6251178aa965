import RemoteShell.Text.Blank
import RemoteShell.Text.Utf16

/-!
# Character sets of responses

The body of a response is read in the character set that its content type names, unless it starts with
a byte order mark, which decides then and is dropped.  Without either, and for a name that nobody knows,
the body is UTF-8.  What is malformed becomes U+FFFD.

Not all character sets that have a name are read here, but only those of Unicode and windows-1252.  A
body in one of the others cannot be read, and is not taken for one in UTF-8.
-/

namespace RemoteShell

/-- A way to read bytes as text. -/
inductive Charset where
  | utf8
  | utf16 (little : Bool)
  /-- One character for each byte. -/
  | windows1252
  deriving DecidableEq, Repr

namespace Charset

/-- The names of the character sets. -/
def labels : List (Charset × List String) :=
  [(utf8, ["unicode-1-1-utf-8", "unicode11utf8", "unicode20utf8", "utf-8", "utf8",
      "x-unicode20utf8"]),
   (utf16 false, ["unicodefffe", "utf-16be"]),
   (utf16 true, ["csunicode", "iso-10646-ucs-2", "ucs-2", "unicode", "unicodefeff", "utf-16",
      "utf-16le"]),
   (windows1252, ["ansi_x3.4-1968", "ascii", "cp1252", "cp819", "csisolatin1", "ibm819",
      "iso-8859-1", "iso-ir-100", "iso8859-1", "iso88591", "iso_8859-1", "iso_8859-1:1987", "l1",
      "latin1", "us-ascii", "windows-1252", "x-cp1252"])]

/-- The names of the character sets that are not read here. -/
def otherLabels : List String :=
  ["866", "arabic", "asmo-708", "big5", "big5-hkscs", "chinese", "cn-big5", "cp1250", "cp1251", "cp1253",
   "cp1254", "cp1255", "cp1256", "cp1257", "cp1258", "cp866", "csbig5", "cseuckr", "cseucpkdfmtjapanese",
   "csgb2312", "csibm866", "csiso2022jp", "csiso2022kr", "csiso58gb231280", "csiso88596e", "csiso88596i",
   "csiso88598e", "csiso88598i", "csisolatin2", "csisolatin3", "csisolatin4", "csisolatin5", "csisolatin6",
   "csisolatin9", "csisolatinarabic", "csisolatincyrillic", "csisolatingreek", "csisolatinhebrew",
   "cskoi8r", "csksc56011987", "csmacintosh", "csshiftjis", "cyrillic", "dos-874", "ecma-114", "ecma-118",
   "elot_928", "euc-jp", "euc-kr", "gb18030", "gb2312", "gb_2312", "gb_2312-80", "gbk", "greek", "greek8",
   "hebrew", "hz-gb-2312", "ibm866", "iso-2022-cn", "iso-2022-cn-ext", "iso-2022-jp", "iso-2022-kr",
   "iso-8859-10", "iso-8859-11", "iso-8859-13", "iso-8859-14", "iso-8859-15", "iso-8859-16", "iso-8859-2",
   "iso-8859-3", "iso-8859-4", "iso-8859-5", "iso-8859-6", "iso-8859-6-e", "iso-8859-6-i", "iso-8859-7",
   "iso-8859-8", "iso-8859-8-e", "iso-8859-8-i", "iso-8859-9", "iso-ir-101", "iso-ir-109", "iso-ir-110",
   "iso-ir-126", "iso-ir-127", "iso-ir-138", "iso-ir-144", "iso-ir-148", "iso-ir-149", "iso-ir-157",
   "iso-ir-58", "iso8859-10", "iso8859-11", "iso8859-13", "iso8859-14", "iso8859-15", "iso8859-2",
   "iso8859-3", "iso8859-4", "iso8859-5", "iso8859-6", "iso8859-7", "iso8859-8", "iso8859-9", "iso885910",
   "iso885911", "iso885913", "iso885914", "iso885915", "iso88592", "iso88593", "iso88594", "iso88595",
   "iso88596", "iso88597", "iso88598", "iso88599", "iso_8859-15", "iso_8859-2", "iso_8859-2:1987",
   "iso_8859-3", "iso_8859-3:1988", "iso_8859-4", "iso_8859-4:1988", "iso_8859-5", "iso_8859-5:1988",
   "iso_8859-6", "iso_8859-6:1987", "iso_8859-7", "iso_8859-7:1987", "iso_8859-8", "iso_8859-8:1988",
   "iso_8859-9", "iso_8859-9:1989", "koi", "koi8", "koi8-r", "koi8-ru", "koi8-u", "koi8_r", "korean",
   "ks_c_5601-1987", "ks_c_5601-1989", "ksc5601", "ksc_5601", "l2", "l3", "l4", "l5", "l6", "l9", "latin2",
   "latin3", "latin4", "latin5", "latin6", "logical", "mac", "macintosh", "ms932", "ms_kanji",
   "replacement", "shift-jis", "shift_jis", "sjis", "sun_eu_greek", "tis-620", "visual", "windows-1250",
   "windows-1251", "windows-1253", "windows-1254", "windows-1255", "windows-1256", "windows-1257",
   "windows-1258", "windows-31j", "windows-874", "windows-949", "x-cp1250", "x-cp1251", "x-cp1253",
   "x-cp1254", "x-cp1255", "x-cp1256", "x-cp1257", "x-cp1258", "x-euc-jp", "x-gbk", "x-mac-cyrillic",
   "x-mac-roman", "x-mac-ukrainian", "x-sjis", "x-user-defined", "x-x-big5"]

/-- The character set with a name, or UTF-8 if nobody knows the name; `none` if it is not read here. -/
def ofLabel? (label : String) : Option Charset :=
  let label := Text.lower (Text.trim label)
  if otherLabels.contains label then none
  else some (((labels.find? fun entry => entry.2.contains label).map (·.1)).getD utf8)

/-- The code points of the bytes from 0x80 to 0x9F in windows-1252. -/
def windowsExtras : List Nat :=
  [0x20AC, 0x81, 0x201A, 0x0192, 0x201E, 0x2026, 0x2020, 0x2021, 0x02C6, 0x2030, 0x0160, 0x2039,
   0x0152, 0x8D, 0x017D, 0x8F, 0x90, 0x2018, 0x2019, 0x201C, 0x201D, 0x2022, 0x2013, 0x2014,
   0x02DC, 0x2122, 0x0161, 0x203A, 0x0153, 0x9D, 0x017E, 0x0178]

/-- The character of a byte in windows-1252. -/
def windowsChar (b : UInt8) : Char :=
  if 0x80 ≤ b && b ≤ 0x9F then
    Char.ofNat ((windowsExtras[b.toNat - 0x80]?).getD 0xFFFD)
  else Char.ofNat b.toNat

/-- The text of bytes in a character set. -/
def read (charset : Charset) (bytes : List UInt8) : String :=
  match charset with
  | utf8 => Utf8.decodeLossy bytes
  | utf16 little => Utf16.decodeLossy little bytes
  | windows1252 => String.ofList (bytes.map windowsChar)

/-- The name of the character set in a content type such as `text/xml; charset=utf-8`. -/
def labelOf? (contentType : String) : Option String :=
  match contentType.toList.splitOn ';' with
  | [] => none
  | kind :: parameters =>
    if !kind.contains '/' then none
    else
      parameters.findSome? fun p =>
        let name := p.takeWhile (· ≠ '=')
        if Text.lower (Text.trim (String.ofList name)) = "charset" then
          let value := Text.trim (String.ofList (p.drop (name.length + 1)))
          some (String.ofList (value.toList.filter (· ≠ '"')))
        else none

/-- The text of the body of a response; `none` if its character set is not read here. -/
def readBody? (contentType : Option String) (body : List UInt8) : Option String :=
  match body with
  | 0xEF :: 0xBB :: 0xBF :: rest => some (utf8.read rest)
  | 0xFF :: 0xFE :: rest => some ((utf16 true).read rest)
  | 0xFE :: 0xFF :: rest => some ((utf16 false).read rest)
  | _ =>
    match contentType.bind labelOf? with
    | none => some (utf8.read body)
    | some label => (ofLabel? label).map (·.read body)

end Charset

end RemoteShell
