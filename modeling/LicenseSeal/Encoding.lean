import LicenseSeal.Encoding.Charset.Dos
import LicenseSeal.Encoding.Charset.Iso
import LicenseSeal.Encoding.Charset.Macintosh
import LicenseSeal.Encoding.Charset.Mainframe
import LicenseSeal.Encoding.Charset.Other
import LicenseSeal.Encoding.Charset.Windows
import LicenseSeal.Encoding.Codecs
import LicenseSeal.Encoding.Escaped
import LicenseSeal.Encoding.Utf32
import LicenseSeal.Encoding.Utf7
import LicenseSeal.Encoding.Utf8

/-!
# Text encodings

The encodings that a configuration can name.  A name is matched without regard to case and
punctuation; `Encoding.encode` and `Encoding.decode` carry a text to bytes and back.  What an
encoding with tables of the system does is up to these.
-/

namespace LicenseSeal

/-- A text encoding. -/
inductive Encoding where
  | utf7
  | utf8
  /-- UTF-8 with a byte order mark in front. -/
  | utf8Marked
  /-- UTF-16 with a byte order mark in front. -/
  | utf16Marked
  | utf16 (order : Encoding.ByteOrder)
  /-- UTF-32 with a byte order mark in front. -/
  | utf32Marked
  | utf32 (order : Encoding.ByteOrder)
  /-- ASCII or, in the raw form, Latin-1 with escapes. -/
  | escaped (raw : Bool)
  | charset (characters : Encoding.Charset)
  /-- An encoding with tables of the system, by its name. -/
  | tabled (name : String)
  deriving DecidableEq, Repr

namespace Encoding

/-- What the name of an encoding stands for. -/
inductive Meaning where
  | text (encoding : Encoding)
  /-- A change of bytes into bytes, or of texts into texts. -/
  | transformation
  /-- The encoding that refuses every text and all bytes. -/
  | refusal
  deriving DecidableEq, Repr

/-- A letter or digit of ASCII, or a full stop. -/
private def isNamePart (c : CodePoint) : Bool :=
  c.isAlphanum || c = '.'

/-- A name in lower case with every run of punctuation between its parts made one underscore. -/
def normalizedName (name : Text) : Text :=
  let spaced := name.map fun c => if isNamePart c then c.toLower else ' '
  Text.join ['_'] ((Text.splitAt ' ' spaced).filter fun part => !part.isEmpty)

/-- What the name of an encoding stands for, with the name and the other names it goes by. -/
private structure Naming where
  meaning : Meaning
  name : String
  aliases : List String

/-- The names of the encodings that follow a rule. -/
private def ruleNamings : List Naming := [
  ⟨.text .utf7, "utf_7", ["u7", "unicode_1_1_utf_7", "utf7"]⟩,
  ⟨.text .utf8, "utf_8", ["cp65001", "u8", "utf", "utf8", "utf8_ucs2", "utf8_ucs4"]⟩,
  ⟨.text .utf8Marked, "utf_8_sig", []⟩,
  ⟨.text .utf16Marked, "utf_16", ["u16", "utf16"]⟩,
  ⟨.text (.utf16 .littleEndian), "utf_16_le", ["unicodelittleunmarked", "utf_16le"]⟩,
  ⟨.text (.utf16 .bigEndian), "utf_16_be", ["unicodebigunmarked", "utf_16be"]⟩,
  ⟨.text .utf32Marked, "utf_32", ["u32", "utf32"]⟩,
  ⟨.text (.utf32 .littleEndian), "utf_32_le", ["utf_32le"]⟩,
  ⟨.text (.utf32 .bigEndian), "utf_32_be", ["utf_32be"]⟩,
  ⟨.text (.escaped false), "unicode_escape", []⟩,
  ⟨.text (.escaped true), "raw_unicode_escape", []⟩,
  ⟨.text (.charset .ascii), "ascii", ["646", "ansi_x3.4_1968", "ansi_x3.4_1986",
    "ansi_x3_4_1968", "cp367", "csascii", "ibm367", "iso646_us", "iso_646.irv_1991", "iso_ir_6",
    "us", "us_ascii"]⟩,
  ⟨.text (.charset .latin1), "latin_1", ["8859", "cp819", "csisolatin1", "ibm819", "iso8859",
    "iso8859_1", "iso_8859_1", "iso_8859_1_1987", "iso_ir_100", "l1", "latin", "latin1"]⟩,
  ⟨.text (.charset .latin1), "charmap", []⟩,
  ⟨.refusal, "undefined", []⟩,
  ⟨.transformation, "base64_codec", ["base64", "base_64"]⟩,
  ⟨.transformation, "bz2_codec", ["bz2"]⟩,
  ⟨.transformation, "hex_codec", ["hex"]⟩,
  ⟨.transformation, "quopri_codec", ["quopri", "quoted_printable", "quotedprintable"]⟩,
  ⟨.transformation, "rot_13", ["rot13"]⟩,
  ⟨.transformation, "uu_codec", ["uu"]⟩,
  ⟨.transformation, "zlib_codec", ["zip", "zlib"]⟩]

private def charsetNamings : List Naming :=
  (isoCharsets ++ windowsCharsets ++ dosCharsets ++ mainframeCharsets ++ macintoshCharsets
    ++ otherCharsets).map fun named =>
      ⟨.text (.charset named.charset), named.name, named.aliases⟩

/-- The names of the encodings with tables of the system. -/
private def tabledNamings : List Naming :=
  [("big5", ["big5_tw", "csbig5", "x_mac_trad_chinese"]),
    ("big5hkscs", ["big5_hkscs", "hkscs"]),
    ("cp932", ["932", "ms932", "ms_kanji", "mskanji"]),
    ("cp949", ["949", "ms949", "uhc"]),
    ("cp950", ["950", "ms950"]),
    ("euc_jis_2004", ["euc_jis2004", "eucjis2004", "jisx0213"]),
    ("euc_jisx0213", ["eucjisx0213"]),
    ("euc_jp", ["eucjp", "u_jis", "ujis"]),
    ("euc_kr", ["euckr", "korean", "ks_c_5601", "ks_c_5601_1987", "ks_x_1001", "ksc5601",
      "ksx1001", "x_mac_korean"]),
    ("gb18030", ["gb18030_2000"]),
    ("gb2312", ["chinese", "csiso58gb231280", "euc_cn", "euccn", "eucgb2312_cn", "gb2312_1980",
      "gb2312_80", "iso_ir_58", "x_mac_simp_chinese"]),
    ("gbk", ["936", "cp936", "ms936"]),
    ("hz", ["hz_gb", "hz_gb_2312", "hzgb"]),
    ("idna", []),
    ("iso2022_jp", ["csiso2022jp", "iso2022jp", "iso_2022_jp"]),
    ("iso2022_jp_1", ["iso2022jp_1", "iso_2022_jp_1"]),
    ("iso2022_jp_2", ["iso2022jp_2", "iso_2022_jp_2"]),
    ("iso2022_jp_2004", ["iso2022jp_2004", "iso_2022_jp_2004"]),
    ("iso2022_jp_3", ["iso2022jp_3", "iso_2022_jp_3"]),
    ("iso2022_jp_ext", ["iso2022jp_ext", "iso_2022_jp_ext"]),
    ("iso2022_kr", ["csiso2022kr", "iso2022kr", "iso_2022_kr"]),
    ("johab", ["cp1361", "ms1361"]),
    ("punycode", []),
    ("shift_jis", ["csshiftjis", "s_jis", "shiftjis", "sjis", "x_mac_japanese"]),
    ("shift_jis_2004", ["s_jis_2004", "shiftjis2004", "sjis_2004"]),
    ("shift_jisx0213", ["s_jisx0213", "shiftjisx0213", "sjisx0213"])].map
      fun (name, aliases) => ⟨.text (.tabled name), name, aliases⟩

/-- The names of all encodings. -/
private def namings : List Naming :=
  ruleNamings ++ charsetNamings ++ tabledNamings

/-- A full stop as an underscore. -/
private def undot (c : CodePoint) : CodePoint :=
  if c = '.' then '_' else c

/-- What a name stands for.  Another name than the encoding's own is also known when its full stops
are written for underscores. -/
def ofName? (name : Text) : Option Meaning :=
  let normalized := normalizedName name
  let undotted := normalized.map undot
  let isKnown (naming : Naming) : Bool :=
    normalized = naming.name.text
      || naming.aliases.any fun known => normalized = known.text || undotted = known.text
  (namings.find? isKnown).map (·.meaning)

/-- What an encoding is used for. -/
inductive Use where
  | encode
  | decode
  deriving DecidableEq, Repr

/-- Why a name gives no encoding. -/
inductive NameError where
  | unknown (name : Text)
  /-- The name holds a surrogate. -/
  | unencodable (error : EncodeError)
  /-- The name holds the null character. -/
  | nullCharacter
  /-- The name stands for a transformation that gives no text or is given none. -/
  | noText (name : Text) (use : Use)
  /-- The name stands for the encoding that refuses every use. -/
  | refused (name : Text) (use : Use)
  deriving DecidableEq, Repr

private def Use.words : Use → String × String
  | .encode => ("encode", "encoding")
  | .decode => ("decode", "decoding")

namespace NameError

/-- The name that a name without an encoding is reported under. -/
def name : NameError → Text
  | .unknown _ | .noText _ _ => "LookupError".text
  | .unencodable _ => "UnicodeEncodeError".text
  | .nullCharacter => "ValueError".text
  | .refused _ _ => "UnicodeError".text

/-- The message of a name that gives no encoding. -/
def message : NameError → Text
  | .unknown name => "unknown encoding: ".text ++ name
  | .unencodable error => error.message.text
  | .nullCharacter => "embedded null character".text
  | .noText name use =>
      "'".text ++ name ++ "' is not a text encoding; use codecs.".text ++ use.words.1.text
        ++ "() to handle arbitrary codecs".text
  | .refused name use =>
      use.words.2.text ++ " with '".text ++ name
        ++ "' codec failed (UnicodeError: undefined encoding)".text

/-- Whether the name was looked up and is not that of a text encoding. -/
def isUnknown : NameError → Bool
  | .unknown _ | .noText _ _ => true
  | .unencodable _ | .nullCharacter | .refused _ _ => false

end NameError

/-- What a name stands for. -/
def meaning (name : Text) : Except NameError Meaning :=
  match Utf8.encode name with
  | .error error => .error (.unencodable error)
  | .ok _ =>
      if name.contains (CodePoint.ofNat 0) then .error .nullCharacter
      else
        match ofName? name with
        | some meaning => .ok meaning
        | none => .error (.unknown name)

def named (name : Text) (use : Use) : Except NameError Encoding :=
  match meaning name with
  | .ok (.text encoding) => .ok encoding
  | .ok .transformation => .error (.noText name use)
  | .ok .refusal => .error (.refused name use)
  | .error error => .error error

/-- The byte order mark of UTF-8. -/
def utf8Mark : Bytes := [0xEF, 0xBB, 0xBF]

def encode (codecs : Codecs) (encoding : Encoding) (text : Text) :
    Except (CodecFailure EncodeError) Bytes :=
  let located (bytes : Except EncodeError Bytes) := bytes.mapError CodecFailure.located
  match encoding with
  | .utf7 => .ok (Utf7.encode text)
  | .utf8 => located (Utf8.encode text)
  | .utf8Marked => located ((Utf8.encode text).map (utf8Mark ++ ·))
  | .utf16Marked =>
      located ((Utf16.encode "utf-16" .littleEndian text).map (Utf16.littleEndianMark ++ ·))
  | .utf16 order => located (Utf16.encode (Utf16.codecName order) order text)
  | .utf32Marked =>
      located ((Utf32.encode "utf-32" .littleEndian text).map (Utf32.littleEndianMark ++ ·))
  | .utf32 order => located (Utf32.encode (Utf32.codecName order) order text)
  | .escaped raw => .ok (Escaped.encode raw text)
  | .charset characters => located (characters.encode text)
  | .tabled name => codecs.encode name text

def decode (codecs : Codecs) (encoding : Encoding) (bytes : Bytes) :
    Except (CodecFailure DecodeError) Text :=
  let located (text : Except DecodeError Text) := text.mapError CodecFailure.located
  match encoding with
  | .utf7 => located (Utf7.decode bytes)
  | .utf8 => located (Utf8.decode bytes)
  | .utf8Marked => located (Utf8.decode ((Text.dropLead? utf8Mark bytes).getD bytes))
  | .utf16Marked => located (Utf16.decodeMarked bytes)
  | .utf16 order => located (Utf16.decode order bytes)
  | .utf32Marked => located (Utf32.decodeMarked bytes)
  | .utf32 order => located (Utf32.decode order bytes)
  | .escaped raw => located (Escaped.decode codecs raw bytes)
  | .charset characters => located (characters.decode bytes)
  | .tabled name => codecs.decode name bytes

end Encoding

end LicenseSeal
