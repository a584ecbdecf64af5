import GroovyRounds.Charset
import GroovyRounds.Charset.Base64Text
import GroovyRounds.Charset.Chinese
import GroovyRounds.Charset.Designated
import GroovyRounds.Charset.Escaped
import GroovyRounds.Charset.Japanese
import GroovyRounds.Charset.Korean
import GroovyRounds.Charset.Page.Dos
import GroovyRounds.Charset.Page.Ebcdic
import GroovyRounds.Charset.Page.Iso
import GroovyRounds.Charset.Page.Mac
import GroovyRounds.Charset.Page.Regional
import GroovyRounds.Charset.Page.Windows
import GroovyRounds.Charset.Punycode
import GroovyRounds.Charset.Unit
import GroovyRounds.Text.Lines

/-!
# Names of character sets

Case, and all punctuation but dots, is of no account in a name. A dot is only
passed over in another name of a set.
-/

namespace GroovyRounds.Charset

/-- A character set with its name and its other names, in plain form. -/
structure Named where
  name : String
  others : List String
  charset : Charset

def ofVariant (variant : Variant) : Charset :=
  .ofBytes (variant.read {})

-- ---------------------------------------------------------------------------
-- All names
-- ---------------------------------------------------------------------------

/-- Sets of all characters. -/
def unicodeSets : List Named := [
  ⟨"utf_8", ["u8", "utf", "utf8", "utf8_ucs2", "utf8_ucs4", "cp65001"], .utf8⟩,
  ⟨"utf_8_sig", [], .utf8Marked⟩,
  ⟨"utf_16", ["u16", "utf16"], .ofBytes (readMarked utf16 2)⟩,
  ⟨"utf_16_be", ["unicodebigunmarked", "utf_16be"], .ofDecoder (utf16 .big)⟩,
  ⟨"utf_16_le", ["unicodelittleunmarked", "utf_16le"], .ofDecoder (utf16 .little)⟩,
  ⟨"utf_32", ["u32", "utf32"], .ofBytes (readMarked utf32 4)⟩,
  ⟨"utf_32_be", ["utf_32be"], .ofDecoder (utf32 .big)⟩,
  ⟨"utf_32_le", ["utf_32le"], .ofDecoder (utf32 .little)⟩,
  ⟨"utf_7", ["u7", "utf7", "unicode_1_1_utf_7"], .ofModal utf7 none⟩,
  ⟨"unicode_escape", [], .ofDecoder escaped⟩,
  ⟨"raw_unicode_escape", [], .ofDecoder rawEscaped⟩,
  ⟨"punycode", [], .ofBytes readPunycode⟩,
  ⟨"idna", [], .failing .unreplaced⟩,
  ⟨"undefined", [], .failing .undefined⟩]

/-- ASCII and ISO 8859. -/
def isoPages : List Named := [
  ⟨"ascii",
    ["646", "ansi_x3.4_1968", "ansi_x3_4_1968", "ansi_x3.4_1986", "cp367", "csascii", "ibm367",
      "iso646_us", "iso_646.irv_1991", "iso_ir_6", "us", "us_ascii"], .ofPage .ascii⟩,
  ⟨"latin_1",
    ["8859", "cp819", "csisolatin1", "ibm819", "iso8859", "iso8859_1", "iso_8859_1",
      "iso_8859_1_1987", "iso_ir_100", "l1", "latin", "latin1"], .ofPage .latin1⟩,
  ⟨"iso8859_1", [], .ofPage .latin1⟩,
  ⟨"charmap", [], .ofPage .latin1⟩,
  ⟨"iso8859_2",
    ["csisolatin2", "iso_8859_2", "iso_8859_2_1987", "iso_ir_101", "l2", "latin2"],
    .ofPage .part2⟩,
  ⟨"iso8859_3",
    ["csisolatin3", "iso_8859_3", "iso_8859_3_1988", "iso_ir_109", "l3", "latin3"],
    .ofPage .part3⟩,
  ⟨"iso8859_4",
    ["csisolatin4", "iso_8859_4", "iso_8859_4_1988", "iso_ir_110", "l4", "latin4"],
    .ofPage .part4⟩,
  ⟨"iso8859_5",
    ["csisolatincyrillic", "cyrillic", "iso_8859_5", "iso_8859_5_1988", "iso_ir_144"],
    .ofPage .part5⟩,
  ⟨"iso8859_6",
    ["arabic", "asmo_708", "csisolatinarabic", "ecma_114", "iso_8859_6", "iso_8859_6_1987",
      "iso_ir_127"], .ofPage .part6⟩,
  ⟨"iso8859_7",
    ["csisolatingreek", "ecma_118", "elot_928", "greek", "greek8", "iso_8859_7",
      "iso_8859_7_1987", "iso_ir_126"], .ofPage .part7⟩,
  ⟨"iso8859_8",
    ["csisolatinhebrew", "hebrew", "iso_8859_8", "iso_8859_8_1988", "iso_ir_138"], .ofPage .part8⟩,
  ⟨"iso8859_9",
    ["csisolatin5", "iso_8859_9", "iso_8859_9_1989", "iso_ir_148", "l5", "latin5"],
    .ofPage .part9⟩,
  ⟨"iso8859_10",
    ["csisolatin6", "iso_8859_10", "iso_8859_10_1992", "iso_ir_157", "l6", "latin6"],
    .ofPage .part10⟩,
  ⟨"iso8859_11", ["thai", "iso_8859_11", "iso_8859_11_2001"], .ofPage .part11⟩,
  ⟨"iso8859_13", ["iso_8859_13", "l7", "latin7"], .ofPage .part13⟩,
  ⟨"iso8859_14",
    ["iso_8859_14", "iso_8859_14_1998", "iso_celtic", "iso_ir_199", "l8", "latin8"],
    .ofPage .part14⟩,
  ⟨"iso8859_15", ["iso_8859_15", "l9", "latin9"], .ofPage .part15⟩,
  ⟨"iso8859_16",
    ["iso_8859_16", "iso_8859_16_2001", "iso_ir_226", "l10", "latin10"], .ofPage .part16⟩]

def windowsPages : List Named := [
  ⟨"cp1250", ["1250", "windows_1250"], .ofPage .windows1250⟩,
  ⟨"cp1251", ["1251", "windows_1251"], .ofPage .windows1251⟩,
  ⟨"cp1252", ["1252", "windows_1252"], .ofPage .windows1252⟩,
  ⟨"cp1253", ["1253", "windows_1253"], .ofPage .windows1253⟩,
  ⟨"cp1254", ["1254", "windows_1254"], .ofPage .windows1254⟩,
  ⟨"cp1255", ["1255", "windows_1255"], .ofPage .windows1255⟩,
  ⟨"cp1256", ["1256", "windows_1256"], .ofPage .windows1256⟩,
  ⟨"cp1257", ["1257", "windows_1257"], .ofPage .windows1257⟩,
  ⟨"cp1258", ["1258", "windows_1258"], .ofPage .windows1258⟩,
  ⟨"cp874", [], .ofPage .windows874⟩]

def dosPages : List Named := [
  ⟨"cp437", ["437", "cspc8codepage437", "ibm437"], .ofPage .dos437⟩,
  ⟨"cp720", [], .ofPage .dos720⟩,
  ⟨"cp737", [], .ofPage .dos737⟩,
  ⟨"cp775", ["775", "cspc775baltic", "ibm775"], .ofPage .dos775⟩,
  ⟨"cp850", ["850", "cspc850multilingual", "ibm850"], .ofPage .dos850⟩,
  ⟨"cp852", ["852", "cspcp852", "ibm852"], .ofPage .dos852⟩,
  ⟨"cp855", ["855", "csibm855", "ibm855"], .ofPage .dos855⟩,
  ⟨"cp856", [], .ofPage .dos856⟩,
  ⟨"cp857", ["857", "csibm857", "ibm857"], .ofPage .dos857⟩,
  ⟨"cp858", ["858", "csibm858", "ibm858"], .ofPage .dos858⟩,
  ⟨"cp860", ["860", "csibm860", "ibm860"], .ofPage .dos860⟩,
  ⟨"cp861", ["861", "cp_is", "csibm861", "ibm861"], .ofPage .dos861⟩,
  ⟨"cp862", ["862", "cspc862latinhebrew", "ibm862"], .ofPage .dos862⟩,
  ⟨"cp863", ["863", "csibm863", "ibm863"], .ofPage .dos863⟩,
  ⟨"cp864", ["864", "csibm864", "ibm864"], .ofPage .dos864⟩,
  ⟨"cp865", ["865", "csibm865", "ibm865"], .ofPage .dos865⟩,
  ⟨"cp866", ["866", "csibm866", "ibm866"], .ofPage .dos866⟩,
  ⟨"cp869", ["869", "cp_gr", "csibm869", "ibm869"], .ofPage .dos869⟩,
  ⟨"cp1006", [], .ofPage .dos1006⟩,
  ⟨"cp1125", ["1125", "ibm1125", "cp866u", "ruscii"], .ofPage .dos1125⟩]

def otherPages : List Named := [
  ⟨"mac_arabic", [], .ofPage .macArabic⟩,
  ⟨"mac_croatian", [], .ofPage .macCroatian⟩,
  ⟨"mac_cyrillic", ["maccyrillic"], .ofPage .macCyrillic⟩,
  ⟨"mac_farsi", [], .ofPage .macFarsi⟩,
  ⟨"mac_greek", ["macgreek"], .ofPage .macGreek⟩,
  ⟨"mac_iceland", ["maciceland"], .ofPage .macIceland⟩,
  ⟨"mac_latin2", ["maccentraleurope", "mac_centeuro", "maclatin2"], .ofPage .macLatin2⟩,
  ⟨"mac_roman", ["macintosh", "macroman"], .ofPage .macRoman⟩,
  ⟨"mac_romanian", [], .ofPage .macRomanian⟩,
  ⟨"mac_turkish", ["macturkish"], .ofPage .macTurkish⟩,
  ⟨"koi8_r", ["cskoi8r"], .ofPage .koi8R⟩,
  ⟨"koi8_t", [], .ofPage .koi8T⟩,
  ⟨"koi8_u", [], .ofPage .koi8U⟩,
  ⟨"kz1048", ["kz_1048", "rk1048", "strk1048_2002"], .ofPage .kz1048⟩,
  ⟨"ptcp154", ["csptcp154", "pt154", "cp154", "cyrillic_asian"], .ofPage .ptcp154⟩,
  ⟨"hp_roman8", ["roman8", "r8", "cp1051", "ibm1051"], .ofPage .roman8⟩,
  ⟨"palmos", [], .ofPage .palm⟩,
  ⟨"tis_620",
    ["tis620", "tis_620_0", "tis_620_2529_0", "tis_620_2529_1", "iso_ir_166"], .ofPage .tis620⟩,
  ⟨"cp037",
    ["037", "csibm037", "ebcdic_cp_ca", "ebcdic_cp_nl", "ebcdic_cp_us", "ebcdic_cp_wt", "ibm037",
      "ibm039"], .ofPage .ebcdic037⟩,
  ⟨"cp273", ["273", "ibm273", "csibm273"], .ofPage .ebcdic273⟩,
  ⟨"cp424", ["424", "csibm424", "ebcdic_cp_he", "ibm424"], .ofPage .ebcdic424⟩,
  ⟨"cp500", ["500", "csibm500", "ebcdic_cp_be", "ebcdic_cp_ch", "ibm500"], .ofPage .ebcdic500⟩,
  ⟨"cp875", [], .ofPage .ebcdic875⟩,
  ⟨"cp1026", ["1026", "csibm1026", "ibm1026"], .ofPage .ebcdic1026⟩,
  ⟨"cp1140", ["1140", "ibm1140"], .ofPage .ebcdic1140⟩]

def eastAsianSets : List Named := [
  ⟨"gb2312",
    ["chinese", "csiso58gb231280", "euc_cn", "euccn", "eucgb2312_cn", "gb2312_1980", "gb2312_80",
      "iso_ir_58", "x_mac_simp_chinese"], .ofDecoder gb2312⟩,
  ⟨"gbk", ["936", "cp936", "ms936"], .ofDecoder gbk⟩,
  ⟨"gb18030", ["gb18030_2000"], .ofDecoder gb18030⟩,
  ⟨"hz", ["hzgb", "hz_gb", "hz_gb_2312"], .ofModal hz false⟩,
  ⟨"big5", ["big5_tw", "csbig5", "x_mac_trad_chinese"], .ofDecoder big5⟩,
  ⟨"cp950", ["950", "ms950"], .ofDecoder cp950⟩,
  ⟨"big5hkscs", ["big5_hkscs", "hkscs"], .ofDecoder hkscs⟩,
  ⟨"euc_kr",
    ["euckr", "korean", "ksc5601", "ks_c_5601", "ks_c_5601_1987", "ksx1001", "ks_x_1001",
      "x_mac_korean"], .ofDecoder eucKr⟩,
  ⟨"cp949", ["949", "ms949", "uhc"], .ofDecoder cp949⟩,
  ⟨"johab", ["cp1361", "ms1361"], .ofDecoder johab⟩,
  ⟨"iso2022_kr", ["csiso2022kr", "iso2022kr", "iso_2022_kr"], .ofVariant .korean⟩,
  ⟨"shift_jis",
    ["csshiftjis", "shiftjis", "sjis", "s_jis", "x_mac_japanese"], .ofDecoder shiftJis⟩,
  ⟨"cp932", ["932", "ms932", "mskanji", "ms_kanji"], .ofDecoder cp932⟩,
  ⟨"euc_jp", ["eucjp", "ujis", "u_jis"], .ofDecoder eucJp⟩,
  ⟨"euc_jis_2004", ["jisx0213", "eucjis2004", "euc_jis2004"], .ofDecoder (eucJis .of2004)⟩,
  ⟨"euc_jisx0213", ["eucjisx0213"], .ofDecoder (eucJis .of2000)⟩,
  ⟨"shift_jis_2004",
    ["shiftjis2004", "sjis_2004", "s_jis_2004"], .ofDecoder (shiftJisExtended .of2004)⟩,
  ⟨"shift_jisx0213",
    ["shiftjisx0213", "sjisx0213", "s_jisx0213"], .ofDecoder (shiftJisExtended .of2000)⟩,
  ⟨"iso2022_jp", ["csiso2022jp", "iso2022jp", "iso_2022_jp"], .ofVariant .japanese⟩,
  ⟨"iso2022_jp_1", ["iso2022jp_1", "iso_2022_jp_1"], .ofVariant .japanese1⟩,
  ⟨"iso2022_jp_2", ["iso2022jp_2", "iso_2022_jp_2"], .ofVariant .japanese2⟩,
  ⟨"iso2022_jp_2004", ["iso_2022_jp_2004", "iso2022jp_2004"], .ofVariant .japanese2004⟩,
  ⟨"iso2022_jp_3", ["iso2022jp_3", "iso_2022_jp_3"], .ofVariant .japanese3⟩,
  ⟨"iso2022_jp_ext", ["iso2022jp_ext", "iso_2022_jp_ext"], .ofVariant .japaneseExtended⟩]

/-- Conversions that are no sets of characters, by name, with their other names. -/
def conversions : List (String × List String) := [
  ("base64_codec", ["base64", "base_64"]),
  ("bz2_codec", ["bz2"]),
  ("hex_codec", ["hex"]),
  ("quopri_codec", ["quopri", "quoted_printable", "quotedprintable"]),
  ("rot_13", ["rot13"]),
  ("uu_codec", ["uu"]),
  ("zlib_codec", ["zip", "zlib"])]

def named : List Named :=
  unicodeSets ++ isoPages ++ windowsPages ++ dosPages ++ otherPages ++ eastAsianSets

-- ---------------------------------------------------------------------------
-- Finding a set
-- ---------------------------------------------------------------------------

/-- Lower case, with one underscore for each run of punctuation inside the name. -/
def plainName (s : String) : String :=
  let words := Text.splitOn ' ' (s.toList.map fun c =>
    if c.isAlphanum || c = '.' then c.toLower else ' ')
  "_".intercalate ((words.filter (!·.isEmpty)).map String.ofList)

def withoutDots (s : String) : String :=
  String.ofList (s.toList.map fun c => if c = '.' then '_' else c)

def find? (name : String) : Option Charset :=
  let byOther (name : String) := named.find? (·.others.contains name)
  (byOther name <|> byOther (withoutDots name) <|> named.find? (·.name = name)).map (·.charset)

def isConversion (name : String) : Bool :=
  conversions.any fun (own, others) =>
    own = name || others.contains name || others.contains (withoutDots name)

/-- The character set of a name as it was given. One name stands for the set of the system,
which is UTF-8. -/
def ofName (given : String) : Except Fault Charset :=
  let name := plainName given
  if given.toList.contains '\x00' then .error .zeroInName
  else if given = "locale" then .ok .utf8
  else if isConversion name then .error (.notText given)
  else match find? name with
    | some charset => .ok charset
    | none => .error (.unknown given)

end GroovyRounds.Charset
