import BundleHost.Text.Case
import BundleHost.Text.Charset.Designated
import BundleHost.Text.Charset.Escaped
import BundleHost.Text.Charset.OctetSets
import BundleHost.Text.Charset.Punycode
import BundleHost.Text.Charset.Shifted
import BundleHost.Text.Charset.Wide

/-! The ways in which a file can hold text, each under the names by which people call it. Names are
compared without regard to letter case and to what stands between their letters and digits. -/

namespace BundleHost

inductive Charset
  | utf8
  /-- The same with a mark at the start, which is no part of the text. -/
  | markedUtf8
  | utf16 (order : Option Charset.Order)
  | utf32 (order : Option Charset.Order)
  | octets (table : Text)
  | utf7
  /-- With escapes of all kinds, or by number only. -/
  | escaped (onlyNumbers : Bool)
  | punycode
  | hostName
  | extendedJapanese (edition : Charset.Japanese.Edition)
  | shiftedJapanese (edition : Charset.Japanese.Edition)
  | windowsJapanese
  | gb2312
  | gbk
  | gb18030
  /-- The characters of the oldest Chinese set between tildes and braces. -/
  | switchedChinese
  | big5
  | windowsBig5
  | hongKong
  | korean
  | unifiedKorean
  | combinedKorean
  | designated (d : Charset.Designated)
  /-- A way in which no text can be held. -/
  | unusable
deriving DecidableEq, Repr

namespace Charset

/-- A charset under its own name, which comes first, and under other names. -/
structure Listing where
  name : Text
  others : List Text := []
  charset : Charset

def listings : List Listing := [
  ⟨"utf_8", ["u8", "utf", "utf8", "utf8_ucs2", "utf8_ucs4", "cp65001"], utf8⟩,
  ⟨"utf_8_sig", [], markedUtf8⟩,
  ⟨"utf_16", ["u16", "utf16"], utf16 none⟩,
  ⟨"utf_16_le", ["unicodelittleunmarked", "utf_16le"], utf16 (some .little)⟩,
  ⟨"utf_16_be", ["unicodebigunmarked", "utf_16be"], utf16 (some .big)⟩,
  ⟨"utf_32", ["u32", "utf32"], utf32 none⟩,
  ⟨"utf_32_le", ["utf_32le"], utf32 (some .little)⟩,
  ⟨"utf_32_be", ["utf_32be"], utf32 (some .big)⟩,
  ⟨"utf_7", ["u7", "utf7", "unicode_1_1_utf_7"], utf7⟩,
  ⟨"unicode_escape", [], escaped false⟩,
  ⟨"raw_unicode_escape", [], escaped true⟩,
  ⟨"punycode", [], punycode⟩,
  ⟨"idna", [], hostName⟩,
  ⟨"undefined", [], unusable⟩,
  ⟨"euc_jp", ["eucjp", "ujis", "u_jis"], extendedJapanese .jis0208⟩,
  ⟨"euc_jisx0213", ["eucjisx0213"], extendedJapanese .jis0213of2000⟩,
  ⟨"euc_jis_2004", ["jisx0213", "eucjis2004", "euc_jis2004"], extendedJapanese .jis0213of2004⟩,
  ⟨"shift_jis", ["csshiftjis", "shiftjis", "sjis", "s_jis", "x_mac_japanese"],
    shiftedJapanese .jis0208⟩,
  ⟨"shift_jisx0213", ["shiftjisx0213", "sjisx0213", "s_jisx0213"],
    shiftedJapanese .jis0213of2000⟩,
  ⟨"shift_jis_2004", ["shiftjis2004", "sjis_2004", "s_jis_2004"],
    shiftedJapanese .jis0213of2004⟩,
  ⟨"cp932", ["932", "ms932", "mskanji", "ms_kanji"], windowsJapanese⟩,
  ⟨"gb2312", ["chinese", "csiso58gb231280", "euc_cn", "euccn", "eucgb2312_cn", "gb2312_1980",
    "gb2312_80", "iso_ir_58", "x_mac_simp_chinese"], gb2312⟩,
  ⟨"gbk", ["936", "cp936", "ms936"], gbk⟩,
  ⟨"gb18030", ["gb18030_2000"], gb18030⟩,
  ⟨"hz", ["hzgb", "hz_gb", "hz_gb_2312"], switchedChinese⟩,
  ⟨"big5", ["big5_tw", "csbig5", "x_mac_trad_chinese"], big5⟩,
  ⟨"cp950", ["950", "ms950"], windowsBig5⟩,
  ⟨"big5hkscs", ["big5_hkscs", "hkscs"], hongKong⟩,
  ⟨"euc_kr", ["euckr", "korean", "ksc5601", "ks_c_5601", "ks_c_5601_1987", "ksx1001", "ks_x_1001",
    "x_mac_korean"], korean⟩,
  ⟨"cp949", ["949", "ms949", "uhc"], unifiedKorean⟩,
  ⟨"johab", ["cp1361", "ms1361"], combinedKorean⟩,
  ⟨"iso2022_jp", ["csiso2022jp", "iso2022jp", "iso_2022_jp"], designated .japanese⟩,
  ⟨"iso2022_jp_1", ["iso2022jp_1", "iso_2022_jp_1"], designated .japaneseMore⟩,
  ⟨"iso2022_jp_2", ["iso2022jp_2", "iso_2022_jp_2"], designated .multilingual⟩,
  ⟨"iso2022_jp_2004", ["iso_2022_jp_2004", "iso2022jp_2004"], designated .japanese2004⟩,
  ⟨"iso2022_jp_3", ["iso2022jp_3", "iso_2022_jp_3"], designated .japanese2000⟩,
  ⟨"iso2022_jp_ext", ["iso2022jp_ext", "iso_2022_jp_ext"], designated .japaneseKana⟩,
  ⟨"iso2022_kr", ["csiso2022kr", "iso2022kr", "iso_2022_kr"], designated .korean⟩]

/-! ### Names -/

/-- A name in small letters, with one low line between its parts. Full stops are left as they
are. -/
def simpleName (name : Text) : Text :=
  let isKept (c : Char) : Bool := c.isAlphanum || c == '.'
  let spaced := (Text.lowerAscii name).map fun c => if isKept c then c else '_'
  Text.join ['_'] ((Text.split '_' spaced).filter fun part => !part.isEmpty)

def withoutStops (name : Text) : Text := name.map fun c => if c = '.' then '_' else c

/-- Whether a simple name is that of a listing. Only the other names may be written with full stops
for their low lines. -/
def Listing.isNamed (l : Listing) (name : Text) : Bool :=
  l.name = name || l.others.contains name || l.others.contains (withoutStops name)

def listingOf (s : OctetSet) : Listing :=
  match s.names with
  | [] => ⟨[], [], octets s.table⟩
  | name :: others => ⟨name, others, octets s.table⟩

def systemName : Text := "locale"

def ofName? (given : Text) : Option Charset :=
  let name := simpleName given
  if given = systemName then some utf8
  else match listings.find? fun l => l.isNamed name with
  | some l => some l.charset
  | none =>
    ((octetSets.map listingOf).find? fun l => l.isNamed name).map Listing.charset

/-! ### Reading -/

def ofUtf8 (octets : ByteArray) : Except Error Text :=
  match String.fromUTF8? octets with
  | some s => .ok s.toList
  | none => .error .undecodable

def mark : List UInt8 := [0xEF, 0xBB, 0xBF]

/-- Reads what follows the mark. Contents that are only a part of the mark are empty. -/
def ofMarkedUtf8 (octets : ByteArray) : Except Error Text :=
  let start := octets.toList.take mark.length
  if start = mark then ofUtf8 (octets.extract mark.length octets.size)
  else if start.length < mark.length && start.isPrefixOf mark then .ok []
  else ofUtf8 octets

def decode (c : Charset) (octets : ByteArray) : Except Error Text :=
  match c with
  | utf8 => ofUtf8 octets
  | markedUtf8 => ofMarkedUtf8 octets
  | utf16 none => ofMarkedUtf16 octets.toList
  | utf16 (some order) => ofUtf16 order octets.toList
  | utf32 none => ofMarkedUtf32 octets.toList
  | utf32 (some order) => ofUtf32 order octets.toList
  | .octets table => ofOctets (charIn? table) octets.toList
  | utf7 => ofShifted none octets.toList
  | escaped false => ofEscaped octets.toList
  | escaped true => ofNumberEscaped octets.toList
  | punycode => ofPunycode octets.toList
  | hostName => ofHostName octets.toList
  | extendedJapanese edition =>
    readAll Char.ofNat (Japanese.extended? edition) octets.toList
  | shiftedJapanese edition =>
    let low := if edition = .jis0208 then Char.ofNat else Japanese.romanChar
    readAll low (Japanese.shifted? edition) octets.toList
  | windowsJapanese => readAll Char.ofNat Japanese.windows? octets.toList
  | gb2312 => readAll Char.ofNat (Chinese.two? Chinese.gb2312?) octets.toList
  | gbk => readAll Char.ofNat (Chinese.two? Chinese.gbk?) octets.toList
  | gb18030 => readAll Char.ofNat Chinese.gb18030? octets.toList
  | switchedChinese => Chinese.ofSwitched false (octets.toList.map UInt8.toNat)
  | big5 => readAll Char.ofNat (Chinese.two? Chinese.big5?) octets.toList
  | windowsBig5 => readAll Char.ofNat (Chinese.two? Chinese.windowsBig5?) octets.toList
  | hongKong => readAll Char.ofNat Chinese.hongKong? octets.toList
  | korean => readAll Char.ofNat Korean.old? octets.toList
  | unifiedKorean => readAll Char.ofNat Korean.unified? octets.toList
  | combinedKorean => readAll Char.ofNat Korean.combined? octets.toList
  | designated d => d.read octets.toList
  | unusable => .error .unfit

end Charset
end BundleHost
