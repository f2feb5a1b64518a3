import Metalink.Xml.CodePage

/-!
# Encodings by name

What the name of an encoding stands for that a document declares.  Only single-byte
pages over ASCII can be used.
-/

namespace Metalink.Xml

/-- Single-byte pages whose lower half is not ASCII, which cannot encode markup. -/
def nonAsciiPages : NameSet :=
  ⟨["cp037", "cp1026", "cp1140", "cp273", "cp424", "cp500", "cp864", "cp875", "mac_arabic",
    "mac_farsi"],
    ["037", "1026", "1140", "273", "424", "500", "864", "csibm037", "csibm1026", "csibm273",
     "csibm424", "csibm500", "csibm864", "ebcdic_cp_be", "ebcdic_cp_ca", "ebcdic_cp_ch",
     "ebcdic_cp_he", "ebcdic_cp_nl", "ebcdic_cp_us", "ebcdic_cp_wt", "ibm037", "ibm039",
     "ibm1026", "ibm1140", "ibm273", "ibm424", "ibm500", "ibm864"]⟩

/-- Encodings that may use several bytes for one character. -/
def multiByteEncodings : NameSet :=
  ⟨["big5", "big5hkscs", "cp932", "cp949", "cp950", "euc_jis_2004", "euc_jisx0213", "euc_jp",
    "euc_kr", "gb18030", "gb2312", "gbk", "iso2022_kr", "johab", "shift_jis", "shift_jis_2004",
    "shift_jisx0213", "utf_16", "utf_16_be", "utf_16_le", "utf_32", "utf_32_be", "utf_32_le",
    "utf_7"],
    ["932", "936", "949", "950", "big5_hkscs", "big5_tw", "chinese", "cp1361", "cp936",
     "csbig5", "csiso2022kr", "csiso58gb231280", "csshiftjis", "euc_cn", "euc_jis2004", "euccn",
     "eucgb2312_cn", "eucjis2004", "eucjisx0213", "eucjp", "euckr", "gb18030_2000",
     "gb2312_1980", "gb2312_80", "hkscs", "iso2022kr", "iso_2022_kr", "iso_ir_58", "jisx0213",
     "korean", "ks_c_5601", "ks_c_5601_1987", "ks_x_1001", "ksc5601", "ksx1001", "ms1361",
     "ms932", "ms936", "ms949", "ms950", "ms_kanji", "mskanji", "s_jis", "s_jis_2004",
     "s_jisx0213", "shiftjis", "shiftjis2004", "shiftjisx0213", "sjis", "sjis_2004",
     "sjisx0213", "u16", "u32", "u7", "u_jis", "uhc", "ujis", "unicode_1_1_utf_7",
     "unicodebigunmarked", "unicodelittleunmarked", "utf16", "utf32", "utf7", "utf_16be",
     "utf_16le", "utf_32be", "utf_32le", "x_mac_japanese", "x_mac_korean", "x_mac_simp_chinese",
     "x_mac_trad_chinese"]⟩

/-- Ways to write bytes as other bytes, which are no encodings of text. -/
def byteTransforms : NameSet :=
  ⟨["base64_codec", "bz2_codec", "hex_codec", "quopri_codec", "rot_13", "uu_codec", "zlib_codec"],
    ["base64", "base_64", "bz2", "hex", "quopri", "quoted_printable", "quotedprintable",
     "rot13", "uu", "zip", "zlib"]⟩

/-- The encoding of host names, which has no way to pass over what it cannot decode. -/
def hostNameEncoding : NameSet := ⟨["idna"], []⟩

/-- The encoding that decodes nothing. -/
def undefinedEncoding : NameSet := ⟨["undefined"], []⟩

/-- The encoding of labels in host names, which takes no byte from beyond ASCII. -/
def labelEncoding : NameSet := ⟨["punycode"], []⟩

/-- What a declared name that is not built in stands for: a single-byte page over ASCII, a page
without ASCII, which is of no use for markup, an encoding with several bytes to a character, no
encoding of text, one that cannot pass over what it cannot decode, one that decodes nothing, one
that takes no byte from beyond ASCII, or no known encoding. -/
inductive NamedEncoding where
  | page (page : CodePage)
  | unusable
  | multiByte
  | notText
  | strict
  | undefined
  | asciiBytes
  | unknown

/-- What names stand for other than pages. -/
def otherEncodings : List (NameSet × NamedEncoding) :=
  [(nonAsciiPages, .unusable), (multiByteEncodings, .multiByte), (byteTransforms, .notText),
    (hostNameEncoding, .strict), (undefinedEncoding, .undefined), (labelEncoding, .asciiBytes)]

/-- Look up a declared encoding. -/
def NamedEncoding.find (name : List Char) : NamedEncoding :=
  let usual := usualName name
  match codePages.find? fun p => p.names.has usual with
  | some p => .page p
  | none =>
    match otherEncodings.find? fun p => p.1.has usual with
    | some (_, meaning) => meaning
    | none => .unknown

end Metalink.Xml
