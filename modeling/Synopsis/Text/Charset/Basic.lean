import Synopsis.Text.Charset.Chinese
import Synopsis.Text.Charset.Japanese
import Synopsis.Text.Charset.Korean
import Synopsis.Text.Charset.SingleByte
import Synopsis.Text.Lines
import Synopsis.Text.Units

namespace Synopsis.Text

/-- Where the characters of two bytes stand in a table. -/
inductive Charset.Layout where
  | rows
  | rowsAndKana
  | shifted
  | short
  | narrowShort
  | long
  deriving DecidableEq

/-- A charset. In `bytes` no character takes more than one byte; units may come with the high byte
first or last, or as a mark at the start tells. -/
inductive Charset where
  | utf8
  | utf8Marked
  | pairs (highFirst : Option Bool)
  | quads (highFirst : Option Bool)
  | ascii
  | latin
  | bytes (table : Array Char)
  | doubles (layout : Charset.Layout) (table : Array Char)

namespace Charset

def replacement : Char := '\uFFFD'

/-- The names of the charsets that are no tables. -/
def plainNames : List (List Text × Charset) :=
  [
    (["utf_8", "cp65001", "u8", "utf", "utf8", "utf8_ucs2", "utf8_ucs4"], utf8),
    (["utf_8_sig"], utf8Marked),
    (["utf_16", "u16", "utf16"], pairs none),
    (["utf_16_be", "unicodebigunmarked", "utf_16be"], pairs (some true)),
    (["utf_16_le", "unicodelittleunmarked", "utf_16le"], pairs (some false)),
    (["utf_32", "u32", "utf32"], quads none),
    (["utf_32_be", "utf_32be"], quads (some true)),
    (["utf_32_le", "utf_32le"], quads (some false)),
    (["ascii", "646", "ansi_x3_4_1968", "ansi_x3.4_1968", "ansi_x3.4_1986", "cp367", "csascii",
      "ibm367", "iso646_us", "iso_646.irv_1991", "iso_ir_6", "us", "us_ascii"], ascii),
    (["latin_1", "8859", "cp819", "csisolatin1", "ibm819", "iso8859", "iso8859_1", "iso_8859_1",
      "iso_8859_1_1987", "iso_ir_100", "l1", "latin", "latin1"], latin)
  ]

/-- The names of the charsets with characters of two bytes. -/
def doubleNames : List (List Text × Layout × String) :=
  [
    (["shift_jis", "csshiftjis", "shiftjis", "sjis", "s_jis", "cp932", "932", "ms932", "mskanji",
      "ms_kanji", "x_mac_japanese"], .shifted, japanese),
    (["euc_jp", "eucjp", "ujis", "u_jis"], .rowsAndKana, japanese),
    (["gbk", "936", "cp936", "ms936", "gb18030", "gb18030_2000"], .short, shortChinese),
    (["gb2312", "chinese", "csiso58gb231280", "euc_cn", "euccn", "eucgb2312_cn", "gb2312_1980",
      "gb2312_80", "iso_ir_58", "x_mac_simp_chinese"], .narrowShort, shortChinese),
    (["big5", "big5_tw", "csbig5", "cp950", "950", "ms950", "x_mac_trad_chinese"], .long,
      longChinese),
    (["euc_kr", "euckr", "korean", "ksc5601", "ks_c_5601", "ks_c_5601_1987", "ksx1001",
      "ks_x_1001", "cp949", "949", "ms949", "uhc", "x_mac_korean"], .rows, korean)
  ]

/-- A name with single underscores in place of all that is neither letter, digit nor point. -/
def usualName (name : List Rune) : List Rune :=
  let kept := name.map fun c : Rune => if c.isAlphanum || c == '.' then c else '_'
  let parts := (splitChars '_' kept).filter (· ≠ [])
  joinChars '_' (parts.map fun part => part.map Rune.toLower)

/-- The charset of a name. A point may stand for an underscore in all names but the first. -/
def ofName? (name : Text) : Option Charset :=
  let usual := Text.ofList (usualName name.toList)
  let pointless :=
    Text.ofList ((usualName name.toList).map fun c : Rune => if c = '.' then '_' else c)
  let answers (names : List Text) : Bool := usual ∈ names || pointless ∈ names.drop 1
  match plainNames.find? fun e => answers e.1 with
  | some (_, charset) => some charset
  | none =>
    match singleBytes.find? fun e => answers (e.1.map .ofString) with
    | some (_, characters) => some (bytes characters.toList.toArray)
    | none =>
      (doubleNames.find? fun e => answers e.1).map fun (_, layout, characters) =>
        doubles layout characters.toList.toArray

/-- The character of a byte; tables of half the size leave ASCII out. -/
def ofByte (table : Array Char) (b : UInt8) : Char :=
  let n := b.toNat
  if table.size ≤ 128 then if n < 128 then Char.ofNat n else table[n - 128]?.getD replacement
  else table[n]?.getD replacement

/-- Where the character of two bytes stands. -/
def Layout.place? (layout : Layout) (first second : Nat) : Option Nat :=
  match layout with
  | .rows | .rowsAndKana =>
    if 0xA1 ≤ first ∧ 0xA1 ≤ second ∧ second < 0xFF then
      some ((first - 0xA1) * 94 + (second - 0xA1))
    else none
  | .shifted =>
    let row := if first < 0xE0 then first - 0x81 else first - 0xC1
    let place := if second < 0x80 then second - 0x40 else second - 0x41
    if first < 0x81 ∨ (0xA0 ≤ first ∧ first < 0xE0) ∨ second < 0x40 ∨ second = 0x7F ∨ 0xFC < second
    then none
    else some (row * 188 + place)
  | .short =>
    if first < 0x81 ∨ second < 0x40 ∨ second = 0x7F ∨ second = 0xFF then none
    else some ((first - 0x81) * 190 + (if second < 0x80 then second - 0x40 else second - 0x41))
  | .narrowShort =>
    if first < 0xA1 ∨ 0xF7 < first ∨ second < 0xA1 ∨ second = 0xFF ∨
        (first = 0xA2 ∧ second ≤ 0xAA) ∨ (first = 0xA6 ∧ 0xE0 ≤ second) ∨
        (first = 0xA8 ∧ 0xBB ≤ second ∧ second ≤ 0xC0) then none
    else some ((first - 0x81) * 190 + (second - 0x41))
  | .long =>
    if first < 0xA1 ∨ second < 0x40 ∨ second = 0xFF ∨ (0x7F ≤ second ∧ second < 0xA1) then none
    else some ((first - 0xA1) * 157 + (if second < 0x80 then second - 0x40 else second - 0x62))

/-- The characters that stand elsewhere than in the table of a layout. -/
def Layout.exception? (layout : Layout) (first second : Nat) : Option Char :=
  match layout, first, second with
  | .narrowShort, 0xA1, 0xA4 => some '\u30FB'
  | .narrowShort, 0xA1, 0xAA => some '\u2015'
  | .rowsAndKana, 0x8E, kana =>
    if 0xA1 ≤ kana ∧ kana ≤ 0xDF then some (Char.ofNat (0xFF61 + (kana - 0xA1))) else none
  | _, _, _ => none

/-- The character of a byte that stands alone. -/
def Layout.single? (layout : Layout) (b : Nat) : Option Char :=
  if b < 0x80 then some (Char.ofNat b)
  else if layout = .shifted ∧ 0xA1 ≤ b ∧ b ≤ 0xDF then some (Char.ofNat (0xFF61 + (b - 0xA1)))
  else none

def pair? (layout : Layout) (table : Array Char) (first second : UInt8) : Option Char :=
  let (m, n) := (first.toNat, second.toNat)
  let found := (layout.exception? m n).orElse fun _ => (layout.place? m n).bind (table[·]?)
  found.filter (· ≠ replacement)

/-- A byte that cannot be read with the next one is replaced alone. -/
def readDoubles (layout : Layout) (table : Array Char) : List UInt8 → List Char
  | [] => []
  | [b] => [(layout.single? b.toNat).getD replacement]
  | a :: b :: r =>
    match layout.single? a.toNat with
    | some c => c :: readDoubles layout table (b :: r)
    | none =>
      match pair? layout table a b with
      | some c => c :: readDoubles layout table r
      | none => replacement :: readDoubles layout table (b :: r)

/-- Half of a character beyond U+FFFF is replaced, and what is left at the end as a whole. -/
def readPairs (highFirst : Bool) : List UInt8 → List Char
  | [] => []
  | a :: b :: c :: d :: r =>
    let n := Units.number highFirst [a, b]
    let m := Units.number highFirst [c, d]
    if !Rune.isHalf n then Char.ofNat n :: readPairs highFirst (c :: d :: r)
    else if n < 0xDC00 ∧ 0xDC00 ≤ m ∧ m < 0xE000 then
      Char.ofNat (0x10000 + (n - 0xD800) * 0x400 + (m - 0xDC00)) :: readPairs highFirst r
    else replacement :: readPairs highFirst (c :: d :: r)
  | a :: b :: r =>
    let n := Units.number highFirst [a, b]
    if !Rune.isHalf n then Char.ofNat n :: (if r = [] then [] else [replacement])
    else if n < 0xDC00 ∨ r = [] then [replacement]
    else [replacement, replacement]
  | [_] => [replacement]

def readQuads (highFirst : Bool) : List UInt8 → List Char
  | [] => []
  | a :: b :: c :: d :: r =>
    let n := Units.number highFirst [a, b, c, d]
    (if Rune.isHalf n ∨ 0x110000 ≤ n then replacement else Char.ofNat n) ::
      readQuads highFirst r
  | _ => [replacement]

/-- The order of the bytes in units of some width, told by a mark, and the bytes behind it. What is
shorter than a unit has none. -/
def markedOrder (width : Nat) (bytes : List UInt8) : Option (Bool × List UInt8) :=
  let start := bytes.take width
  if Units.number true start = 0xFEFF ∧ start.length = width then some (true, bytes.drop width)
  else if Units.number false start = 0xFEFF ∧ start.length = width then
    some (false, bytes.drop width)
  else if bytes.length < width then some (false, bytes)
  else none

/-- Why bytes cannot be read: nothing tells the order of the bytes in a unit. -/
inductive Fault where
  | noMark (bits : Nat)
  deriving DecidableEq

def Fault.message : Fault → Text
  | noMark bits => "UTF-" ++ toString bits ++ " stream does not start with BOM"

def read (charset : Charset) (all : List UInt8) : Except Fault Text :=
  match charset with
  | utf8 => .ok (Utf8.decodeLossy all)
  | utf8Marked =>
    match all with
    | 0xEF :: 0xBB :: 0xBF :: r => .ok (Utf8.decodeLossy r)
    | [0xEF, 0xBB] => .ok ""
    | [0xEF] => .ok ""
    | all => .ok (Utf8.decodeLossy all)
  | ascii =>
    .ok (.ofChars (all.map fun b => if b < 0x80 then Char.ofNat b.toNat else replacement))
  | latin => .ok (.ofChars (all.map fun b => Char.ofNat b.toNat))
  | bytes table => .ok (.ofChars (all.map (ofByte table)))
  | doubles layout table => .ok (.ofChars (readDoubles layout table all))
  | pairs (some highFirst) => .ok (.ofChars (readPairs highFirst all))
  | quads (some highFirst) => .ok (.ofChars (readQuads highFirst all))
  | pairs none =>
    match markedOrder 2 all with
    | some (highFirst, rest) => .ok (.ofChars (readPairs highFirst rest))
    | none => .error (.noMark 16)
  | quads none =>
    match markedOrder 4 all with
    | some (highFirst, rest) => .ok (.ofChars (readQuads highFirst rest))
    | none => .error (.noMark 32)

end Charset

end Synopsis.Text
