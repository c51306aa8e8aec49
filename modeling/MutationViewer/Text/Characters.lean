/-!
# Characters and how they are shown

What is blank, what is a digit, what can stand in a name and what can be shown as it is, all
as Unicode 14 has it.  Each of these properties is a table: the runs of neighbouring code
points that have it.

Twenty-nine characters are blank: the Unicode white space and the four information separators
U+001C to U+001F.  A zero width space (U+200B) and a byte order mark (U+FEFF) are not.  The
decimal digits come in runs of ten, one run per script, each beginning with its zero.  Names
are made of letters, of characters with a numeric value, and of underscores.  Unprintable are
the controls, format characters, surrogates, private and unassigned code points, and the
separators, the ordinary space apart.

Messages quote the text they speak of.  The quotation mark is `'`, unless the text holds that
mark and not the other one.  A backslash, the chosen mark, and the three common controls have
an escape of two characters; every other unprintable character is written by its code point,
with as many hexadecimal digits as its size asks for.
-/

namespace MutationViewer
namespace Text

/-- The code points from `first` to `last`, both included. -/
structure Run where
  first : Nat
  last : Nat

def Run.single (code : Nat) : Run := ⟨code, code⟩

def Run.covers (run : Run) (character : Char) : Bool :=
  decide (run.first ≤ character.toNat) && decide (character.toNat ≤ run.last)

def covered (table : List Run) (character : Char) : Bool :=
  table.any fun run => run.covers character

def blankRuns : List Run :=
  [⟨0x0009, 0x000D⟩, ⟨0x001C, 0x0020⟩, .single 0x0085, .single 0x00A0, .single 0x1680,
   ⟨0x2000, 0x200A⟩, ⟨0x2028, 0x2029⟩, .single 0x202F, .single 0x205F, .single 0x3000]

def isBlank (character : Char) : Bool :=
  covered blankRuns character

def trimStart (text : List Char) : List Char :=
  text.dropWhile isBlank

def trimEnd (text : List Char) : List Char :=
  (text.reverse.dropWhile isBlank).reverse

/-- The text without the blanks at either end; blanks inside it stay. -/
def trim (text : List Char) : List Char :=
  trimEnd (trimStart text)

/-- The code point of each zero. -/
def zeroCodes : List Nat :=
  [0x0030, 0x0660, 0x06F0, 0x07C0, 0x0966, 0x09E6, 0x0A66, 0x0AE6, 0x0B66, 0x0BE6, 0x0C66, 0x0CE6,
   0x0D66, 0x0DE6, 0x0E50, 0x0ED0, 0x0F20, 0x1040, 0x1090, 0x17E0, 0x1810, 0x1946, 0x19D0, 0x1A80,
   0x1A90, 0x1B50, 0x1BB0, 0x1C40, 0x1C50, 0xA620, 0xA8D0, 0xA900, 0xA9D0, 0xA9F0, 0xAA50, 0xABF0,
   0xFF10, 0x104A0, 0x10D30, 0x11066, 0x110F0, 0x11136, 0x111D0, 0x112F0, 0x11450, 0x114D0,
   0x11650, 0x116C0, 0x11730, 0x118E0, 0x11950, 0x11C50, 0x11D50, 0x11DA0, 0x16A60, 0x16AC0,
   0x16B50, 0x1D7CE, 0x1D7D8, 0x1D7E2, 0x1D7EC, 0x1D7F6, 0x1E140, 0x1E2F0, 0x1E950, 0x1FBF0]

/-- The value of a character as a decimal digit, whatever its script. -/
def digitValue? (character : Char) : Option Nat :=
  (zeroCodes.find? fun start =>
    decide (start ≤ character.toNat) && decide (character.toNat < start + 10)).map fun start =>
      character.toNat - start

theorem digitValue?_lt_ten {character : Char} {value : Nat}
    (found : digitValue? character = some value) : value < 10 := by
  unfold digitValue? at found
  obtain ⟨start, hit, rfl⟩ := Option.map_eq_some_iff.mp found
  have bounds := List.find?_some hit
  simp only [Bool.and_eq_true, decide_eq_true_eq] at bounds
  omega

def alphanumericRuns : List Run :=
  [⟨0x0030, 0x0039⟩, ⟨0x0041, 0x005A⟩, ⟨0x0061, 0x007A⟩, .single 0x00AA, ⟨0x00B2, 0x00B3⟩,
   .single 0x00B5, ⟨0x00B9, 0x00BA⟩, ⟨0x00BC, 0x00BE⟩, ⟨0x00C0, 0x00D6⟩, ⟨0x00D8, 0x00F6⟩,
   ⟨0x00F8, 0x02C1⟩, ⟨0x02C6, 0x02D1⟩, ⟨0x02E0, 0x02E4⟩, .single 0x02EC, .single 0x02EE,
   ⟨0x0370, 0x0374⟩, ⟨0x0376, 0x0377⟩, ⟨0x037A, 0x037D⟩, .single 0x037F, .single 0x0386,
   ⟨0x0388, 0x038A⟩, .single 0x038C, ⟨0x038E, 0x03A1⟩, ⟨0x03A3, 0x03F5⟩, ⟨0x03F7, 0x0481⟩,
   ⟨0x048A, 0x052F⟩, ⟨0x0531, 0x0556⟩, .single 0x0559, ⟨0x0560, 0x0588⟩, ⟨0x05D0, 0x05EA⟩,
   ⟨0x05EF, 0x05F2⟩, ⟨0x0620, 0x064A⟩, ⟨0x0660, 0x0669⟩, ⟨0x066E, 0x066F⟩, ⟨0x0671, 0x06D3⟩,
   .single 0x06D5, ⟨0x06E5, 0x06E6⟩, ⟨0x06EE, 0x06FC⟩, .single 0x06FF, .single 0x0710,
   ⟨0x0712, 0x072F⟩, ⟨0x074D, 0x07A5⟩, .single 0x07B1, ⟨0x07C0, 0x07EA⟩, ⟨0x07F4, 0x07F5⟩,
   .single 0x07FA, ⟨0x0800, 0x0815⟩, .single 0x081A, .single 0x0824, .single 0x0828,
   ⟨0x0840, 0x0858⟩, ⟨0x0860, 0x086A⟩, ⟨0x0870, 0x0887⟩, ⟨0x0889, 0x088E⟩, ⟨0x08A0, 0x08C9⟩,
   ⟨0x0904, 0x0939⟩, .single 0x093D, .single 0x0950, ⟨0x0958, 0x0961⟩, ⟨0x0966, 0x096F⟩,
   ⟨0x0971, 0x0980⟩, ⟨0x0985, 0x098C⟩, ⟨0x098F, 0x0990⟩, ⟨0x0993, 0x09A8⟩, ⟨0x09AA, 0x09B0⟩,
   .single 0x09B2, ⟨0x09B6, 0x09B9⟩, .single 0x09BD, .single 0x09CE, ⟨0x09DC, 0x09DD⟩,
   ⟨0x09DF, 0x09E1⟩, ⟨0x09E6, 0x09F1⟩, ⟨0x09F4, 0x09F9⟩, .single 0x09FC, ⟨0x0A05, 0x0A0A⟩,
   ⟨0x0A0F, 0x0A10⟩, ⟨0x0A13, 0x0A28⟩, ⟨0x0A2A, 0x0A30⟩, ⟨0x0A32, 0x0A33⟩, ⟨0x0A35, 0x0A36⟩,
   ⟨0x0A38, 0x0A39⟩, ⟨0x0A59, 0x0A5C⟩, .single 0x0A5E, ⟨0x0A66, 0x0A6F⟩, ⟨0x0A72, 0x0A74⟩,
   ⟨0x0A85, 0x0A8D⟩, ⟨0x0A8F, 0x0A91⟩, ⟨0x0A93, 0x0AA8⟩, ⟨0x0AAA, 0x0AB0⟩, ⟨0x0AB2, 0x0AB3⟩,
   ⟨0x0AB5, 0x0AB9⟩, .single 0x0ABD, .single 0x0AD0, ⟨0x0AE0, 0x0AE1⟩, ⟨0x0AE6, 0x0AEF⟩,
   .single 0x0AF9, ⟨0x0B05, 0x0B0C⟩, ⟨0x0B0F, 0x0B10⟩, ⟨0x0B13, 0x0B28⟩, ⟨0x0B2A, 0x0B30⟩,
   ⟨0x0B32, 0x0B33⟩, ⟨0x0B35, 0x0B39⟩, .single 0x0B3D, ⟨0x0B5C, 0x0B5D⟩, ⟨0x0B5F, 0x0B61⟩,
   ⟨0x0B66, 0x0B6F⟩, ⟨0x0B71, 0x0B77⟩, .single 0x0B83, ⟨0x0B85, 0x0B8A⟩, ⟨0x0B8E, 0x0B90⟩,
   ⟨0x0B92, 0x0B95⟩, ⟨0x0B99, 0x0B9A⟩, .single 0x0B9C, ⟨0x0B9E, 0x0B9F⟩, ⟨0x0BA3, 0x0BA4⟩,
   ⟨0x0BA8, 0x0BAA⟩, ⟨0x0BAE, 0x0BB9⟩, .single 0x0BD0, ⟨0x0BE6, 0x0BF2⟩, ⟨0x0C05, 0x0C0C⟩,
   ⟨0x0C0E, 0x0C10⟩, ⟨0x0C12, 0x0C28⟩, ⟨0x0C2A, 0x0C39⟩, .single 0x0C3D, ⟨0x0C58, 0x0C5A⟩,
   .single 0x0C5D, ⟨0x0C60, 0x0C61⟩, ⟨0x0C66, 0x0C6F⟩, ⟨0x0C78, 0x0C7E⟩, .single 0x0C80,
   ⟨0x0C85, 0x0C8C⟩, ⟨0x0C8E, 0x0C90⟩, ⟨0x0C92, 0x0CA8⟩, ⟨0x0CAA, 0x0CB3⟩, ⟨0x0CB5, 0x0CB9⟩,
   .single 0x0CBD, ⟨0x0CDD, 0x0CDE⟩, ⟨0x0CE0, 0x0CE1⟩, ⟨0x0CE6, 0x0CEF⟩, ⟨0x0CF1, 0x0CF2⟩,
   ⟨0x0D04, 0x0D0C⟩, ⟨0x0D0E, 0x0D10⟩, ⟨0x0D12, 0x0D3A⟩, .single 0x0D3D, .single 0x0D4E,
   ⟨0x0D54, 0x0D56⟩, ⟨0x0D58, 0x0D61⟩, ⟨0x0D66, 0x0D78⟩, ⟨0x0D7A, 0x0D7F⟩, ⟨0x0D85, 0x0D96⟩,
   ⟨0x0D9A, 0x0DB1⟩, ⟨0x0DB3, 0x0DBB⟩, .single 0x0DBD, ⟨0x0DC0, 0x0DC6⟩, ⟨0x0DE6, 0x0DEF⟩,
   ⟨0x0E01, 0x0E30⟩, ⟨0x0E32, 0x0E33⟩, ⟨0x0E40, 0x0E46⟩, ⟨0x0E50, 0x0E59⟩, ⟨0x0E81, 0x0E82⟩,
   .single 0x0E84, ⟨0x0E86, 0x0E8A⟩, ⟨0x0E8C, 0x0EA3⟩, .single 0x0EA5, ⟨0x0EA7, 0x0EB0⟩,
   ⟨0x0EB2, 0x0EB3⟩, .single 0x0EBD, ⟨0x0EC0, 0x0EC4⟩, .single 0x0EC6, ⟨0x0ED0, 0x0ED9⟩,
   ⟨0x0EDC, 0x0EDF⟩, .single 0x0F00, ⟨0x0F20, 0x0F33⟩, ⟨0x0F40, 0x0F47⟩, ⟨0x0F49, 0x0F6C⟩,
   ⟨0x0F88, 0x0F8C⟩, ⟨0x1000, 0x102A⟩, ⟨0x103F, 0x1049⟩, ⟨0x1050, 0x1055⟩, ⟨0x105A, 0x105D⟩,
   .single 0x1061, ⟨0x1065, 0x1066⟩, ⟨0x106E, 0x1070⟩, ⟨0x1075, 0x1081⟩, .single 0x108E,
   ⟨0x1090, 0x1099⟩, ⟨0x10A0, 0x10C5⟩, .single 0x10C7, .single 0x10CD, ⟨0x10D0, 0x10FA⟩,
   ⟨0x10FC, 0x1248⟩, ⟨0x124A, 0x124D⟩, ⟨0x1250, 0x1256⟩, .single 0x1258, ⟨0x125A, 0x125D⟩,
   ⟨0x1260, 0x1288⟩, ⟨0x128A, 0x128D⟩, ⟨0x1290, 0x12B0⟩, ⟨0x12B2, 0x12B5⟩, ⟨0x12B8, 0x12BE⟩,
   .single 0x12C0, ⟨0x12C2, 0x12C5⟩, ⟨0x12C8, 0x12D6⟩, ⟨0x12D8, 0x1310⟩, ⟨0x1312, 0x1315⟩,
   ⟨0x1318, 0x135A⟩, ⟨0x1369, 0x137C⟩, ⟨0x1380, 0x138F⟩, ⟨0x13A0, 0x13F5⟩, ⟨0x13F8, 0x13FD⟩,
   ⟨0x1401, 0x166C⟩, ⟨0x166F, 0x167F⟩, ⟨0x1681, 0x169A⟩, ⟨0x16A0, 0x16EA⟩, ⟨0x16EE, 0x16F8⟩,
   ⟨0x1700, 0x1711⟩, ⟨0x171F, 0x1731⟩, ⟨0x1740, 0x1751⟩, ⟨0x1760, 0x176C⟩, ⟨0x176E, 0x1770⟩,
   ⟨0x1780, 0x17B3⟩, .single 0x17D7, .single 0x17DC, ⟨0x17E0, 0x17E9⟩, ⟨0x17F0, 0x17F9⟩,
   ⟨0x1810, 0x1819⟩, ⟨0x1820, 0x1878⟩, ⟨0x1880, 0x1884⟩, ⟨0x1887, 0x18A8⟩, .single 0x18AA,
   ⟨0x18B0, 0x18F5⟩, ⟨0x1900, 0x191E⟩, ⟨0x1946, 0x196D⟩, ⟨0x1970, 0x1974⟩, ⟨0x1980, 0x19AB⟩,
   ⟨0x19B0, 0x19C9⟩, ⟨0x19D0, 0x19DA⟩, ⟨0x1A00, 0x1A16⟩, ⟨0x1A20, 0x1A54⟩, ⟨0x1A80, 0x1A89⟩,
   ⟨0x1A90, 0x1A99⟩, .single 0x1AA7, ⟨0x1B05, 0x1B33⟩, ⟨0x1B45, 0x1B4C⟩, ⟨0x1B50, 0x1B59⟩,
   ⟨0x1B83, 0x1BA0⟩, ⟨0x1BAE, 0x1BE5⟩, ⟨0x1C00, 0x1C23⟩, ⟨0x1C40, 0x1C49⟩, ⟨0x1C4D, 0x1C7D⟩,
   ⟨0x1C80, 0x1C88⟩, ⟨0x1C90, 0x1CBA⟩, ⟨0x1CBD, 0x1CBF⟩, ⟨0x1CE9, 0x1CEC⟩, ⟨0x1CEE, 0x1CF3⟩,
   ⟨0x1CF5, 0x1CF6⟩, .single 0x1CFA, ⟨0x1D00, 0x1DBF⟩, ⟨0x1E00, 0x1F15⟩, ⟨0x1F18, 0x1F1D⟩,
   ⟨0x1F20, 0x1F45⟩, ⟨0x1F48, 0x1F4D⟩, ⟨0x1F50, 0x1F57⟩, .single 0x1F59, .single 0x1F5B,
   .single 0x1F5D, ⟨0x1F5F, 0x1F7D⟩, ⟨0x1F80, 0x1FB4⟩, ⟨0x1FB6, 0x1FBC⟩, .single 0x1FBE,
   ⟨0x1FC2, 0x1FC4⟩, ⟨0x1FC6, 0x1FCC⟩, ⟨0x1FD0, 0x1FD3⟩, ⟨0x1FD6, 0x1FDB⟩, ⟨0x1FE0, 0x1FEC⟩,
   ⟨0x1FF2, 0x1FF4⟩, ⟨0x1FF6, 0x1FFC⟩, ⟨0x2070, 0x2071⟩, ⟨0x2074, 0x2079⟩, ⟨0x207F, 0x2089⟩,
   ⟨0x2090, 0x209C⟩, .single 0x2102, .single 0x2107, ⟨0x210A, 0x2113⟩, .single 0x2115,
   ⟨0x2119, 0x211D⟩, .single 0x2124, .single 0x2126, .single 0x2128, ⟨0x212A, 0x212D⟩,
   ⟨0x212F, 0x2139⟩, ⟨0x213C, 0x213F⟩, ⟨0x2145, 0x2149⟩, .single 0x214E, ⟨0x2150, 0x2189⟩,
   ⟨0x2460, 0x249B⟩, ⟨0x24EA, 0x24FF⟩, ⟨0x2776, 0x2793⟩, ⟨0x2C00, 0x2CE4⟩, ⟨0x2CEB, 0x2CEE⟩,
   ⟨0x2CF2, 0x2CF3⟩, .single 0x2CFD, ⟨0x2D00, 0x2D25⟩, .single 0x2D27, .single 0x2D2D,
   ⟨0x2D30, 0x2D67⟩, .single 0x2D6F, ⟨0x2D80, 0x2D96⟩, ⟨0x2DA0, 0x2DA6⟩, ⟨0x2DA8, 0x2DAE⟩,
   ⟨0x2DB0, 0x2DB6⟩, ⟨0x2DB8, 0x2DBE⟩, ⟨0x2DC0, 0x2DC6⟩, ⟨0x2DC8, 0x2DCE⟩, ⟨0x2DD0, 0x2DD6⟩,
   ⟨0x2DD8, 0x2DDE⟩, .single 0x2E2F, ⟨0x3005, 0x3007⟩, ⟨0x3021, 0x3029⟩, ⟨0x3031, 0x3035⟩,
   ⟨0x3038, 0x303C⟩, ⟨0x3041, 0x3096⟩, ⟨0x309D, 0x309F⟩, ⟨0x30A1, 0x30FA⟩, ⟨0x30FC, 0x30FF⟩,
   ⟨0x3105, 0x312F⟩, ⟨0x3131, 0x318E⟩, ⟨0x3192, 0x3195⟩, ⟨0x31A0, 0x31BF⟩, ⟨0x31F0, 0x31FF⟩,
   ⟨0x3220, 0x3229⟩, ⟨0x3248, 0x324F⟩, ⟨0x3251, 0x325F⟩, ⟨0x3280, 0x3289⟩, ⟨0x32B1, 0x32BF⟩,
   ⟨0x3400, 0x4DBF⟩, ⟨0x4E00, 0xA48C⟩, ⟨0xA4D0, 0xA4FD⟩, ⟨0xA500, 0xA60C⟩, ⟨0xA610, 0xA62B⟩,
   ⟨0xA640, 0xA66E⟩, ⟨0xA67F, 0xA69D⟩, ⟨0xA6A0, 0xA6EF⟩, ⟨0xA717, 0xA71F⟩, ⟨0xA722, 0xA788⟩,
   ⟨0xA78B, 0xA7CA⟩, ⟨0xA7D0, 0xA7D1⟩, .single 0xA7D3, ⟨0xA7D5, 0xA7D9⟩, ⟨0xA7F2, 0xA801⟩,
   ⟨0xA803, 0xA805⟩, ⟨0xA807, 0xA80A⟩, ⟨0xA80C, 0xA822⟩, ⟨0xA830, 0xA835⟩, ⟨0xA840, 0xA873⟩,
   ⟨0xA882, 0xA8B3⟩, ⟨0xA8D0, 0xA8D9⟩, ⟨0xA8F2, 0xA8F7⟩, .single 0xA8FB, ⟨0xA8FD, 0xA8FE⟩,
   ⟨0xA900, 0xA925⟩, ⟨0xA930, 0xA946⟩, ⟨0xA960, 0xA97C⟩, ⟨0xA984, 0xA9B2⟩, ⟨0xA9CF, 0xA9D9⟩,
   ⟨0xA9E0, 0xA9E4⟩, ⟨0xA9E6, 0xA9FE⟩, ⟨0xAA00, 0xAA28⟩, ⟨0xAA40, 0xAA42⟩, ⟨0xAA44, 0xAA4B⟩,
   ⟨0xAA50, 0xAA59⟩, ⟨0xAA60, 0xAA76⟩, .single 0xAA7A, ⟨0xAA7E, 0xAAAF⟩, .single 0xAAB1,
   ⟨0xAAB5, 0xAAB6⟩, ⟨0xAAB9, 0xAABD⟩, .single 0xAAC0, .single 0xAAC2, ⟨0xAADB, 0xAADD⟩,
   ⟨0xAAE0, 0xAAEA⟩, ⟨0xAAF2, 0xAAF4⟩, ⟨0xAB01, 0xAB06⟩, ⟨0xAB09, 0xAB0E⟩, ⟨0xAB11, 0xAB16⟩,
   ⟨0xAB20, 0xAB26⟩, ⟨0xAB28, 0xAB2E⟩, ⟨0xAB30, 0xAB5A⟩, ⟨0xAB5C, 0xAB69⟩, ⟨0xAB70, 0xABE2⟩,
   ⟨0xABF0, 0xABF9⟩, ⟨0xAC00, 0xD7A3⟩, ⟨0xD7B0, 0xD7C6⟩, ⟨0xD7CB, 0xD7FB⟩, ⟨0xF900, 0xFA6D⟩,
   ⟨0xFA70, 0xFAD9⟩, ⟨0xFB00, 0xFB06⟩, ⟨0xFB13, 0xFB17⟩, .single 0xFB1D, ⟨0xFB1F, 0xFB28⟩,
   ⟨0xFB2A, 0xFB36⟩, ⟨0xFB38, 0xFB3C⟩, .single 0xFB3E, ⟨0xFB40, 0xFB41⟩, ⟨0xFB43, 0xFB44⟩,
   ⟨0xFB46, 0xFBB1⟩, ⟨0xFBD3, 0xFD3D⟩, ⟨0xFD50, 0xFD8F⟩, ⟨0xFD92, 0xFDC7⟩, ⟨0xFDF0, 0xFDFB⟩,
   ⟨0xFE70, 0xFE74⟩, ⟨0xFE76, 0xFEFC⟩, ⟨0xFF10, 0xFF19⟩, ⟨0xFF21, 0xFF3A⟩, ⟨0xFF41, 0xFF5A⟩,
   ⟨0xFF66, 0xFFBE⟩, ⟨0xFFC2, 0xFFC7⟩, ⟨0xFFCA, 0xFFCF⟩, ⟨0xFFD2, 0xFFD7⟩, ⟨0xFFDA, 0xFFDC⟩,
   ⟨0x10000, 0x1000B⟩, ⟨0x1000D, 0x10026⟩, ⟨0x10028, 0x1003A⟩, ⟨0x1003C, 0x1003D⟩,
   ⟨0x1003F, 0x1004D⟩, ⟨0x10050, 0x1005D⟩, ⟨0x10080, 0x100FA⟩, ⟨0x10107, 0x10133⟩,
   ⟨0x10140, 0x10178⟩, ⟨0x1018A, 0x1018B⟩, ⟨0x10280, 0x1029C⟩, ⟨0x102A0, 0x102D0⟩,
   ⟨0x102E1, 0x102FB⟩, ⟨0x10300, 0x10323⟩, ⟨0x1032D, 0x1034A⟩, ⟨0x10350, 0x10375⟩,
   ⟨0x10380, 0x1039D⟩, ⟨0x103A0, 0x103C3⟩, ⟨0x103C8, 0x103CF⟩, ⟨0x103D1, 0x103D5⟩,
   ⟨0x10400, 0x1049D⟩, ⟨0x104A0, 0x104A9⟩, ⟨0x104B0, 0x104D3⟩, ⟨0x104D8, 0x104FB⟩,
   ⟨0x10500, 0x10527⟩, ⟨0x10530, 0x10563⟩, ⟨0x10570, 0x1057A⟩, ⟨0x1057C, 0x1058A⟩,
   ⟨0x1058C, 0x10592⟩, ⟨0x10594, 0x10595⟩, ⟨0x10597, 0x105A1⟩, ⟨0x105A3, 0x105B1⟩,
   ⟨0x105B3, 0x105B9⟩, ⟨0x105BB, 0x105BC⟩, ⟨0x10600, 0x10736⟩, ⟨0x10740, 0x10755⟩,
   ⟨0x10760, 0x10767⟩, ⟨0x10780, 0x10785⟩, ⟨0x10787, 0x107B0⟩, ⟨0x107B2, 0x107BA⟩,
   ⟨0x10800, 0x10805⟩, .single 0x10808, ⟨0x1080A, 0x10835⟩, ⟨0x10837, 0x10838⟩, .single 0x1083C,
   ⟨0x1083F, 0x10855⟩, ⟨0x10858, 0x10876⟩, ⟨0x10879, 0x1089E⟩, ⟨0x108A7, 0x108AF⟩,
   ⟨0x108E0, 0x108F2⟩, ⟨0x108F4, 0x108F5⟩, ⟨0x108FB, 0x1091B⟩, ⟨0x10920, 0x10939⟩,
   ⟨0x10980, 0x109B7⟩, ⟨0x109BC, 0x109CF⟩, ⟨0x109D2, 0x10A00⟩, ⟨0x10A10, 0x10A13⟩,
   ⟨0x10A15, 0x10A17⟩, ⟨0x10A19, 0x10A35⟩, ⟨0x10A40, 0x10A48⟩, ⟨0x10A60, 0x10A7E⟩,
   ⟨0x10A80, 0x10A9F⟩, ⟨0x10AC0, 0x10AC7⟩, ⟨0x10AC9, 0x10AE4⟩, ⟨0x10AEB, 0x10AEF⟩,
   ⟨0x10B00, 0x10B35⟩, ⟨0x10B40, 0x10B55⟩, ⟨0x10B58, 0x10B72⟩, ⟨0x10B78, 0x10B91⟩,
   ⟨0x10BA9, 0x10BAF⟩, ⟨0x10C00, 0x10C48⟩, ⟨0x10C80, 0x10CB2⟩, ⟨0x10CC0, 0x10CF2⟩,
   ⟨0x10CFA, 0x10D23⟩, ⟨0x10D30, 0x10D39⟩, ⟨0x10E60, 0x10E7E⟩, ⟨0x10E80, 0x10EA9⟩,
   ⟨0x10EB0, 0x10EB1⟩, ⟨0x10F00, 0x10F27⟩, ⟨0x10F30, 0x10F45⟩, ⟨0x10F51, 0x10F54⟩,
   ⟨0x10F70, 0x10F81⟩, ⟨0x10FB0, 0x10FCB⟩, ⟨0x10FE0, 0x10FF6⟩, ⟨0x11003, 0x11037⟩,
   ⟨0x11052, 0x1106F⟩, ⟨0x11071, 0x11072⟩, .single 0x11075, ⟨0x11083, 0x110AF⟩, ⟨0x110D0, 0x110E8⟩,
   ⟨0x110F0, 0x110F9⟩, ⟨0x11103, 0x11126⟩, ⟨0x11136, 0x1113F⟩, .single 0x11144, .single 0x11147,
   ⟨0x11150, 0x11172⟩, .single 0x11176, ⟨0x11183, 0x111B2⟩, ⟨0x111C1, 0x111C4⟩, ⟨0x111D0, 0x111DA⟩,
   .single 0x111DC, ⟨0x111E1, 0x111F4⟩, ⟨0x11200, 0x11211⟩, ⟨0x11213, 0x1122B⟩, ⟨0x11280, 0x11286⟩,
   .single 0x11288, ⟨0x1128A, 0x1128D⟩, ⟨0x1128F, 0x1129D⟩, ⟨0x1129F, 0x112A8⟩, ⟨0x112B0, 0x112DE⟩,
   ⟨0x112F0, 0x112F9⟩, ⟨0x11305, 0x1130C⟩, ⟨0x1130F, 0x11310⟩, ⟨0x11313, 0x11328⟩,
   ⟨0x1132A, 0x11330⟩, ⟨0x11332, 0x11333⟩, ⟨0x11335, 0x11339⟩, .single 0x1133D, .single 0x11350,
   ⟨0x1135D, 0x11361⟩, ⟨0x11400, 0x11434⟩, ⟨0x11447, 0x1144A⟩, ⟨0x11450, 0x11459⟩,
   ⟨0x1145F, 0x11461⟩, ⟨0x11480, 0x114AF⟩, ⟨0x114C4, 0x114C5⟩, .single 0x114C7, ⟨0x114D0, 0x114D9⟩,
   ⟨0x11580, 0x115AE⟩, ⟨0x115D8, 0x115DB⟩, ⟨0x11600, 0x1162F⟩, .single 0x11644, ⟨0x11650, 0x11659⟩,
   ⟨0x11680, 0x116AA⟩, .single 0x116B8, ⟨0x116C0, 0x116C9⟩, ⟨0x11700, 0x1171A⟩, ⟨0x11730, 0x1173B⟩,
   ⟨0x11740, 0x11746⟩, ⟨0x11800, 0x1182B⟩, ⟨0x118A0, 0x118F2⟩, ⟨0x118FF, 0x11906⟩, .single 0x11909,
   ⟨0x1190C, 0x11913⟩, ⟨0x11915, 0x11916⟩, ⟨0x11918, 0x1192F⟩, .single 0x1193F, .single 0x11941,
   ⟨0x11950, 0x11959⟩, ⟨0x119A0, 0x119A7⟩, ⟨0x119AA, 0x119D0⟩, .single 0x119E1, .single 0x119E3,
   .single 0x11A00, ⟨0x11A0B, 0x11A32⟩, .single 0x11A3A, .single 0x11A50, ⟨0x11A5C, 0x11A89⟩,
   .single 0x11A9D, ⟨0x11AB0, 0x11AF8⟩, ⟨0x11C00, 0x11C08⟩, ⟨0x11C0A, 0x11C2E⟩, .single 0x11C40,
   ⟨0x11C50, 0x11C6C⟩, ⟨0x11C72, 0x11C8F⟩, ⟨0x11D00, 0x11D06⟩, ⟨0x11D08, 0x11D09⟩,
   ⟨0x11D0B, 0x11D30⟩, .single 0x11D46, ⟨0x11D50, 0x11D59⟩, ⟨0x11D60, 0x11D65⟩, ⟨0x11D67, 0x11D68⟩,
   ⟨0x11D6A, 0x11D89⟩, .single 0x11D98, ⟨0x11DA0, 0x11DA9⟩, ⟨0x11EE0, 0x11EF2⟩, .single 0x11FB0,
   ⟨0x11FC0, 0x11FD4⟩, ⟨0x12000, 0x12399⟩, ⟨0x12400, 0x1246E⟩, ⟨0x12480, 0x12543⟩,
   ⟨0x12F90, 0x12FF0⟩, ⟨0x13000, 0x1342E⟩, ⟨0x14400, 0x14646⟩, ⟨0x16800, 0x16A38⟩,
   ⟨0x16A40, 0x16A5E⟩, ⟨0x16A60, 0x16A69⟩, ⟨0x16A70, 0x16ABE⟩, ⟨0x16AC0, 0x16AC9⟩,
   ⟨0x16AD0, 0x16AED⟩, ⟨0x16B00, 0x16B2F⟩, ⟨0x16B40, 0x16B43⟩, ⟨0x16B50, 0x16B59⟩,
   ⟨0x16B5B, 0x16B61⟩, ⟨0x16B63, 0x16B77⟩, ⟨0x16B7D, 0x16B8F⟩, ⟨0x16E40, 0x16E96⟩,
   ⟨0x16F00, 0x16F4A⟩, .single 0x16F50, ⟨0x16F93, 0x16F9F⟩, ⟨0x16FE0, 0x16FE1⟩, .single 0x16FE3,
   ⟨0x17000, 0x187F7⟩, ⟨0x18800, 0x18CD5⟩, ⟨0x18D00, 0x18D08⟩, ⟨0x1AFF0, 0x1AFF3⟩,
   ⟨0x1AFF5, 0x1AFFB⟩, ⟨0x1AFFD, 0x1AFFE⟩, ⟨0x1B000, 0x1B122⟩, ⟨0x1B150, 0x1B152⟩,
   ⟨0x1B164, 0x1B167⟩, ⟨0x1B170, 0x1B2FB⟩, ⟨0x1BC00, 0x1BC6A⟩, ⟨0x1BC70, 0x1BC7C⟩,
   ⟨0x1BC80, 0x1BC88⟩, ⟨0x1BC90, 0x1BC99⟩, ⟨0x1D2E0, 0x1D2F3⟩, ⟨0x1D360, 0x1D378⟩,
   ⟨0x1D400, 0x1D454⟩, ⟨0x1D456, 0x1D49C⟩, ⟨0x1D49E, 0x1D49F⟩, .single 0x1D4A2, ⟨0x1D4A5, 0x1D4A6⟩,
   ⟨0x1D4A9, 0x1D4AC⟩, ⟨0x1D4AE, 0x1D4B9⟩, .single 0x1D4BB, ⟨0x1D4BD, 0x1D4C3⟩, ⟨0x1D4C5, 0x1D505⟩,
   ⟨0x1D507, 0x1D50A⟩, ⟨0x1D50D, 0x1D514⟩, ⟨0x1D516, 0x1D51C⟩, ⟨0x1D51E, 0x1D539⟩,
   ⟨0x1D53B, 0x1D53E⟩, ⟨0x1D540, 0x1D544⟩, .single 0x1D546, ⟨0x1D54A, 0x1D550⟩, ⟨0x1D552, 0x1D6A5⟩,
   ⟨0x1D6A8, 0x1D6C0⟩, ⟨0x1D6C2, 0x1D6DA⟩, ⟨0x1D6DC, 0x1D6FA⟩, ⟨0x1D6FC, 0x1D714⟩,
   ⟨0x1D716, 0x1D734⟩, ⟨0x1D736, 0x1D74E⟩, ⟨0x1D750, 0x1D76E⟩, ⟨0x1D770, 0x1D788⟩,
   ⟨0x1D78A, 0x1D7A8⟩, ⟨0x1D7AA, 0x1D7C2⟩, ⟨0x1D7C4, 0x1D7CB⟩, ⟨0x1D7CE, 0x1D7FF⟩,
   ⟨0x1DF00, 0x1DF1E⟩, ⟨0x1E100, 0x1E12C⟩, ⟨0x1E137, 0x1E13D⟩, ⟨0x1E140, 0x1E149⟩, .single 0x1E14E,
   ⟨0x1E290, 0x1E2AD⟩, ⟨0x1E2C0, 0x1E2EB⟩, ⟨0x1E2F0, 0x1E2F9⟩, ⟨0x1E7E0, 0x1E7E6⟩,
   ⟨0x1E7E8, 0x1E7EB⟩, ⟨0x1E7ED, 0x1E7EE⟩, ⟨0x1E7F0, 0x1E7FE⟩, ⟨0x1E800, 0x1E8C4⟩,
   ⟨0x1E8C7, 0x1E8CF⟩, ⟨0x1E900, 0x1E943⟩, .single 0x1E94B, ⟨0x1E950, 0x1E959⟩, ⟨0x1EC71, 0x1ECAB⟩,
   ⟨0x1ECAD, 0x1ECAF⟩, ⟨0x1ECB1, 0x1ECB4⟩, ⟨0x1ED01, 0x1ED2D⟩, ⟨0x1ED2F, 0x1ED3D⟩,
   ⟨0x1EE00, 0x1EE03⟩, ⟨0x1EE05, 0x1EE1F⟩, ⟨0x1EE21, 0x1EE22⟩, .single 0x1EE24, .single 0x1EE27,
   ⟨0x1EE29, 0x1EE32⟩, ⟨0x1EE34, 0x1EE37⟩, .single 0x1EE39, .single 0x1EE3B, .single 0x1EE42,
   .single 0x1EE47, .single 0x1EE49, .single 0x1EE4B, ⟨0x1EE4D, 0x1EE4F⟩, ⟨0x1EE51, 0x1EE52⟩,
   .single 0x1EE54, .single 0x1EE57, .single 0x1EE59, .single 0x1EE5B, .single 0x1EE5D,
   .single 0x1EE5F, ⟨0x1EE61, 0x1EE62⟩, .single 0x1EE64, ⟨0x1EE67, 0x1EE6A⟩, ⟨0x1EE6C, 0x1EE72⟩,
   ⟨0x1EE74, 0x1EE77⟩, ⟨0x1EE79, 0x1EE7C⟩, .single 0x1EE7E, ⟨0x1EE80, 0x1EE89⟩, ⟨0x1EE8B, 0x1EE9B⟩,
   ⟨0x1EEA1, 0x1EEA3⟩, ⟨0x1EEA5, 0x1EEA9⟩, ⟨0x1EEAB, 0x1EEBB⟩, ⟨0x1F100, 0x1F10C⟩,
   ⟨0x1FBF0, 0x1FBF9⟩, ⟨0x20000, 0x2A6DF⟩, ⟨0x2A700, 0x2B738⟩, ⟨0x2B740, 0x2B81D⟩,
   ⟨0x2B820, 0x2CEA1⟩, ⟨0x2CEB0, 0x2EBE0⟩, ⟨0x2F800, 0x2FA1D⟩, ⟨0x30000, 0x3134A⟩]

/-- Whether a character can stand in a name. -/
def isNameChar (character : Char) : Bool :=
  character == '_' || covered alphanumericRuns character

def unprintableRuns : List Run :=
  [⟨0x0000, 0x001F⟩, ⟨0x007F, 0x00A0⟩, .single 0x00AD, ⟨0x0378, 0x0379⟩, ⟨0x0380, 0x0383⟩,
   .single 0x038B, .single 0x038D, .single 0x03A2, .single 0x0530, ⟨0x0557, 0x0558⟩,
   ⟨0x058B, 0x058C⟩, .single 0x0590, ⟨0x05C8, 0x05CF⟩, ⟨0x05EB, 0x05EE⟩, ⟨0x05F5, 0x0605⟩,
   .single 0x061C, .single 0x06DD, ⟨0x070E, 0x070F⟩, ⟨0x074B, 0x074C⟩, ⟨0x07B2, 0x07BF⟩,
   ⟨0x07FB, 0x07FC⟩, ⟨0x082E, 0x082F⟩, .single 0x083F, ⟨0x085C, 0x085D⟩, .single 0x085F,
   ⟨0x086B, 0x086F⟩, ⟨0x088F, 0x0897⟩, .single 0x08E2, .single 0x0984, ⟨0x098D, 0x098E⟩,
   ⟨0x0991, 0x0992⟩, .single 0x09A9, .single 0x09B1, ⟨0x09B3, 0x09B5⟩, ⟨0x09BA, 0x09BB⟩,
   ⟨0x09C5, 0x09C6⟩, ⟨0x09C9, 0x09CA⟩, ⟨0x09CF, 0x09D6⟩, ⟨0x09D8, 0x09DB⟩, .single 0x09DE,
   ⟨0x09E4, 0x09E5⟩, ⟨0x09FF, 0x0A00⟩, .single 0x0A04, ⟨0x0A0B, 0x0A0E⟩, ⟨0x0A11, 0x0A12⟩,
   .single 0x0A29, .single 0x0A31, .single 0x0A34, .single 0x0A37, ⟨0x0A3A, 0x0A3B⟩,
   .single 0x0A3D, ⟨0x0A43, 0x0A46⟩, ⟨0x0A49, 0x0A4A⟩, ⟨0x0A4E, 0x0A50⟩, ⟨0x0A52, 0x0A58⟩,
   .single 0x0A5D, ⟨0x0A5F, 0x0A65⟩, ⟨0x0A77, 0x0A80⟩, .single 0x0A84, .single 0x0A8E,
   .single 0x0A92, .single 0x0AA9, .single 0x0AB1, .single 0x0AB4, ⟨0x0ABA, 0x0ABB⟩,
   .single 0x0AC6, .single 0x0ACA, ⟨0x0ACE, 0x0ACF⟩, ⟨0x0AD1, 0x0ADF⟩, ⟨0x0AE4, 0x0AE5⟩,
   ⟨0x0AF2, 0x0AF8⟩, .single 0x0B00, .single 0x0B04, ⟨0x0B0D, 0x0B0E⟩, ⟨0x0B11, 0x0B12⟩,
   .single 0x0B29, .single 0x0B31, .single 0x0B34, ⟨0x0B3A, 0x0B3B⟩, ⟨0x0B45, 0x0B46⟩,
   ⟨0x0B49, 0x0B4A⟩, ⟨0x0B4E, 0x0B54⟩, ⟨0x0B58, 0x0B5B⟩, .single 0x0B5E, ⟨0x0B64, 0x0B65⟩,
   ⟨0x0B78, 0x0B81⟩, .single 0x0B84, ⟨0x0B8B, 0x0B8D⟩, .single 0x0B91, ⟨0x0B96, 0x0B98⟩,
   .single 0x0B9B, .single 0x0B9D, ⟨0x0BA0, 0x0BA2⟩, ⟨0x0BA5, 0x0BA7⟩, ⟨0x0BAB, 0x0BAD⟩,
   ⟨0x0BBA, 0x0BBD⟩, ⟨0x0BC3, 0x0BC5⟩, .single 0x0BC9, ⟨0x0BCE, 0x0BCF⟩, ⟨0x0BD1, 0x0BD6⟩,
   ⟨0x0BD8, 0x0BE5⟩, ⟨0x0BFB, 0x0BFF⟩, .single 0x0C0D, .single 0x0C11, .single 0x0C29,
   ⟨0x0C3A, 0x0C3B⟩, .single 0x0C45, .single 0x0C49, ⟨0x0C4E, 0x0C54⟩, .single 0x0C57,
   ⟨0x0C5B, 0x0C5C⟩, ⟨0x0C5E, 0x0C5F⟩, ⟨0x0C64, 0x0C65⟩, ⟨0x0C70, 0x0C76⟩, .single 0x0C8D,
   .single 0x0C91, .single 0x0CA9, .single 0x0CB4, ⟨0x0CBA, 0x0CBB⟩, .single 0x0CC5,
   .single 0x0CC9, ⟨0x0CCE, 0x0CD4⟩, ⟨0x0CD7, 0x0CDC⟩, .single 0x0CDF, ⟨0x0CE4, 0x0CE5⟩,
   .single 0x0CF0, ⟨0x0CF3, 0x0CFF⟩, .single 0x0D0D, .single 0x0D11, .single 0x0D45,
   .single 0x0D49, ⟨0x0D50, 0x0D53⟩, ⟨0x0D64, 0x0D65⟩, .single 0x0D80, .single 0x0D84,
   ⟨0x0D97, 0x0D99⟩, .single 0x0DB2, .single 0x0DBC, ⟨0x0DBE, 0x0DBF⟩, ⟨0x0DC7, 0x0DC9⟩,
   ⟨0x0DCB, 0x0DCE⟩, .single 0x0DD5, .single 0x0DD7, ⟨0x0DE0, 0x0DE5⟩, ⟨0x0DF0, 0x0DF1⟩,
   ⟨0x0DF5, 0x0E00⟩, ⟨0x0E3B, 0x0E3E⟩, ⟨0x0E5C, 0x0E80⟩, .single 0x0E83, .single 0x0E85,
   .single 0x0E8B, .single 0x0EA4, .single 0x0EA6, ⟨0x0EBE, 0x0EBF⟩, .single 0x0EC5,
   .single 0x0EC7, ⟨0x0ECE, 0x0ECF⟩, ⟨0x0EDA, 0x0EDB⟩, ⟨0x0EE0, 0x0EFF⟩, .single 0x0F48,
   ⟨0x0F6D, 0x0F70⟩, .single 0x0F98, .single 0x0FBD, .single 0x0FCD, ⟨0x0FDB, 0x0FFF⟩,
   .single 0x10C6, ⟨0x10C8, 0x10CC⟩, ⟨0x10CE, 0x10CF⟩, .single 0x1249, ⟨0x124E, 0x124F⟩,
   .single 0x1257, .single 0x1259, ⟨0x125E, 0x125F⟩, .single 0x1289, ⟨0x128E, 0x128F⟩,
   .single 0x12B1, ⟨0x12B6, 0x12B7⟩, .single 0x12BF, .single 0x12C1, ⟨0x12C6, 0x12C7⟩,
   .single 0x12D7, .single 0x1311, ⟨0x1316, 0x1317⟩, ⟨0x135B, 0x135C⟩, ⟨0x137D, 0x137F⟩,
   ⟨0x139A, 0x139F⟩, ⟨0x13F6, 0x13F7⟩, ⟨0x13FE, 0x13FF⟩, .single 0x1680, ⟨0x169D, 0x169F⟩,
   ⟨0x16F9, 0x16FF⟩, ⟨0x1716, 0x171E⟩, ⟨0x1737, 0x173F⟩, ⟨0x1754, 0x175F⟩, .single 0x176D,
   .single 0x1771, ⟨0x1774, 0x177F⟩, ⟨0x17DE, 0x17DF⟩, ⟨0x17EA, 0x17EF⟩, ⟨0x17FA, 0x17FF⟩,
   .single 0x180E, ⟨0x181A, 0x181F⟩, ⟨0x1879, 0x187F⟩, ⟨0x18AB, 0x18AF⟩, ⟨0x18F6, 0x18FF⟩,
   .single 0x191F, ⟨0x192C, 0x192F⟩, ⟨0x193C, 0x193F⟩, ⟨0x1941, 0x1943⟩, ⟨0x196E, 0x196F⟩,
   ⟨0x1975, 0x197F⟩, ⟨0x19AC, 0x19AF⟩, ⟨0x19CA, 0x19CF⟩, ⟨0x19DB, 0x19DD⟩, ⟨0x1A1C, 0x1A1D⟩,
   .single 0x1A5F, ⟨0x1A7D, 0x1A7E⟩, ⟨0x1A8A, 0x1A8F⟩, ⟨0x1A9A, 0x1A9F⟩, ⟨0x1AAE, 0x1AAF⟩,
   ⟨0x1ACF, 0x1AFF⟩, ⟨0x1B4D, 0x1B4F⟩, .single 0x1B7F, ⟨0x1BF4, 0x1BFB⟩, ⟨0x1C38, 0x1C3A⟩,
   ⟨0x1C4A, 0x1C4C⟩, ⟨0x1C89, 0x1C8F⟩, ⟨0x1CBB, 0x1CBC⟩, ⟨0x1CC8, 0x1CCF⟩, ⟨0x1CFB, 0x1CFF⟩,
   ⟨0x1F16, 0x1F17⟩, ⟨0x1F1E, 0x1F1F⟩, ⟨0x1F46, 0x1F47⟩, ⟨0x1F4E, 0x1F4F⟩, .single 0x1F58,
   .single 0x1F5A, .single 0x1F5C, .single 0x1F5E, ⟨0x1F7E, 0x1F7F⟩, .single 0x1FB5,
   .single 0x1FC5, ⟨0x1FD4, 0x1FD5⟩, .single 0x1FDC, ⟨0x1FF0, 0x1FF1⟩, .single 0x1FF5,
   ⟨0x1FFF, 0x200F⟩, ⟨0x2028, 0x202F⟩, ⟨0x205F, 0x206F⟩, ⟨0x2072, 0x2073⟩, .single 0x208F,
   ⟨0x209D, 0x209F⟩, ⟨0x20C1, 0x20CF⟩, ⟨0x20F1, 0x20FF⟩, ⟨0x218C, 0x218F⟩, ⟨0x2427, 0x243F⟩,
   ⟨0x244B, 0x245F⟩, ⟨0x2B74, 0x2B75⟩, .single 0x2B96, ⟨0x2CF4, 0x2CF8⟩, .single 0x2D26,
   ⟨0x2D28, 0x2D2C⟩, ⟨0x2D2E, 0x2D2F⟩, ⟨0x2D68, 0x2D6E⟩, ⟨0x2D71, 0x2D7E⟩, ⟨0x2D97, 0x2D9F⟩,
   .single 0x2DA7, .single 0x2DAF, .single 0x2DB7, .single 0x2DBF, .single 0x2DC7, .single 0x2DCF,
   .single 0x2DD7, .single 0x2DDF, ⟨0x2E5E, 0x2E7F⟩, .single 0x2E9A, ⟨0x2EF4, 0x2EFF⟩,
   ⟨0x2FD6, 0x2FEF⟩, ⟨0x2FFC, 0x3000⟩, .single 0x3040, ⟨0x3097, 0x3098⟩, ⟨0x3100, 0x3104⟩,
   .single 0x3130, .single 0x318F, ⟨0x31E4, 0x31EF⟩, .single 0x321F, ⟨0xA48D, 0xA48F⟩,
   ⟨0xA4C7, 0xA4CF⟩, ⟨0xA62C, 0xA63F⟩, ⟨0xA6F8, 0xA6FF⟩, ⟨0xA7CB, 0xA7CF⟩, .single 0xA7D2,
   .single 0xA7D4, ⟨0xA7DA, 0xA7F1⟩, ⟨0xA82D, 0xA82F⟩, ⟨0xA83A, 0xA83F⟩, ⟨0xA878, 0xA87F⟩,
   ⟨0xA8C6, 0xA8CD⟩, ⟨0xA8DA, 0xA8DF⟩, ⟨0xA954, 0xA95E⟩, ⟨0xA97D, 0xA97F⟩, .single 0xA9CE,
   ⟨0xA9DA, 0xA9DD⟩, .single 0xA9FF, ⟨0xAA37, 0xAA3F⟩, ⟨0xAA4E, 0xAA4F⟩, ⟨0xAA5A, 0xAA5B⟩,
   ⟨0xAAC3, 0xAADA⟩, ⟨0xAAF7, 0xAB00⟩, ⟨0xAB07, 0xAB08⟩, ⟨0xAB0F, 0xAB10⟩, ⟨0xAB17, 0xAB1F⟩,
   .single 0xAB27, .single 0xAB2F, ⟨0xAB6C, 0xAB6F⟩, ⟨0xABEE, 0xABEF⟩, ⟨0xABFA, 0xABFF⟩,
   ⟨0xD7A4, 0xD7AF⟩, ⟨0xD7C7, 0xD7CA⟩, ⟨0xD7FC, 0xF8FF⟩, ⟨0xFA6E, 0xFA6F⟩, ⟨0xFADA, 0xFAFF⟩,
   ⟨0xFB07, 0xFB12⟩, ⟨0xFB18, 0xFB1C⟩, .single 0xFB37, .single 0xFB3D, .single 0xFB3F,
   .single 0xFB42, .single 0xFB45, ⟨0xFBC3, 0xFBD2⟩, ⟨0xFD90, 0xFD91⟩, ⟨0xFDC8, 0xFDCE⟩,
   ⟨0xFDD0, 0xFDEF⟩, ⟨0xFE1A, 0xFE1F⟩, .single 0xFE53, .single 0xFE67, ⟨0xFE6C, 0xFE6F⟩,
   .single 0xFE75, ⟨0xFEFD, 0xFF00⟩, ⟨0xFFBF, 0xFFC1⟩, ⟨0xFFC8, 0xFFC9⟩, ⟨0xFFD0, 0xFFD1⟩,
   ⟨0xFFD8, 0xFFD9⟩, ⟨0xFFDD, 0xFFDF⟩, .single 0xFFE7, ⟨0xFFEF, 0xFFFB⟩, ⟨0xFFFE, 0xFFFF⟩,
   .single 0x1000C, .single 0x10027, .single 0x1003B, .single 0x1003E, ⟨0x1004E, 0x1004F⟩,
   ⟨0x1005E, 0x1007F⟩, ⟨0x100FB, 0x100FF⟩, ⟨0x10103, 0x10106⟩, ⟨0x10134, 0x10136⟩, .single 0x1018F,
   ⟨0x1019D, 0x1019F⟩, ⟨0x101A1, 0x101CF⟩, ⟨0x101FE, 0x1027F⟩, ⟨0x1029D, 0x1029F⟩,
   ⟨0x102D1, 0x102DF⟩, ⟨0x102FC, 0x102FF⟩, ⟨0x10324, 0x1032C⟩, ⟨0x1034B, 0x1034F⟩,
   ⟨0x1037B, 0x1037F⟩, .single 0x1039E, ⟨0x103C4, 0x103C7⟩, ⟨0x103D6, 0x103FF⟩, ⟨0x1049E, 0x1049F⟩,
   ⟨0x104AA, 0x104AF⟩, ⟨0x104D4, 0x104D7⟩, ⟨0x104FC, 0x104FF⟩, ⟨0x10528, 0x1052F⟩,
   ⟨0x10564, 0x1056E⟩, .single 0x1057B, .single 0x1058B, .single 0x10593, .single 0x10596,
   .single 0x105A2, .single 0x105B2, .single 0x105BA, ⟨0x105BD, 0x105FF⟩, ⟨0x10737, 0x1073F⟩,
   ⟨0x10756, 0x1075F⟩, ⟨0x10768, 0x1077F⟩, .single 0x10786, .single 0x107B1, ⟨0x107BB, 0x107FF⟩,
   ⟨0x10806, 0x10807⟩, .single 0x10809, .single 0x10836, ⟨0x10839, 0x1083B⟩, ⟨0x1083D, 0x1083E⟩,
   .single 0x10856, ⟨0x1089F, 0x108A6⟩, ⟨0x108B0, 0x108DF⟩, .single 0x108F3, ⟨0x108F6, 0x108FA⟩,
   ⟨0x1091C, 0x1091E⟩, ⟨0x1093A, 0x1093E⟩, ⟨0x10940, 0x1097F⟩, ⟨0x109B8, 0x109BB⟩,
   ⟨0x109D0, 0x109D1⟩, .single 0x10A04, ⟨0x10A07, 0x10A0B⟩, .single 0x10A14, .single 0x10A18,
   ⟨0x10A36, 0x10A37⟩, ⟨0x10A3B, 0x10A3E⟩, ⟨0x10A49, 0x10A4F⟩, ⟨0x10A59, 0x10A5F⟩,
   ⟨0x10AA0, 0x10ABF⟩, ⟨0x10AE7, 0x10AEA⟩, ⟨0x10AF7, 0x10AFF⟩, ⟨0x10B36, 0x10B38⟩,
   ⟨0x10B56, 0x10B57⟩, ⟨0x10B73, 0x10B77⟩, ⟨0x10B92, 0x10B98⟩, ⟨0x10B9D, 0x10BA8⟩,
   ⟨0x10BB0, 0x10BFF⟩, ⟨0x10C49, 0x10C7F⟩, ⟨0x10CB3, 0x10CBF⟩, ⟨0x10CF3, 0x10CF9⟩,
   ⟨0x10D28, 0x10D2F⟩, ⟨0x10D3A, 0x10E5F⟩, .single 0x10E7F, .single 0x10EAA, ⟨0x10EAE, 0x10EAF⟩,
   ⟨0x10EB2, 0x10EFF⟩, ⟨0x10F28, 0x10F2F⟩, ⟨0x10F5A, 0x10F6F⟩, ⟨0x10F8A, 0x10FAF⟩,
   ⟨0x10FCC, 0x10FDF⟩, ⟨0x10FF7, 0x10FFF⟩, ⟨0x1104E, 0x11051⟩, ⟨0x11076, 0x1107E⟩, .single 0x110BD,
   ⟨0x110C3, 0x110CF⟩, ⟨0x110E9, 0x110EF⟩, ⟨0x110FA, 0x110FF⟩, .single 0x11135, ⟨0x11148, 0x1114F⟩,
   ⟨0x11177, 0x1117F⟩, .single 0x111E0, ⟨0x111F5, 0x111FF⟩, .single 0x11212, ⟨0x1123F, 0x1127F⟩,
   .single 0x11287, .single 0x11289, .single 0x1128E, .single 0x1129E, ⟨0x112AA, 0x112AF⟩,
   ⟨0x112EB, 0x112EF⟩, ⟨0x112FA, 0x112FF⟩, .single 0x11304, ⟨0x1130D, 0x1130E⟩, ⟨0x11311, 0x11312⟩,
   .single 0x11329, .single 0x11331, .single 0x11334, .single 0x1133A, ⟨0x11345, 0x11346⟩,
   ⟨0x11349, 0x1134A⟩, ⟨0x1134E, 0x1134F⟩, ⟨0x11351, 0x11356⟩, ⟨0x11358, 0x1135C⟩,
   ⟨0x11364, 0x11365⟩, ⟨0x1136D, 0x1136F⟩, ⟨0x11375, 0x113FF⟩, .single 0x1145C, ⟨0x11462, 0x1147F⟩,
   ⟨0x114C8, 0x114CF⟩, ⟨0x114DA, 0x1157F⟩, ⟨0x115B6, 0x115B7⟩, ⟨0x115DE, 0x115FF⟩,
   ⟨0x11645, 0x1164F⟩, ⟨0x1165A, 0x1165F⟩, ⟨0x1166D, 0x1167F⟩, ⟨0x116BA, 0x116BF⟩,
   ⟨0x116CA, 0x116FF⟩, ⟨0x1171B, 0x1171C⟩, ⟨0x1172C, 0x1172F⟩, ⟨0x11747, 0x117FF⟩,
   ⟨0x1183C, 0x1189F⟩, ⟨0x118F3, 0x118FE⟩, ⟨0x11907, 0x11908⟩, ⟨0x1190A, 0x1190B⟩, .single 0x11914,
   .single 0x11917, .single 0x11936, ⟨0x11939, 0x1193A⟩, ⟨0x11947, 0x1194F⟩, ⟨0x1195A, 0x1199F⟩,
   ⟨0x119A8, 0x119A9⟩, ⟨0x119D8, 0x119D9⟩, ⟨0x119E5, 0x119FF⟩, ⟨0x11A48, 0x11A4F⟩,
   ⟨0x11AA3, 0x11AAF⟩, ⟨0x11AF9, 0x11BFF⟩, .single 0x11C09, .single 0x11C37, ⟨0x11C46, 0x11C4F⟩,
   ⟨0x11C6D, 0x11C6F⟩, ⟨0x11C90, 0x11C91⟩, .single 0x11CA8, ⟨0x11CB7, 0x11CFF⟩, .single 0x11D07,
   .single 0x11D0A, ⟨0x11D37, 0x11D39⟩, .single 0x11D3B, .single 0x11D3E, ⟨0x11D48, 0x11D4F⟩,
   ⟨0x11D5A, 0x11D5F⟩, .single 0x11D66, .single 0x11D69, .single 0x11D8F, .single 0x11D92,
   ⟨0x11D99, 0x11D9F⟩, ⟨0x11DAA, 0x11EDF⟩, ⟨0x11EF9, 0x11FAF⟩, ⟨0x11FB1, 0x11FBF⟩,
   ⟨0x11FF2, 0x11FFE⟩, ⟨0x1239A, 0x123FF⟩, .single 0x1246F, ⟨0x12475, 0x1247F⟩, ⟨0x12544, 0x12F8F⟩,
   ⟨0x12FF3, 0x12FFF⟩, ⟨0x1342F, 0x143FF⟩, ⟨0x14647, 0x167FF⟩, ⟨0x16A39, 0x16A3F⟩, .single 0x16A5F,
   ⟨0x16A6A, 0x16A6D⟩, .single 0x16ABF, ⟨0x16ACA, 0x16ACF⟩, ⟨0x16AEE, 0x16AEF⟩, ⟨0x16AF6, 0x16AFF⟩,
   ⟨0x16B46, 0x16B4F⟩, .single 0x16B5A, .single 0x16B62, ⟨0x16B78, 0x16B7C⟩, ⟨0x16B90, 0x16E3F⟩,
   ⟨0x16E9B, 0x16EFF⟩, ⟨0x16F4B, 0x16F4E⟩, ⟨0x16F88, 0x16F8E⟩, ⟨0x16FA0, 0x16FDF⟩,
   ⟨0x16FE5, 0x16FEF⟩, ⟨0x16FF2, 0x16FFF⟩, ⟨0x187F8, 0x187FF⟩, ⟨0x18CD6, 0x18CFF⟩,
   ⟨0x18D09, 0x1AFEF⟩, .single 0x1AFF4, .single 0x1AFFC, .single 0x1AFFF, ⟨0x1B123, 0x1B14F⟩,
   ⟨0x1B153, 0x1B163⟩, ⟨0x1B168, 0x1B16F⟩, ⟨0x1B2FC, 0x1BBFF⟩, ⟨0x1BC6B, 0x1BC6F⟩,
   ⟨0x1BC7D, 0x1BC7F⟩, ⟨0x1BC89, 0x1BC8F⟩, ⟨0x1BC9A, 0x1BC9B⟩, ⟨0x1BCA0, 0x1CEFF⟩,
   ⟨0x1CF2E, 0x1CF2F⟩, ⟨0x1CF47, 0x1CF4F⟩, ⟨0x1CFC4, 0x1CFFF⟩, ⟨0x1D0F6, 0x1D0FF⟩,
   ⟨0x1D127, 0x1D128⟩, ⟨0x1D173, 0x1D17A⟩, ⟨0x1D1EB, 0x1D1FF⟩, ⟨0x1D246, 0x1D2DF⟩,
   ⟨0x1D2F4, 0x1D2FF⟩, ⟨0x1D357, 0x1D35F⟩, ⟨0x1D379, 0x1D3FF⟩, .single 0x1D455, .single 0x1D49D,
   ⟨0x1D4A0, 0x1D4A1⟩, ⟨0x1D4A3, 0x1D4A4⟩, ⟨0x1D4A7, 0x1D4A8⟩, .single 0x1D4AD, .single 0x1D4BA,
   .single 0x1D4BC, .single 0x1D4C4, .single 0x1D506, ⟨0x1D50B, 0x1D50C⟩, .single 0x1D515,
   .single 0x1D51D, .single 0x1D53A, .single 0x1D53F, .single 0x1D545, ⟨0x1D547, 0x1D549⟩,
   .single 0x1D551, ⟨0x1D6A6, 0x1D6A7⟩, ⟨0x1D7CC, 0x1D7CD⟩, ⟨0x1DA8C, 0x1DA9A⟩, .single 0x1DAA0,
   ⟨0x1DAB0, 0x1DEFF⟩, ⟨0x1DF1F, 0x1DFFF⟩, .single 0x1E007, ⟨0x1E019, 0x1E01A⟩, .single 0x1E022,
   .single 0x1E025, ⟨0x1E02B, 0x1E0FF⟩, ⟨0x1E12D, 0x1E12F⟩, ⟨0x1E13E, 0x1E13F⟩, ⟨0x1E14A, 0x1E14D⟩,
   ⟨0x1E150, 0x1E28F⟩, ⟨0x1E2AF, 0x1E2BF⟩, ⟨0x1E2FA, 0x1E2FE⟩, ⟨0x1E300, 0x1E7DF⟩, .single 0x1E7E7,
   .single 0x1E7EC, .single 0x1E7EF, .single 0x1E7FF, ⟨0x1E8C5, 0x1E8C6⟩, ⟨0x1E8D7, 0x1E8FF⟩,
   ⟨0x1E94C, 0x1E94F⟩, ⟨0x1E95A, 0x1E95D⟩, ⟨0x1E960, 0x1EC70⟩, ⟨0x1ECB5, 0x1ED00⟩,
   ⟨0x1ED3E, 0x1EDFF⟩, .single 0x1EE04, .single 0x1EE20, .single 0x1EE23, ⟨0x1EE25, 0x1EE26⟩,
   .single 0x1EE28, .single 0x1EE33, .single 0x1EE38, .single 0x1EE3A, ⟨0x1EE3C, 0x1EE41⟩,
   ⟨0x1EE43, 0x1EE46⟩, .single 0x1EE48, .single 0x1EE4A, .single 0x1EE4C, .single 0x1EE50,
   .single 0x1EE53, ⟨0x1EE55, 0x1EE56⟩, .single 0x1EE58, .single 0x1EE5A, .single 0x1EE5C,
   .single 0x1EE5E, .single 0x1EE60, .single 0x1EE63, ⟨0x1EE65, 0x1EE66⟩, .single 0x1EE6B,
   .single 0x1EE73, .single 0x1EE78, .single 0x1EE7D, .single 0x1EE7F, .single 0x1EE8A,
   ⟨0x1EE9C, 0x1EEA0⟩, .single 0x1EEA4, .single 0x1EEAA, ⟨0x1EEBC, 0x1EEEF⟩, ⟨0x1EEF2, 0x1EFFF⟩,
   ⟨0x1F02C, 0x1F02F⟩, ⟨0x1F094, 0x1F09F⟩, ⟨0x1F0AF, 0x1F0B0⟩, .single 0x1F0C0, .single 0x1F0D0,
   ⟨0x1F0F6, 0x1F0FF⟩, ⟨0x1F1AE, 0x1F1E5⟩, ⟨0x1F203, 0x1F20F⟩, ⟨0x1F23C, 0x1F23F⟩,
   ⟨0x1F249, 0x1F24F⟩, ⟨0x1F252, 0x1F25F⟩, ⟨0x1F266, 0x1F2FF⟩, ⟨0x1F6D8, 0x1F6DC⟩,
   ⟨0x1F6ED, 0x1F6EF⟩, ⟨0x1F6FD, 0x1F6FF⟩, ⟨0x1F774, 0x1F77F⟩, ⟨0x1F7D9, 0x1F7DF⟩,
   ⟨0x1F7EC, 0x1F7EF⟩, ⟨0x1F7F1, 0x1F7FF⟩, ⟨0x1F80C, 0x1F80F⟩, ⟨0x1F848, 0x1F84F⟩,
   ⟨0x1F85A, 0x1F85F⟩, ⟨0x1F888, 0x1F88F⟩, ⟨0x1F8AE, 0x1F8AF⟩, ⟨0x1F8B2, 0x1F8FF⟩,
   ⟨0x1FA54, 0x1FA5F⟩, ⟨0x1FA6E, 0x1FA6F⟩, ⟨0x1FA75, 0x1FA77⟩, ⟨0x1FA7D, 0x1FA7F⟩,
   ⟨0x1FA87, 0x1FA8F⟩, ⟨0x1FAAD, 0x1FAAF⟩, ⟨0x1FABB, 0x1FABF⟩, ⟨0x1FAC6, 0x1FACF⟩,
   ⟨0x1FADA, 0x1FADF⟩, ⟨0x1FAE8, 0x1FAEF⟩, ⟨0x1FAF7, 0x1FAFF⟩, .single 0x1FB93, ⟨0x1FBCB, 0x1FBEF⟩,
   ⟨0x1FBFA, 0x1FFFF⟩, ⟨0x2A6E0, 0x2A6FF⟩, ⟨0x2B739, 0x2B73F⟩, ⟨0x2B81E, 0x2B81F⟩,
   ⟨0x2CEA2, 0x2CEAF⟩, ⟨0x2EBE1, 0x2F7FF⟩, ⟨0x2FA1E, 0x2FFFF⟩, ⟨0x3134B, 0xE00FF⟩,
   ⟨0xE01F0, 0x10FFFF⟩]

/-- Whether a character can stand in quoted text as it is. -/
def isPrintable (character : Char) : Bool :=
  !covered unprintableRuns character

/-- The mark that opens and closes the quotation of a text. -/
def quotationMark (text : List Char) : Char :=
  if text.contains '\x27' && !text.contains '\x22' then '\x22' else '\x27'

/-- The last `width` hexadecimal digits of a number, in lower case. -/
def hexDigits : (width : Nat) -> (number : Nat) -> List Char
  | 0, _ => []
  | width + 1, number => hexDigits width (number / 16) ++ [Nat.digitChar (number % 16)]

/-- A code point written out: two, four or eight digits. -/
def codeEscape (code : Nat) : List Char :=
  if code < 0x100 then '\\' :: 'x' :: hexDigits 2 code
  else if code < 0x10000 then '\\' :: 'u' :: hexDigits 4 code
  else '\\' :: 'U' :: hexDigits 8 code

/-- How a character is written between two marks. -/
def escapeChar (mark character : Char) : List Char :=
  if character = mark || character = '\\' then ['\\', character]
  else if character = '\n' then ['\\', 'n']
  else if character = '\r' then ['\\', 'r']
  else if character = '\t' then ['\\', 't']
  else if isPrintable character then [character]
  else codeEscape character.toNat

/-- The quotation of a text, marks included. -/
def quoted (text : String) : String :=
  let characters := text.toList
  let mark := quotationMark characters
  String.ofList (mark :: characters.flatMap (escapeChar mark) ++ [mark])

end Text

end MutationViewer
