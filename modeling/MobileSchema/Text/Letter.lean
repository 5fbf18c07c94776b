import MobileSchema.Text.CaseMap
import MobileSchema.Text.Character
import MobileSchema.Text.Identifier

/-!
# Letters and numerals

The classes of the characters of all scripts: capital letters, small letters and those that are a
capital and a small letter in one, letters of any kind, and the characters that stand for numbers.
-/

namespace MobileSchema

/-! ### Letters with a case -/

/-- Rows `(first, last, step)` of the capital letters. -/
def capitalRows : List (Nat × Nat × Nat) :=
  [(65, 90, 1), (192, 214, 1), (216, 222, 1), (256, 310, 2), (313, 327, 2), (330, 376, 2), (377,
   381, 2), (385, 386, 1), (388, 390, 2), (391, 393, 2), (394, 395, 1), (398, 401, 1), (403, 404,
   1), (406, 408, 1), (412, 413, 1), (415, 416, 1), (418, 422, 2), (423, 425, 2), (428, 430, 2),
   (431, 433, 2), (434, 435, 1), (437, 439, 2), (440, 440, 1), (444, 444, 1), (452, 452, 1),
   (455, 455, 1), (458, 458, 1), (461, 475, 2), (478, 494, 2), (497, 497, 1), (500, 502, 2),
   (503, 504, 1), (506, 562, 2), (570, 571, 1), (573, 574, 1), (577, 579, 2), (580, 582, 1),
   (584, 590, 2), (880, 882, 2), (886, 886, 1), (895, 895, 1), (902, 904, 2), (905, 906, 1),
   (908, 910, 2), (911, 913, 2), (914, 929, 1), (931, 939, 1), (975, 975, 1), (978, 980, 1),
   (984, 1006, 2), (1012, 1012, 1), (1015, 1017, 2), (1018, 1018, 1), (1021, 1071, 1), (1120,
   1152, 2), (1162, 1216, 2), (1217, 1229, 2), (1232, 1326, 2), (1329, 1366, 1), (4256, 4293, 1),
   (4295, 4295, 1), (4301, 4301, 1), (5024, 5109, 1), (7312, 7354, 1), (7357, 7359, 1), (7680,
   7828, 2), (7838, 7934, 2), (7944, 7951, 1), (7960, 7965, 1), (7976, 7983, 1), (7992, 7999, 1),
   (8008, 8013, 1), (8025, 8031, 2), (8040, 8047, 1), (8120, 8123, 1), (8136, 8139, 1), (8152,
   8155, 1), (8168, 8172, 1), (8184, 8187, 1), (8450, 8450, 1), (8455, 8455, 1), (8459, 8461, 1),
   (8464, 8466, 1), (8469, 8469, 1), (8473, 8477, 1), (8484, 8490, 2), (8491, 8493, 1), (8496,
   8499, 1), (8510, 8511, 1), (8517, 8517, 1), (8544, 8559, 1), (8579, 8579, 1), (9398, 9423, 1),
   (11264, 11311, 1), (11360, 11362, 2), (11363, 11364, 1), (11367, 11373, 2), (11374, 11376, 1),
   (11378, 11378, 1), (11381, 11381, 1), (11390, 11392, 1), (11394, 11490, 2), (11499, 11501, 2),
   (11506, 11506, 1), (42560, 42604, 2), (42624, 42650, 2), (42786, 42798, 2), (42802, 42862, 2),
   (42873, 42877, 2), (42878, 42886, 2), (42891, 42893, 2), (42896, 42898, 2), (42902, 42922, 2),
   (42923, 42926, 1), (42928, 42932, 1), (42934, 42948, 2), (42949, 42951, 1), (42953, 42953, 1),
   (42960, 42960, 1), (42966, 42968, 2), (42997, 42997, 1), (65313, 65338, 1), (66560, 66599, 1),
   (66736, 66771, 1), (66928, 66938, 1), (66940, 66954, 1), (66956, 66962, 1), (66964, 66965, 1),
   (68736, 68786, 1), (71840, 71871, 1), (93760, 93791, 1), (119808, 119833, 1), (119860, 119885,
   1), (119912, 119937, 1), (119964, 119966, 2), (119967, 119967, 1), (119970, 119970, 1),
   (119973, 119974, 1), (119977, 119980, 1), (119982, 119989, 1), (120016, 120041, 1), (120068,
   120069, 1), (120071, 120074, 1), (120077, 120084, 1), (120086, 120092, 1), (120120, 120121,
   1), (120123, 120126, 1), (120128, 120132, 1), (120134, 120134, 1), (120138, 120144, 1),
   (120172, 120197, 1), (120224, 120249, 1), (120276, 120301, 1), (120328, 120353, 1), (120380,
   120405, 1), (120432, 120457, 1), (120488, 120512, 1), (120546, 120570, 1), (120604, 120628,
   1), (120662, 120686, 1), (120720, 120744, 1), (120778, 120778, 1), (125184, 125217, 1),
   (127280, 127305, 1), (127312, 127337, 1), (127344, 127369, 1)]

/-- The letters that are a capital and a small letter in one. -/
def titleRanges : List CodeRange :=
  [(453, 453), (456, 456), (459, 459), (498, 498), (8072, 8079), (8088, 8095), (8104, 8111),
   (8124, 8124), (8140, 8140), (8188, 8188)]

/-- The small letters that the search for a word's end passes over. -/
def ignorableSmallRanges : List CodeRange :=
  [(688, 696), (704, 705), (736, 740), (837, 837), (890, 890), (7468, 7530), (7544, 7544), (7579,
   7615), (8305, 8305), (8319, 8319), (8336, 8348), (11388, 11389), (42652, 42653), (42864,
   42864), (43000, 43001), (43868, 43871), (67456, 67456), (67459, 67461), (67463, 67504),
   (67506, 67514)]

/-- Whether a character is a capital letter. -/
def isCapital (c : Char) : Bool :=
  capitalRows.any fun (first, last, step) =>
    first ≤ c.toNat && c.toNat ≤ last && (c.toNat - first) % step == 0

/-- Whether a character is a capital and a small letter in one. -/
def isTitle (c : Char) : Bool := CodeRange.covers titleRanges c.toNat

/-- Whether a character is a letter with a case. -/
def isCased (c : Char) : Bool :=
  CodeRange.covers casedRanges c.toNat || CodeRange.covers ignorableSmallRanges c.toNat

/-- Whether a character is a small letter. -/
def isSmall (c : Char) : Bool := isCased c && !isCapital c && !isTitle c

/-! ### Letters of any kind -/

/-- The characters that start identifiers, but are no letters. -/
def starterRanges : List CodeRange :=
  [(5870, 5872), (6277, 6278), (8472, 8472), (8494, 8494), (8544, 8578), (8581, 8584), (12295,
   12295), (12321, 12329), (12344, 12346), (42726, 42735), (65856, 65908), (66369, 66369),
   (66378, 66378), (66513, 66517), (74752, 74862)]

/-- The letters that start no identifiers. -/
def loneLetterRanges : List CodeRange :=
  [(890, 890), (3635, 3635), (3763, 3763), (11823, 11823), (64606, 64611), (65018, 65019),
   (65136, 65136), (65138, 65138), (65140, 65140), (65142, 65142), (65144, 65144), (65146,
   65146), (65148, 65148), (65150, 65150), (65438, 65439)]

/-- Whether a character is a letter. -/
def isLetter (c : Char) : Bool :=
  if c.toNat < 128 then c.isAlpha
  else (startsIdentifier c && !CodeRange.covers starterRanges c.toNat) ||
    CodeRange.covers loneLetterRanges c.toNat

/-! ### Numerals -/

/-- The digits that stand in no decimal number. -/
def loneDigitRanges : List CodeRange :=
  [(178, 179), (185, 185), (4969, 4977), (6618, 6618), (8304, 8304), (8308, 8313), (8320, 8329),
   (9312, 9320), (9332, 9340), (9352, 9360), (9450, 9450), (9461, 9469), (9471, 9471), (10102,
   10110), (10112, 10120), (10122, 10130), (68160, 68163), (69216, 69224), (69714, 69722),
   (127232, 127242)]

/-- The numerals that are no digits. -/
def numeralRanges : List CodeRange :=
  [(188, 190), (2548, 2553), (2930, 2935), (3056, 3058), (3192, 3198), (3416, 3422), (3440,
   3448), (3882, 3891), (4978, 4988), (5870, 5872), (6128, 6137), (8528, 8578), (8581, 8585),
   (9321, 9331), (9341, 9351), (9361, 9371), (9451, 9460), (9470, 9470), (10111, 10111), (10121,
   10121), (10131, 10131), (11517, 11517), (12295, 12295), (12321, 12329), (12344, 12346),
   (12690, 12693), (12832, 12841), (12872, 12879), (12881, 12895), (12928, 12937), (12977,
   12991), (13317, 13317), (13443, 13443), (14378, 14378), (15181, 15181), (19968, 19968),
   (19971, 19971), (19975, 19975), (19977, 19977), (20061, 20061), (20108, 20108), (20116,
   20116), (20118, 20118), (20159, 20160), (20191, 20191), (20200, 20200), (20237, 20237),
   (20336, 20336), (20740, 20740), (20806, 20806), (20841, 20841), (20843, 20843), (20845,
   20845), (21313, 21313), (21315, 21317), (21324, 21324), (21441, 21444), (22235, 22235),
   (22769, 22769), (22777, 22777), (24186, 24186), (24318, 24319), (24332, 24334), (24336,
   24336), (25342, 25342), (25420, 25420), (26578, 26578), (28422, 28422), (29590, 29590),
   (30334, 30334), (32902, 32902), (33836, 33836), (36014, 36014), (36019, 36019), (36144,
   36144), (38433, 38433), (38470, 38470), (38476, 38476), (38520, 38520), (38646, 38646),
   (42726, 42735), (43056, 43061), (63851, 63851), (63859, 63859), (63864, 63864), (63922,
   63922), (63953, 63953), (63955, 63955), (63997, 63997), (65799, 65843), (65856, 65912),
   (65930, 65931), (66273, 66299), (66336, 66339), (66369, 66369), (66378, 66378), (66513,
   66517), (67672, 67679), (67705, 67711), (67751, 67759), (67835, 67839), (67862, 67867),
   (68028, 68029), (68032, 68047), (68050, 68095), (68164, 68168), (68221, 68222), (68253,
   68255), (68331, 68335), (68440, 68447), (68472, 68479), (68521, 68527), (68858, 68863),
   (69225, 69246), (69405, 69414), (69457, 69460), (69573, 69579), (69723, 69733), (70113,
   70132), (71482, 71483), (71914, 71922), (72794, 72812), (73664, 73684), (74752, 74862),
   (93019, 93025), (93824, 93846), (119520, 119539), (119648, 119672), (125127, 125135), (126065,
   126123), (126125, 126127), (126129, 126132), (126209, 126253), (126255, 126269), (127243,
   127244), (131073, 131073), (131172, 131172), (131298, 131298), (131361, 131361), (133418,
   133418), (133507, 133507), (133516, 133516), (133532, 133532), (133866, 133866), (133885,
   133885), (133913, 133913), (140176, 140176), (141720, 141720), (146203, 146203), (156269,
   156269), (194704, 194704)]

/-- Whether a character is a digit, be it in a decimal number or not. -/
def isAnyDigit (c : Char) : Bool := isDigit c || CodeRange.covers loneDigitRanges c.toNat

/-- Whether a character stands for a number. -/
def isNumeral (c : Char) : Bool := isAnyDigit c || CodeRange.covers numeralRanges c.toNat

/-- Whether a character is a letter or stands for a number. -/
def isAlphanumeric (c : Char) : Bool := isLetter c || isNumeral c

end MobileSchema
