import MagnetStream.Text.Lower
import MagnetStream.Text.Printable

/-!
# The characters of labels

A label of a host name holds small letters, marks and digits of all scripts, and hyphens. A few more
characters may stand where their neighbours call for them: the joiners, and some signs and digits of
single scripts.
-/

namespace MagnetStream.Url.Label

open Text (inRanges)

/-- The characters of labels among those that print and are not capital letters. -/
def plainRanges : List (Nat × Nat) := [
  (45, 45), (48, 57), (97, 122), (223, 246), (248, 305), (309, 318), (322, 328), (331, 382),
  (384, 451), (462, 496), (501, 687), (697, 705), (710, 721), (748, 748), (750, 750), (768, 831),
  (834, 834), (838, 846), (848, 883), (887, 887), (891, 893), (912, 974), (983, 1007), (1011, 1011),
  (1016, 1153), (1155, 1159), (1163, 1369), (1376, 1414), (1416, 1416), (1425, 1469), (1471, 1471),
  (1473, 1474), (1476, 1477), (1479, 1522), (1552, 1562), (1568, 1599), (1601, 1631), (1646, 1652),
  (1657, 1747), (1749, 1756), (1759, 1768), (1770, 1775), (1786, 1791), (1808, 2037), (2045, 2045),
  (2048, 2093), (2112, 2139), (2144, 2183), (2185, 2391), (2400, 2403), (2406, 2415), (2417, 2519),
  (2528, 2545), (2556, 2556), (2558, 2610), (2613, 2613), (2616, 2641), (2652, 2652), (2662, 2677),
  (2689, 2799), (2809, 2903), (2911, 2927), (2929, 2929), (2946, 3055), (3072, 3183), (3200, 3203),
  (3205, 3406), (3412, 3415), (3423, 3439), (3450, 3571), (3585, 3634), (3636, 3642), (3648, 3662),
  (3664, 3673), (3713, 3762), (3764, 3801), (3806, 3840), (3851, 3851), (3864, 3865), (3872, 3881),
  (3893, 3893), (3895, 3895), (3897, 3897), (3902, 3906), (3908, 3916), (3918, 3921), (3923, 3926),
  (3928, 3931), (3933, 3944), (3946, 3954), (3956, 3956), (3962, 3968), (3970, 3972), (3974, 3986),
  (3988, 3996), (3998, 4001), (4003, 4006), (4008, 4011), (4013, 4024), (4026, 4028), (4038, 4038),
  (4096, 4169), (4176, 4253), (4304, 4346), (4349, 4351), (4608, 4959), (4992, 5007), (5121, 5740),
  (5743, 5786), (5792, 5866), (5873, 5940), (5952, 6067), (6070, 6099), (6103, 6103), (6108, 6121),
  (6160, 6459), (6470, 6617), (6656, 6683), (6688, 6809), (6823, 6823), (6832, 6845), (6847, 7001),
  (7019, 7027), (7040, 7155), (7168, 7223), (7232, 7293), (7376, 7378), (7380, 7467), (7471, 7471),
  (7483, 7483), (7502, 7502), (7531, 7543), (7545, 7578), (7616, 7833), (7836, 8048), (8050, 8050),
  (8052, 8052), (8054, 8054), (8056, 8056), (8058, 8058), (8060, 8060), (8112, 8113), (8118, 8118),
  (8134, 8134), (8144, 8146), (8150, 8151), (8160, 8162), (8164, 8167), (8182, 8182), (8526, 8526),
  (8580, 8580), (11312, 11387), (11393, 11492), (11500, 11507), (11520, 11623), (11647, 11775),
  (11823, 11823), (12293, 12295), (12330, 12333), (12348, 12348), (12353, 12442), (12445, 12446),
  (12449, 12538), (12540, 12542), (12549, 12591), (12704, 12735), (12784, 12799), (13312, 19903),
  (19968, 42124), (42192, 42237), (42240, 42508), (42512, 42607), (42612, 42621), (42623, 42651),
  (42654, 42725), (42736, 42737), (42775, 42783), (42787, 42863), (42865, 42888), (42892, 42969),
  (42998, 42999), (43002, 43047), (43052, 43052), (43072, 43123), (43136, 43205), (43216, 43255),
  (43259, 43259), (43261, 43309), (43312, 43347), (43392, 43456), (43471, 43481), (43488, 43609),
  (43616, 43638), (43642, 43741), (43744, 43759), (43762, 43866), (43872, 43880), (43968, 44010),
  (44012, 55203), (64014, 64015), (64017, 64017), (64019, 64020), (64031, 64031), (64033, 64033),
  (64035, 64036), (64039, 64041), (64286, 64286), (65056, 65071), (65139, 65139), (65536, 65786),
  (66045, 66272), (66304, 66335), (66349, 66368), (66370, 66377), (66384, 66461), (66464, 66511),
  (66600, 66915), (66967, 67456), (67584, 67669), (67680, 67702), (67712, 67742), (67808, 67829),
  (67840, 67861), (67872, 67897), (67968, 68023), (68030, 68031), (68096, 68159), (68192, 68220),
  (68224, 68252), (68288, 68295), (68297, 68326), (68352, 68405), (68416, 68437), (68448, 68466),
  (68480, 68497), (68608, 68850), (68864, 68921), (69248, 69292), (69296, 69404), (69415, 69456),
  (69488, 69509), (69552, 69572), (69600, 69702), (69734, 69818), (69826, 69951), (69956, 70003),
  (70006, 70084), (70089, 70092), (70094, 70106), (70108, 70108), (70144, 70199), (70206, 70312),
  (70320, 70730), (70736, 70745), (70750, 70853), (70855, 71104), (71128, 71232), (71236, 71257),
  (71296, 71352), (71360, 71481), (71488, 71738), (71872, 71913), (71935, 72003), (72016, 72161),
  (72163, 72254), (72263, 72345), (72349, 72349), (72368, 72768), (72784, 72793), (72818, 73462),
  (73648, 73648), (73728, 74649), (74880, 77808), (77824, 92777), (92784, 92916), (92928, 92982),
  (92992, 92995), (93008, 93017), (93027, 93823), (93952, 94177), (94179, 113817), (113821, 113822),
  (118528, 118598), (121344, 121398), (121403, 121452), (121461, 121461), (121476, 121476),
  (121499, 123214), (123536, 123641), (124896, 125124), (125136, 125273), (131072, 191456),
  (196608, 201546)]

/-- The characters of labels that became known after Unicode 14.0. Between them lie only characters
that do not print. -/
def laterRanges : List (Nat × Nat) := [
  (2191, 2191), (2199, 2199), (3164, 3164), (3292, 3292), (3315, 3315), (3790, 3790), (6863, 6877),
  (6880, 6891), (7306, 7306), (42957, 42957), (42959, 42959), (42971, 42971), (67008, 67059),
  (67904, 67929), (68928, 68943), (68969, 68973), (68975, 68997), (69314, 69319), (69370, 69375),
  (70207, 70209), (70528, 70537), (70539, 70539), (70542, 70542), (70544, 70581), (70583, 70592),
  (70594, 70594), (70597, 70597), (70599, 70602), (70604, 70611), (70625, 70626), (71376, 71395),
  (72544, 72551), (72640, 72672), (72688, 72697), (73136, 73179), (73184, 73193), (73472, 73488),
  (73490, 73530), (73534, 73538), (73552, 73562), (78895, 78895), (78912, 78933), (78944, 82938),
  (90368, 90425), (93504, 93548), (93552, 93561), (93883, 93907), (94194, 94195), (100344, 100351),
  (101631, 101662), (101760, 101874), (110898, 110898), (110933, 110933), (122661, 122666),
  (123023, 123023), (124112, 124153), (124368, 124410), (124608, 124638), (124640, 124661),
  (124670, 124671), (177977, 177983), (183970, 183981), (191472, 192093), (201552, 210041)]

/-- The letters of the Cherokee script that stay capital, because its small letters came later. -/
def isCherokee (c : Char) : Bool := 5024 ≤ c.toNat && c.toNat ≤ 5109

/-- Whether a character is only known since after Unicode 14.0. -/
def isLater (c : Char) : Bool := !Text.isPrintable c && inRanges laterRanges c

/-- Whether a character may stand anywhere in a label. -/
def isPlain (c : Char) : Bool :=
  isLater c ||
    (Text.isPrintable c && (isCherokee c || (Text.small c == [c] && inRanges plainRanges c)))

/-- The joiner that keeps characters apart. -/
def nonJoiner : Char := '\u200c'

/-- The joiner that brings characters together. -/
def joiner : Char := '\u200d'

def greek : List (Nat × Nat) := [
  (880, 883), (885, 887), (890, 893), (895, 895), (900, 900), (902, 902), (904, 906), (908, 908),
  (910, 929), (931, 993), (1008, 1023), (7462, 7466), (7517, 7521), (7526, 7530), (7615, 7615),
  (7936, 7957), (7960, 7965), (7968, 8005), (8008, 8013), (8016, 8023), (8025, 8025), (8027, 8027),
  (8029, 8029), (8031, 8061), (8064, 8116), (8118, 8132), (8134, 8147), (8150, 8155), (8157, 8175),
  (8178, 8180), (8182, 8190), (8486, 8486), (43877, 43877), (65856, 65934), (65952, 65952),
  (119296, 119365)]

def hebrew : List (Nat × Nat) := [
  (1425, 1479), (1488, 1514), (1519, 1524), (64285, 64310), (64312, 64316), (64318, 64318),
  (64320, 64321), (64323, 64324), (64326, 64335)]

/-- The ranges of the Hiragana, Katakana and Han scripts. -/
def japanese : List (Nat × Nat) := [
  (12353, 12438), (12445, 12447), (110593, 110879), (110898, 110898), (110928, 110930),
  (127488, 127488),
  (12449, 12538), (12541, 12543), (12784, 12799), (13008, 13054), (13056, 13143), (65382, 65391),
  (65393, 65437), (110576, 110579), (110581, 110587), (110589, 110590), (110592, 110592),
  (110880, 110882), (110933, 110933), (110948, 110951),
  (11904, 11929), (11931, 12019), (12032, 12245), (12293, 12293), (12295, 12295), (12321, 12329),
  (12344, 12347), (13312, 19903), (19968, 40959), (63744, 64109), (64112, 64217), (94178, 94179),
  (94192, 94198), (131072, 173791), (173824, 178205), (178208, 183981), (183984, 191456),
  (191472, 192093), (194560, 195101), (196608, 201546), (201552, 210041)]

/-- The digits of Arabic numbers in their western and eastern forms. -/
def isWesternDigit (c : Char) : Bool := 1632 ≤ c.toNat && c.toNat ≤ 1641

@[inherit_doc isWesternDigit]
def isEasternDigit (c : Char) : Bool := 1776 ≤ c.toNat && c.toNat ≤ 1785

/-- Whether the nearest character of a text satisfies `p`. -/
def nearest (p : Char → Bool) (text : List Char) : Bool := text.head?.any p

/-- Whether a character stands where its neighbours in a label call for it, given what is before it,
the nearest character first, and what is behind it. The answer is absent for a character that
depends on no neighbours. A middle dot stands between two letters l, a Greek numeral sign before a
Greek letter, a Hebrew sign behind a Hebrew letter, a Katakana dot among Japanese letters, and the
two forms of Arabic digits do not stand together. -/
def fits? (before : List Char) (c : Char) (after : List Char) : Option Bool :=
  match c.toNat with
  | 0xb7 => some (nearest (· == 'l') before && nearest (· == 'l') after)
  | 0x375 => some (nearest (inRanges greek) after)
  | 0x5f3 | 0x5f4 => some (nearest (inRanges hebrew) before)
  | 0x30fb => some ((before ++ after).any (inRanges japanese))
  | _ =>
    if isWesternDigit c then some (!(before ++ after).any isEasternDigit)
    else if isEasternDigit c then some (!(before ++ after).any isWesternDigit)
    else none

end MagnetStream.Url.Label
