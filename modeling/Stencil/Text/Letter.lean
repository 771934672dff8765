import Stencil.Text.Basic
import Stencil.Text.Digit

/-!
# Letters and identifiers

A name starts with a letter or an underscore and goes on with letters, digits, underscores and
combining marks.
-/

namespace Stencil.Text

def letterRanges : List (Nat × Nat) := [
  (170, 170), (181, 181), (186, 186), (192, 214), (216, 246), (248, 705), (710, 721),
  (736, 740), (748, 748), (750, 750), (880, 884), (886, 893), (895, 895), (902, 902),
  (904, 1013), (1015, 1153), (1162, 1369), (1376, 1416), (1488, 1522), (1568, 1610),
  (1646, 1647), (1649, 1747), (1749, 1749), (1765, 1766), (1774, 1775), (1786, 1788),
  (1791, 1791), (1808, 1808), (1810, 1839), (1869, 1957), (1969, 1969), (1994, 2026),
  (2036, 2037), (2042, 2042), (2048, 2069), (2074, 2074), (2084, 2084), (2088, 2088),
  (2112, 2136), (2144, 2183), (2185, 2190), (2208, 2249), (2308, 2361), (2365, 2365),
  (2384, 2384), (2392, 2401), (2417, 2432), (2437, 2489), (2493, 2493), (2510, 2510),
  (2524, 2529), (2544, 2545), (2556, 2556), (2565, 2617), (2649, 2654), (2674, 2676),
  (2693, 2745), (2749, 2749), (2768, 2785), (2809, 2809), (2821, 2873), (2877, 2877),
  (2908, 2913), (2929, 2929), (2947, 3001), (3024, 3024), (3077, 3129), (3133, 3133),
  (3160, 3169), (3200, 3200), (3205, 3257), (3261, 3261), (3293, 3297), (3313, 3314),
  (3332, 3386), (3389, 3389), (3406, 3406), (3412, 3414), (3423, 3425), (3450, 3455),
  (3461, 3526), (3585, 3632), (3634, 3635), (3648, 3654), (3713, 3760), (3762, 3763),
  (3773, 3782), (3804, 3840), (3904, 3948), (3976, 3980), (4096, 4138), (4159, 4159),
  (4176, 4181), (4186, 4189), (4193, 4193), (4197, 4198), (4206, 4208), (4213, 4225),
  (4238, 4238), (4256, 4346), (4348, 4954), (4992, 5007), (5024, 5117), (5121, 5740),
  (5743, 5759), (5761, 5786), (5792, 5866), (5873, 5905), (5919, 5937), (5952, 5969),
  (5984, 6000), (6016, 6067), (6103, 6103), (6108, 6108), (6176, 6276), (6279, 6312),
  (6314, 6430), (6480, 6601), (6656, 6678), (6688, 6740), (6823, 6823), (6917, 6963),
  (6981, 6988), (7043, 7072), (7086, 7087), (7098, 7141), (7168, 7203), (7245, 7247),
  (7258, 7293), (7296, 7359), (7401, 7404), (7406, 7411), (7413, 7414), (7418, 7615),
  (7680, 8124), (8126, 8126), (8130, 8140), (8144, 8155), (8160, 8172), (8178, 8188),
  (8305, 8305), (8319, 8319), (8336, 8348), (8450, 8450), (8455, 8455), (8458, 8467),
  (8469, 8469), (8473, 8477), (8484, 8484), (8486, 8486), (8488, 8488), (8490, 8493),
  (8495, 8505), (8508, 8511), (8517, 8521), (8526, 8526), (8579, 8580), (11264, 11492),
  (11499, 11502), (11506, 11507), (11520, 11631), (11648, 11742), (11823, 11823),
  (12293, 12294), (12337, 12341), (12347, 12348), (12353, 12438), (12445, 12447),
  (12449, 12538), (12540, 12686), (12704, 12735), (12784, 12799), (13312, 19903),
  (19968, 42124), (42192, 42237), (42240, 42508), (42512, 42527), (42538, 42606),
  (42623, 42653), (42656, 42725), (42775, 42783), (42786, 42888), (42891, 43009),
  (43011, 43013), (43015, 43018), (43020, 43042), (43072, 43123), (43138, 43187),
  (43250, 43255), (43259, 43259), (43261, 43262), (43274, 43301), (43312, 43334),
  (43360, 43388), (43396, 43442), (43471, 43471), (43488, 43492), (43494, 43503),
  (43514, 43560), (43584, 43586), (43588, 43595), (43616, 43638), (43642, 43642),
  (43646, 43695), (43697, 43697), (43701, 43702), (43705, 43709), (43712, 43712),
  (43714, 43741), (43744, 43754), (43762, 43764), (43777, 43866), (43868, 43881),
  (43888, 44002), (44032, 55291), (63744, 64285), (64287, 64296), (64298, 64433),
  (64467, 64829), (64848, 64967), (65008, 65019), (65136, 65276), (65313, 65338),
  (65345, 65370), (65382, 65500), (65536, 65786), (66176, 66256), (66304, 66335),
  (66349, 66368), (66370, 66377), (66384, 66421), (66432, 66461), (66464, 66511),
  (66560, 66717), (66736, 66915), (66928, 67669), (67680, 67702), (67712, 67742),
  (67808, 67829), (67840, 67861), (67872, 67897), (67968, 68023), (68030, 68031),
  (68096, 68096), (68112, 68149), (68192, 68220), (68224, 68252), (68288, 68295),
  (68297, 68324), (68352, 68405), (68416, 68437), (68448, 68466), (68480, 68497),
  (68608, 68850), (68864, 68899), (69248, 69289), (69296, 69404), (69415, 69445),
  (69488, 69505), (69552, 69572), (69600, 69622), (69635, 69687), (69745, 69746),
  (69749, 69749), (69763, 69807), (69840, 69864), (69891, 69926), (69956, 69956),
  (69959, 70002), (70006, 70006), (70019, 70066), (70081, 70084), (70106, 70106),
  (70108, 70108), (70144, 70187), (70272, 70312), (70320, 70366), (70405, 70457),
  (70461, 70461), (70480, 70480), (70493, 70497), (70656, 70708), (70727, 70730),
  (70751, 70831), (70852, 70853), (70855, 70855), (71040, 71086), (71128, 71131),
  (71168, 71215), (71236, 71236), (71296, 71338), (71352, 71352), (71424, 71450),
  (71488, 71723), (71840, 71903), (71935, 71983), (71999, 71999), (72001, 72001),
  (72096, 72144), (72161, 72161), (72163, 72163), (72192, 72192), (72203, 72242),
  (72250, 72250), (72272, 72272), (72284, 72329), (72349, 72349), (72368, 72750),
  (72768, 72768), (72818, 72847), (72960, 73008), (73030, 73030), (73056, 73097),
  (73112, 73112), (73440, 73458), (73648, 73648), (73728, 74649), (74880, 77808),
  (77824, 78894), (82944, 92766), (92784, 92862), (92880, 92909), (92928, 92975),
  (92992, 92995), (93027, 93823), (93952, 94026), (94032, 94032), (94099, 94177),
  (94179, 94179), (94208, 113817), (119808, 120512), (120514, 120538), (120540, 120570),
  (120572, 120596), (120598, 120628), (120630, 120654), (120656, 120686), (120688, 120712),
  (120714, 120744), (120746, 120770), (120772, 120779), (122624, 122654), (123136, 123180),
  (123191, 123197), (123214, 123214), (123536, 123565), (123584, 123627), (124896, 125124),
  (125184, 125251), (125259, 125259), (126464, 126651), (131072, 201546)]

def nameStartRanges : List (Nat × Nat) := [
  (170, 170), (181, 181), (186, 186), (192, 214), (216, 246), (248, 705), (710, 721),
  (736, 740), (748, 748), (750, 750), (880, 884), (886, 887), (891, 893), (895, 895),
  (902, 902), (904, 1013), (1015, 1153), (1162, 1369), (1376, 1416), (1488, 1522),
  (1568, 1610), (1646, 1647), (1649, 1747), (1749, 1749), (1765, 1766), (1774, 1775),
  (1786, 1788), (1791, 1791), (1808, 1808), (1810, 1839), (1869, 1957), (1969, 1969),
  (1994, 2026), (2036, 2037), (2042, 2042), (2048, 2069), (2074, 2074), (2084, 2084),
  (2088, 2088), (2112, 2136), (2144, 2183), (2185, 2190), (2208, 2249), (2308, 2361),
  (2365, 2365), (2384, 2384), (2392, 2401), (2417, 2432), (2437, 2489), (2493, 2493),
  (2510, 2510), (2524, 2529), (2544, 2545), (2556, 2556), (2565, 2617), (2649, 2654),
  (2674, 2676), (2693, 2745), (2749, 2749), (2768, 2785), (2809, 2809), (2821, 2873),
  (2877, 2877), (2908, 2913), (2929, 2929), (2947, 3001), (3024, 3024), (3077, 3129),
  (3133, 3133), (3160, 3169), (3200, 3200), (3205, 3257), (3261, 3261), (3293, 3297),
  (3313, 3314), (3332, 3386), (3389, 3389), (3406, 3406), (3412, 3414), (3423, 3425),
  (3450, 3455), (3461, 3526), (3585, 3632), (3634, 3634), (3648, 3654), (3713, 3760),
  (3762, 3762), (3773, 3782), (3804, 3840), (3904, 3948), (3976, 3980), (4096, 4138),
  (4159, 4159), (4176, 4181), (4186, 4189), (4193, 4193), (4197, 4198), (4206, 4208),
  (4213, 4225), (4238, 4238), (4256, 4346), (4348, 4954), (4992, 5007), (5024, 5117),
  (5121, 5740), (5743, 5759), (5761, 5786), (5792, 5866), (5870, 5905), (5919, 5937),
  (5952, 5969), (5984, 6000), (6016, 6067), (6103, 6103), (6108, 6108), (6176, 6312),
  (6314, 6430), (6480, 6601), (6656, 6678), (6688, 6740), (6823, 6823), (6917, 6963),
  (6981, 6988), (7043, 7072), (7086, 7087), (7098, 7141), (7168, 7203), (7245, 7247),
  (7258, 7293), (7296, 7359), (7401, 7404), (7406, 7411), (7413, 7414), (7418, 7615),
  (7680, 8124), (8126, 8126), (8130, 8140), (8144, 8155), (8160, 8172), (8178, 8188),
  (8305, 8305), (8319, 8319), (8336, 8348), (8450, 8450), (8455, 8455), (8458, 8467),
  (8469, 8469), (8472, 8477), (8484, 8484), (8486, 8486), (8488, 8488), (8490, 8505),
  (8508, 8511), (8517, 8521), (8526, 8526), (8544, 8584), (11264, 11492), (11499, 11502),
  (11506, 11507), (11520, 11631), (11648, 11742), (12293, 12295), (12321, 12329),
  (12337, 12341), (12344, 12348), (12353, 12438), (12445, 12447), (12449, 12538),
  (12540, 12686), (12704, 12735), (12784, 12799), (13312, 19903), (19968, 42124),
  (42192, 42237), (42240, 42508), (42512, 42527), (42538, 42606), (42623, 42653),
  (42656, 42735), (42775, 42783), (42786, 42888), (42891, 43009), (43011, 43013),
  (43015, 43018), (43020, 43042), (43072, 43123), (43138, 43187), (43250, 43255),
  (43259, 43259), (43261, 43262), (43274, 43301), (43312, 43334), (43360, 43388),
  (43396, 43442), (43471, 43471), (43488, 43492), (43494, 43503), (43514, 43560),
  (43584, 43586), (43588, 43595), (43616, 43638), (43642, 43642), (43646, 43695),
  (43697, 43697), (43701, 43702), (43705, 43709), (43712, 43712), (43714, 43741),
  (43744, 43754), (43762, 43764), (43777, 43866), (43868, 43881), (43888, 44002),
  (44032, 55291), (63744, 64285), (64287, 64296), (64298, 64433), (64467, 64605),
  (64612, 64829), (64848, 64967), (65008, 65017), (65137, 65137), (65139, 65139),
  (65143, 65143), (65145, 65145), (65147, 65147), (65149, 65149), (65151, 65276),
  (65313, 65338), (65345, 65370), (65382, 65437), (65440, 65500), (65536, 65786),
  (65856, 65908), (66176, 66256), (66304, 66335), (66349, 66421), (66432, 66461),
  (66464, 66511), (66513, 66717), (66736, 66915), (66928, 67669), (67680, 67702),
  (67712, 67742), (67808, 67829), (67840, 67861), (67872, 67897), (67968, 68023),
  (68030, 68031), (68096, 68096), (68112, 68149), (68192, 68220), (68224, 68252),
  (68288, 68295), (68297, 68324), (68352, 68405), (68416, 68437), (68448, 68466),
  (68480, 68497), (68608, 68850), (68864, 68899), (69248, 69289), (69296, 69404),
  (69415, 69445), (69488, 69505), (69552, 69572), (69600, 69622), (69635, 69687),
  (69745, 69746), (69749, 69749), (69763, 69807), (69840, 69864), (69891, 69926),
  (69956, 69956), (69959, 70002), (70006, 70006), (70019, 70066), (70081, 70084),
  (70106, 70106), (70108, 70108), (70144, 70187), (70272, 70312), (70320, 70366),
  (70405, 70457), (70461, 70461), (70480, 70480), (70493, 70497), (70656, 70708),
  (70727, 70730), (70751, 70831), (70852, 70853), (70855, 70855), (71040, 71086),
  (71128, 71131), (71168, 71215), (71236, 71236), (71296, 71338), (71352, 71352),
  (71424, 71450), (71488, 71723), (71840, 71903), (71935, 71983), (71999, 71999),
  (72001, 72001), (72096, 72144), (72161, 72161), (72163, 72163), (72192, 72192),
  (72203, 72242), (72250, 72250), (72272, 72272), (72284, 72329), (72349, 72349),
  (72368, 72750), (72768, 72768), (72818, 72847), (72960, 73008), (73030, 73030),
  (73056, 73097), (73112, 73112), (73440, 73458), (73648, 73648), (73728, 74862),
  (74880, 77808), (77824, 78894), (82944, 92766), (92784, 92862), (92880, 92909),
  (92928, 92975), (92992, 92995), (93027, 93823), (93952, 94026), (94032, 94032),
  (94099, 94177), (94179, 94179), (94208, 113817), (119808, 120512), (120514, 120538),
  (120540, 120570), (120572, 120596), (120598, 120628), (120630, 120654), (120656, 120686),
  (120688, 120712), (120714, 120744), (120746, 120770), (120772, 120779), (122624, 122654),
  (123136, 123180), (123191, 123197), (123214, 123214), (123536, 123565), (123584, 123627),
  (124896, 125124), (125184, 125251), (125259, 125259), (126464, 126651), (131072, 201546)]

def nameMarkRanges : List (Nat × Nat) := [
  (183, 183), (768, 879), (903, 903), (1155, 1159), (1425, 1469), (1471, 1471),
  (1473, 1474), (1476, 1477), (1479, 1479), (1552, 1562), (1611, 1641), (1648, 1648),
  (1750, 1756), (1759, 1764), (1767, 1768), (1770, 1773), (1776, 1785), (1809, 1809),
  (1840, 1866), (1958, 1968), (1984, 1993), (2027, 2035), (2045, 2045), (2070, 2073),
  (2075, 2083), (2085, 2087), (2089, 2093), (2137, 2139), (2200, 2207), (2250, 2273),
  (2275, 2307), (2362, 2364), (2366, 2383), (2385, 2391), (2402, 2403), (2406, 2415),
  (2433, 2435), (2492, 2492), (2494, 2509), (2519, 2519), (2530, 2543), (2558, 2563),
  (2620, 2641), (2662, 2673), (2677, 2677), (2689, 2691), (2748, 2748), (2750, 2765),
  (2786, 2799), (2810, 2819), (2876, 2876), (2878, 2903), (2914, 2927), (2946, 2946),
  (3006, 3021), (3031, 3055), (3072, 3076), (3132, 3132), (3134, 3158), (3170, 3183),
  (3201, 3203), (3260, 3260), (3262, 3286), (3298, 3311), (3328, 3331), (3387, 3388),
  (3390, 3405), (3415, 3415), (3426, 3439), (3457, 3459), (3530, 3571), (3633, 3633),
  (3635, 3642), (3655, 3662), (3664, 3673), (3761, 3761), (3763, 3772), (3784, 3801),
  (3864, 3865), (3872, 3881), (3893, 3893), (3895, 3895), (3897, 3897), (3902, 3903),
  (3953, 3972), (3974, 3975), (3981, 4028), (4038, 4038), (4139, 4158), (4160, 4169),
  (4182, 4185), (4190, 4192), (4194, 4196), (4199, 4205), (4209, 4212), (4226, 4237),
  (4239, 4253), (4957, 4959), (4969, 4977), (5906, 5909), (5938, 5940), (5970, 5971),
  (6002, 6003), (6068, 6099), (6109, 6121), (6155, 6157), (6159, 6169), (6313, 6313),
  (6432, 6459), (6470, 6479), (6608, 6618), (6679, 6683), (6741, 6809), (6832, 6845),
  (6847, 6916), (6964, 6980), (6992, 7001), (7019, 7027), (7040, 7042), (7073, 7085),
  (7088, 7097), (7142, 7155), (7204, 7223), (7232, 7241), (7248, 7257), (7376, 7378),
  (7380, 7400), (7405, 7405), (7412, 7412), (7415, 7417), (7616, 7679), (8255, 8256),
  (8276, 8276), (8400, 8412), (8417, 8417), (8421, 8432), (11503, 11505), (11647, 11647),
  (11744, 11775), (12330, 12335), (12441, 12442), (42528, 42537), (42607, 42607),
  (42612, 42621), (42654, 42655), (42736, 42737), (43010, 43010), (43014, 43014),
  (43019, 43019), (43043, 43047), (43052, 43052), (43136, 43137), (43188, 43205),
  (43216, 43249), (43263, 43273), (43302, 43309), (43335, 43347), (43392, 43395),
  (43443, 43456), (43472, 43481), (43493, 43493), (43504, 43513), (43561, 43574),
  (43587, 43587), (43596, 43609), (43643, 43645), (43696, 43696), (43698, 43700),
  (43703, 43704), (43710, 43711), (43713, 43713), (43755, 43759), (43765, 43766),
  (44003, 44010), (44012, 44025), (64286, 64286), (65024, 65039), (65056, 65071),
  (65075, 65076), (65101, 65103), (65296, 65305), (65343, 65343), (65438, 65439),
  (66045, 66045), (66272, 66272), (66422, 66426), (66720, 66729), (68097, 68111),
  (68152, 68159), (68325, 68326), (68900, 68921), (69291, 69292), (69446, 69456),
  (69506, 69509), (69632, 69634), (69688, 69702), (69734, 69744), (69747, 69748),
  (69759, 69762), (69808, 69818), (69826, 69826), (69872, 69890), (69927, 69951),
  (69957, 69958), (70003, 70003), (70016, 70018), (70067, 70080), (70089, 70092),
  (70094, 70105), (70188, 70199), (70206, 70206), (70367, 70403), (70459, 70460),
  (70462, 70477), (70487, 70487), (70498, 70516), (70709, 70726), (70736, 70745),
  (70750, 70750), (70832, 70851), (70864, 70873), (71087, 71104), (71132, 71133),
  (71216, 71232), (71248, 71257), (71339, 71351), (71360, 71369), (71453, 71481),
  (71724, 71738), (71904, 71913), (71984, 71998), (72000, 72000), (72002, 72003),
  (72016, 72025), (72145, 72160), (72164, 72164), (72193, 72202), (72243, 72249),
  (72251, 72254), (72263, 72263), (72273, 72283), (72330, 72345), (72751, 72767),
  (72784, 72793), (72850, 72886), (73009, 73029), (73031, 73049), (73098, 73111),
  (73120, 73129), (73459, 73462), (92768, 92777), (92864, 92873), (92912, 92916),
  (92976, 92982), (93008, 93017), (94031, 94031), (94033, 94098), (94180, 94193),
  (113821, 113822), (118528, 118598), (119141, 119145), (119149, 119154), (119163, 119170),
  (119173, 119179), (119210, 119213), (119362, 119364), (120782, 120831), (121344, 121398),
  (121403, 121452), (121461, 121461), (121476, 121476), (121499, 121519), (122880, 122922),
  (123184, 123190), (123200, 123209), (123566, 123566), (123628, 123641), (125136, 125142),
  (125252, 125258), (125264, 125273), (130032, 130041), (917760, 917999)]

def isLetter (c : Char) : Bool :=
  if c.toNat < 128 then c.isAlpha else inRanges letterRanges c

def isNameStart (c : Char) : Bool :=
  if c.toNat < 128 then c.isAlpha || c == '_' else inRanges nameStartRanges c

def isNameChar (c : Char) : Bool :=
  if c.toNat < 128 then c.isAlphanum || c == '_'
  else inRanges nameStartRanges c || inRanges nameMarkRanges c

end Stencil.Text
