/-!
The general categories of characters in version 16 of the Unicode standard, as a table of runs.
Each number stands for the start of a run of characters of one category: the first character times
32, plus the place of the category in `categoryNames`.
-/

namespace Conformance.Pattern

/-- The names of the general categories, in lower case and without marks. -/
def categoryNames : List (List String) :=
  [
    ["cc", "control", "cntrl"], ["cf", "format"], ["cn", "unassigned"], ["co", "privateuse"],
    ["ll", "lowercaseletter"], ["lm", "modifierletter"], ["lo", "otherletter"],
    ["lt", "titlecaseletter"], ["lu", "uppercaseletter"], ["mc", "spacingmark"],
    ["me", "enclosingmark"], ["mn", "nonspacingmark"], ["nd", "decimalnumber", "digit"],
    ["nl", "letternumber"], ["no", "othernumber"], ["pc", "connectorpunctuation"],
    ["pd", "dashpunctuation"], ["pe", "closepunctuation"], ["pf", "finalpunctuation"],
    ["pi", "initialpunctuation"], ["po", "otherpunctuation"], ["ps", "openpunctuation"],
    ["sc", "currencysymbol"], ["sk", "modifiersymbol"], ["sm", "mathsymbol"],
    ["so", "othersymbol"], ["zl", "lineseparator"], ["zp", "paragraphseparator"],
    ["zs", "spaceseparator"]]

/-- The larger categories: their names and the short names of the categories they unite. -/
def categoryGroups : List (List String × List String) :=
  [
    (["c", "other"], ["cc", "cf", "cn", "co"]), (["l", "letter"], ["ll", "lm", "lo", "lt", "lu"]),
    (["m", "mark", "combiningmark"], ["mc", "me", "mn"]), (["n", "number"], ["nd", "nl", "no"]),
    (["p", "punctuation", "punct"], ["pc", "pd", "pe", "pf", "pi", "po", "ps"]),
    (["s", "symbol"], ["sc", "sk", "sm", "so"]), (["z", "separator"], ["zl", "zp", "zs"]),
    (["lc", "casedletter"], ["ll", "lt", "lu"])]

set_option maxRecDepth 20000 in
/-- Where the runs of one category begin. -/
def categoryRuns : List Nat :=
  [
    0, 1052, 1076, 1174, 1204, 1301, 1329, 1364, 1400, 1428, 1456, 1492, 1548, 1876, 1944, 2036,
    2088, 2933, 2964, 2993, 3031, 3055, 3095, 3108, 3957, 3992, 4017, 4056, 4064, 5148, 5172,
    5206, 5337, 5364, 5399, 5433, 5446, 5491, 5528, 5537, 5593, 5623, 5657, 5688, 5710, 5783,
    5796, 5844, 5911, 5934, 5958, 6002, 6030, 6132, 6152, 6904, 6920, 7140, 7928, 7940, 8200,
    8228, 8264, 8292, 8328, 8356, 8392, 8420, 8456, 8484, 8520, 8548, 8584, 8612, 8648, 8676,
    8712, 8740, 8776, 8804, 8840, 8868, 8904, 8932, 8968, 8996, 9032, 9060, 9096, 9124, 9160,
    9188, 9224, 9252, 9288, 9316, 9352, 9380, 9416, 9444, 9480, 9508, 9544, 9572, 9608, 9636,
    9672, 9700, 9736, 9764, 9800, 9828, 9864, 9892, 9928, 9956, 10024, 10052, 10088, 10116, 10152,
    10180, 10216, 10244, 10280, 10308, 10344, 10372, 10408, 10436, 10472, 10500, 10568, 10596,
    10632, 10660, 10696, 10724, 10760, 10788, 10824, 10852, 10888, 10916, 10952, 10980, 11016,
    11044, 11080, 11108, 11144, 11172, 11208, 11236, 11272, 11300, 11336, 11364, 11400, 11428,
    11464, 11492, 11528, 11556, 11592, 11620, 11656, 11684, 11720, 11748, 11784, 11812, 11848,
    11876, 11912, 11940, 11976, 12004, 12040, 12100, 12136, 12164, 12200, 12228, 12328, 12388,
    12424, 12452, 12488, 12548, 12584, 12676, 12744, 12868, 12904, 12964, 13000, 13092, 13192,
    13252, 13288, 13348, 13384, 13412, 13448, 13476, 13512, 13572, 13608, 13636, 13704, 13732,
    13768, 13828, 13864, 13956, 13992, 14020, 14056, 14116, 14182, 14216, 14244, 14342, 14472,
    14503, 14532, 14568, 14599, 14628, 14664, 14695, 14724, 14760, 14788, 14824, 14852, 14888,
    14916, 14952, 14980, 15016, 15044, 15080, 15108, 15144, 15172, 15208, 15236, 15304, 15332,
    15368, 15396, 15432, 15460, 15496, 15524, 15560, 15588, 15624, 15652, 15688, 15716, 15752,
    15780, 15816, 15844, 15912, 15943, 15972, 16008, 16036, 16072, 16164, 16200, 16228, 16264,
    16292, 16328, 16356, 16392, 16420, 16456, 16484, 16520, 16548, 16584, 16612, 16648, 16676,
    16712, 16740, 16776, 16804, 16840, 16868, 16904, 16932, 16968, 16996, 17032, 17060, 17096,
    17124, 17160, 17188, 17224, 17252, 17288, 17316, 17352, 17380, 17416, 17444, 17480, 17508,
    17544, 17572, 17608, 17636, 17672, 17700, 17736, 17764, 17800, 17828, 17864, 17892, 17928,
    17956, 17992, 18020, 18248, 18308, 18344, 18404, 18472, 18500, 18536, 18660, 18696, 18724,
    18760, 18788, 18824, 18852, 18888, 18916, 21126, 21156, 22021, 22615, 22725, 23127, 23557,
    23735, 23941, 23991, 24005, 24055, 24587, 28168, 28196, 28232, 28260, 28293, 28343, 28360,
    28388, 28418, 28485, 28516, 28628, 28648, 28674, 28823, 28872, 28916, 28936, 29026, 29064,
    29090, 29128, 29188, 29224, 29762, 29800, 30084, 31208, 31236, 31304, 31396, 31496, 31524,
    31560, 31588, 31624, 31652, 31688, 31716, 31752, 31780, 31816, 31844, 31880, 31908, 31944,
    31972, 32008, 32036, 32072, 32100, 32136, 32164, 32200, 32228, 32392, 32420, 32472, 32488,
    32516, 32552, 32612, 32680, 34308, 35848, 35876, 35912, 35940, 35976, 36004, 36040, 36068,
    36104, 36132, 36168, 36196, 36232, 36260, 36296, 36324, 36360, 36388, 36424, 36452, 36488,
    36516, 36552, 36580, 36616, 36644, 36680, 36708, 36744, 36772, 36808, 36836, 36872, 36900,
    36953, 36971, 37130, 37192, 37220, 37256, 37284, 37320, 37348, 37384, 37412, 37448, 37476,
    37512, 37540, 37576, 37604, 37640, 37668, 37704, 37732, 37768, 37796, 37832, 37860, 37896,
    37924, 37960, 37988, 38024, 38052, 38088, 38116, 38152, 38180, 38216, 38244, 38280, 38308,
    38344, 38372, 38408, 38436, 38472, 38500, 38536, 38564, 38600, 38628, 38664, 38692, 38728,
    38756, 38792, 38820, 38856, 38884, 38920, 38980, 39016, 39044, 39080, 39108, 39144, 39172,
    39208, 39236, 39272, 39300, 39336, 39364, 39432, 39460, 39496, 39524, 39560, 39588, 39624,
    39652, 39688, 39716, 39752, 39780, 39816, 39844, 39880, 39908, 39944, 39972, 40008, 40036,
    40072, 40100, 40136, 40164, 40200, 40228, 40264, 40292, 40328, 40356, 40392, 40420, 40456,
    40484, 40520, 40548, 40584, 40612, 40648, 40676, 40712, 40740, 40776, 40804, 40840, 40868,
    40904, 40932, 40968, 40996, 41032, 41060, 41096, 41124, 41160, 41188, 41224, 41252, 41288,
    41316, 41352, 41380, 41416, 41444, 41480, 41508, 41544, 41572, 41608, 41636, 41672, 41700,
    41736, 41764, 41800, 41828, 41864, 41892, 41928, 41956, 41992, 42020, 42056, 42084, 42120,
    42148, 42184, 42212, 42248, 42276, 42312, 42340, 42376, 42404, 42440, 42468, 42498, 42536,
    43746, 43813, 43860, 44036, 45364, 45392, 45410, 45497, 45558, 45570, 45611, 47056, 47083,
    47124, 47147, 47220, 47243, 47316, 47339, 47362, 47622, 48482, 48614, 48756, 48802, 49153,
    49368, 49460, 49526, 49556, 49625, 49675, 50036, 50049, 50100, 50182, 51205, 51238, 51563,
    52236, 52564, 52678, 52747, 52774, 55956, 55974, 56011, 56225, 56281, 56299, 56485, 56555,
    56633, 56651, 56774, 56844, 57158, 57273, 57318, 57364, 57794, 57825, 57862, 57899, 57926,
    58891, 59746, 59814, 62667, 63014, 63042, 63500, 63814, 64875, 65157, 65241, 65268, 65349,
    65378, 65451, 65494, 65542, 66251, 66373, 66411, 66693, 66731, 66821, 66859, 67010, 67092,
    67554, 67590, 68395, 68482, 68564, 68578, 68614, 68962, 69126, 69911, 69926, 70114, 70145,
    70210, 70379, 70662, 71973, 72011, 72769, 72811, 73833, 73862, 75595, 75625, 75659, 75686,
    75721, 75819, 76073, 76203, 76233, 76294, 76331, 76550, 76875, 76948, 77004, 77332, 77349,
    77382, 77867, 77897, 77954, 77990, 78242, 78310, 78370, 78438, 79138, 79174, 79394, 79430,
    79458, 79558, 79682, 79755, 79782, 79817, 79915, 80034, 80105, 80162, 80233, 80299, 80326,
    80354, 80617, 80642, 80774, 80834, 80870, 80971, 81026, 81100, 81414, 81494, 81550, 81753,
    81782, 81798, 81844, 81867, 81890, 81963, 82025, 82050, 82086, 82274, 82406, 82466, 82534,
    83234, 83270, 83490, 83526, 83586, 83622, 83682, 83718, 83778, 83851, 83874, 83913, 84011,
    84066, 84203, 84258, 84331, 84418, 84523, 84546, 84774, 84898, 84934, 84962, 85196, 85515,
    85574, 85675, 85716, 85730, 86059, 86121, 86146, 86182, 86466, 86502, 86594, 86630, 87330,
    87366, 87586, 87622, 87682, 87718, 87874, 87947, 87974, 88009, 88107, 88258, 88299, 88361,
    88386, 88425, 88491, 88514, 88582, 88610, 89094, 89163, 89218, 89292, 89620, 89654, 89666,
    89894, 89931, 90114, 90155, 90185, 90242, 90278, 90530, 90598, 90658, 90726, 91426, 91462,
    91682, 91718, 91778, 91814, 91970, 92043, 92070, 92105, 92139, 92169, 92203, 92322, 92393,
    92450, 92521, 92587, 92610, 92843, 92905, 92930, 93062, 93122, 93158, 93259, 93314, 93388,
    93721, 93734, 93774, 93954, 94283, 94310, 94338, 94374, 94562, 94662, 94754, 94790, 94914,
    95014, 95074, 95110, 95138, 95174, 95234, 95334, 95394, 95494, 95586, 95686, 96066, 96201,
    96267, 96297, 96354, 96457, 96546, 96585, 96683, 96706, 96774, 96802, 97001, 97026, 97484,
    97806, 97913, 98102, 98137, 98146, 98315, 98345, 98443, 98470, 98722, 98758, 98850, 98886,
    99618, 99654, 100162, 100235, 100262, 100299, 100393, 100514, 100555, 100642, 100683, 100802,
    101035, 101090, 101126, 101218, 101286, 101314, 101382, 101451, 101506, 101580, 101890,
    102132, 102158, 102393, 102406, 102443, 102473, 102548, 102566, 102818, 102854, 102946,
    102982, 103714, 103750, 104066, 104102, 104258, 104331, 104358, 104393, 104427, 104457,
    104610, 104651, 104681, 104738, 104777, 104843, 104898, 105129, 105186, 105382, 105442,
    105478, 105547, 105602, 105676, 105986, 106022, 106089, 106114, 106507, 106569, 106630,
    106914, 106950, 107042, 107078, 108395, 108454, 108489, 108587, 108706, 108745, 108834,
    108873, 108971, 108998, 109049, 109058, 109190, 109289, 109326, 109542, 109643, 109698,
    109772, 110094, 110393, 110406, 110594, 110635, 110665, 110722, 110758, 111330, 111430,
    112194, 112230, 112514, 112550, 112578, 112646, 112866, 112971, 112994, 113129, 113227,
    113314, 113355, 113378, 113417, 113666, 113868, 114178, 114249, 114324, 114338, 114726,
    116267, 116294, 116363, 116578, 116726, 116742, 116933, 116971, 117236, 117260, 117588,
    117634, 118822, 118882, 118918, 118946, 118982, 119138, 119174, 119938, 119974, 120002,
    120038, 120363, 120390, 120459, 120742, 120770, 120838, 120994, 121029, 121058, 121099,
    121314, 121356, 121666, 121734, 121858, 122886, 122937, 123028, 123513, 123540, 123577,
    123659, 123737, 123916, 124238, 124569, 124587, 124633, 124651, 124697, 124715, 124757,
    124785, 124821, 124849, 124873, 124934, 125186, 125222, 126370, 126507, 126953, 126987,
    127156, 127179, 127238, 127403, 127746, 127787, 128930, 128985, 129227, 129273, 129442,
    129497, 129556, 129721, 129844, 129890, 131078, 132457, 132523, 132649, 132683, 132873,
    132907, 132969, 133035, 133094, 133132, 133460, 133638, 133833, 133899, 133958, 134091,
    134182, 134217, 134310, 134377, 134598, 134699, 134822, 135243, 135273, 135339, 135401,
    135595, 135622, 135657, 135692, 136009, 136107, 136153, 136200, 137410, 137448, 137474,
    137640, 137666, 137732, 139124, 139141, 139172, 139270, 149794, 149830, 149954, 150022,
    150242, 150278, 150306, 150342, 150466, 150534, 151842, 151878, 152002, 152070, 153122,
    153158, 153282, 153350, 153570, 153606, 153634, 153670, 153794, 153862, 154338, 154374,
    156194, 156230, 156354, 156422, 158562, 158635, 158740, 159022, 159650, 159750, 160281,
    160578, 160776, 163522, 163588, 163778, 163856, 163878, 183737, 183764, 183782, 184348,
    184358, 185205, 185233, 185250, 185350, 187764, 187853, 187942, 188194, 188422, 189003,
    189097, 189122, 189414, 190027, 190089, 190132, 190178, 190470, 191051, 191106, 191494,
    191906, 191942, 192034, 192075, 192130, 192518, 194187, 194249, 194283, 194505, 194763,
    194793, 194859, 195220, 195301, 195348, 195446, 195462, 195499, 195522, 195596, 195906,
    196110, 196418, 196628, 196816, 196852, 196971, 197057, 197099, 197132, 197442, 197638,
    198757, 198790, 200482, 200710, 200875, 200934, 202027, 202054, 202082, 202246, 204482,
    204806, 205794, 205835, 205929, 206059, 206121, 206210, 206345, 206411, 206441, 206635,
    206722, 206873, 206882, 206996, 207052, 207366, 208322, 208390, 208546, 208902, 210306,
    210438, 211266, 211468, 211790, 211810, 211929, 212998, 213739, 213801, 213867, 213890,
    213972, 214022, 215721, 215755, 215785, 215819, 216034, 216075, 216105, 216139, 216169,
    216235, 216489, 216683, 216994, 217067, 217100, 217410, 217612, 217922, 218132, 218341,
    218388, 218562, 218635, 219082, 219115, 219618, 221195, 221321, 221350, 222859, 222889,
    222923, 223081, 223115, 223145, 223307, 223337, 223398, 223650, 223700, 223756, 224084,
    224313, 224619, 224921, 225204, 225291, 225353, 225382, 226345, 226379, 226505, 226571,
    226633, 226667, 226758, 226828, 227142, 228555, 228585, 228619, 228681, 228779, 228809,
    228843, 228937, 228994, 229268, 229382, 230537, 230795, 231049, 231115, 231170, 231284,
    231436, 231746, 231846, 231948, 232262, 233221, 233428, 233476, 233768, 233796, 233826,
    233992, 235362, 235432, 235540, 235778, 236043, 236148, 236171, 236585, 236619, 236838,
    236971, 236998, 237195, 237222, 237289, 237323, 237382, 237410, 237572, 238981, 240996,
    241413, 241444, 242533, 243723, 245768, 245796, 245832, 245860, 245896, 245924, 245960,
    245988, 246024, 246052, 246088, 246116, 246152, 246180, 246216, 246244, 246280, 246308,
    246344, 246372, 246408, 246436, 246472, 246500, 246536, 246564, 246600, 246628, 246664,
    246692, 246728, 246756, 246792, 246820, 246856, 246884, 246920, 246948, 246984, 247012,
    247048, 247076, 247112, 247140, 247176, 247204, 247240, 247268, 247304, 247332, 247368,
    247396, 247432, 247460, 247496, 247524, 247560, 247588, 247624, 247652, 247688, 247716,
    247752, 247780, 247816, 247844, 247880, 247908, 247944, 247972, 248008, 248036, 248072,
    248100, 248136, 248164, 248200, 248228, 248264, 248292, 248328, 248356, 248392, 248420,
    248456, 248484, 248520, 248548, 248584, 248612, 248648, 248676, 248712, 248740, 248776,
    248804, 248840, 248868, 248904, 248932, 248968, 248996, 249032, 249060, 249096, 249124,
    249160, 249188, 249224, 249252, 249288, 249316, 249352, 249380, 249416, 249444, 249480,
    249508, 249544, 249572, 249608, 249636, 249672, 249700, 249736, 249764, 249800, 249828,
    249864, 249892, 249928, 249956, 249992, 250020, 250056, 250084, 250120, 250148, 250184,
    250212, 250248, 250276, 250312, 250340, 250376, 250404, 250440, 250468, 250504, 250532,
    250824, 250852, 250888, 250916, 250952, 250980, 251016, 251044, 251080, 251108, 251144,
    251172, 251208, 251236, 251272, 251300, 251336, 251364, 251400, 251428, 251464, 251492,
    251528, 251556, 251592, 251620, 251656, 251684, 251720, 251748, 251784, 251812, 251848,
    251876, 251912, 251940, 251976, 252004, 252040, 252068, 252104, 252132, 252168, 252196,
    252232, 252260, 252296, 252324, 252360, 252388, 252424, 252452, 252488, 252516, 252552,
    252580, 252616, 252644, 252680, 252708, 252744, 252772, 252808, 252836, 252872, 252900,
    252936, 252964, 253000, 253028, 253064, 253092, 253128, 253156, 253192, 253220, 253256,
    253284, 253320, 253348, 253384, 253412, 253448, 253476, 253512, 253540, 253576, 253604,
    253640, 253668, 253704, 253732, 253768, 253796, 253832, 253860, 253896, 253924, 254216,
    254468, 254658, 254728, 254914, 254980, 255240, 255492, 255752, 256004, 256194, 256264,
    256450, 256516, 256770, 256808, 256834, 256872, 256898, 256936, 256962, 257000, 257028,
    257288, 257540, 257986, 258052, 258311, 258564, 258823, 259076, 259335, 259588, 259746,
    259780, 259848, 259975, 260023, 260036, 260087, 260164, 260258, 260292, 260360, 260487,
    260535, 260612, 260738, 260804, 260872, 260994, 261047, 261124, 261384, 261559, 261634,
    261700, 261794, 261828, 261896, 262023, 262071, 262114, 262172, 262497, 262672, 262868,
    262931, 262962, 262997, 263027, 263090, 263125, 263155, 263188, 263450, 263483, 263489,
    263676, 263700, 263987, 264018, 264052, 264175, 264244, 264344, 264373, 264401, 264436,
    264792, 264820, 264847, 264884, 265212, 265217, 265378, 265409, 265742, 265765, 265794,
    265870, 266072, 266165, 266193, 266213, 266254, 266584, 266677, 266705, 266722, 266757,
    267170, 267286, 268322, 268811, 269226, 269355, 269386, 269483, 269858, 270361, 270408,
    270457, 270568, 270617, 270660, 270696, 270788, 270856, 270948, 271001, 271016, 271065,
    271128, 271144, 271321, 271496, 271545, 271560, 271609, 271624, 271673, 271688, 271833,
    271844, 271880, 272004, 272038, 272164, 272217, 272260, 272328, 272408, 272552, 272580,
    272729, 272760, 272793, 272836, 272889, 272910, 273421, 274536, 274564, 274605, 274734,
    274777, 274818, 274968, 275129, 275288, 275353, 275480, 275513, 275576, 275609, 275672,
    275705, 275928, 275961, 276952, 277017, 277080, 277113, 277144, 277177, 278168, 286745,
    286997, 287025, 287061, 287089, 287129, 287768, 287833, 288053, 288081, 288121, 290712,
    290745, 291704, 292505, 293784, 293977, 296258, 296985, 297314, 297998, 299929, 302414,
    303129, 308984, 309017, 309304, 309337, 311064, 311321, 314872, 314905, 322837, 322865,
    322901, 322929, 322965, 322993, 323029, 323057, 323093, 323121, 323157, 323185, 323221,
    323249, 323278, 324249, 325656, 325813, 325841, 325880, 326869, 326897, 326933, 326961,
    326997, 327025, 327061, 327089, 327125, 327153, 327192, 327705, 335896, 340085, 340113,
    340149, 340177, 340213, 340241, 340277, 340305, 340341, 340369, 340405, 340433, 340469,
    340497, 340533, 340561, 340597, 340625, 340661, 340689, 340725, 340753, 340792, 342805,
    342833, 342869, 342897, 342936, 343957, 343985, 344024, 352281, 353816, 354489, 354552,
    354745, 355970, 356057, 357058, 357113, 360456, 361988, 363528, 363556, 363592, 363684,
    363752, 363780, 363816, 363844, 363880, 363908, 363944, 364068, 364104, 364132, 364200,
    364228, 364421, 364488, 364580, 364616, 364644, 364680, 364708, 364744, 364772, 364808,
    364836, 364872, 364900, 364936, 364964, 365000, 365028, 365064, 365092, 365128, 365156,
    365192, 365220, 365256, 365284, 365320, 365348, 365384, 365412, 365448, 365476, 365512,
    365540, 365576, 365604, 365640, 365668, 365704, 365732, 365768, 365796, 365832, 365860,
    365896, 365924, 365960, 365988, 366024, 366052, 366088, 366116, 366152, 366180, 366216,
    366244, 366280, 366308, 366344, 366372, 366408, 366436, 366472, 366500, 366536, 366564,
    366600, 366628, 366664, 366692, 366728, 366756, 366792, 366820, 366856, 366884, 366920,
    366948, 366984, 367012, 367048, 367076, 367112, 367140, 367176, 367204, 367240, 367268,
    367304, 367332, 367368, 367396, 367432, 367460, 367496, 367524, 367560, 367588, 367624,
    367652, 367688, 367716, 367801, 367976, 368004, 368040, 368068, 368107, 368200, 368228,
    368258, 368436, 368558, 368596, 368644, 369858, 369892, 369922, 370084, 370114, 370182,
    371970, 372197, 372244, 372258, 372715, 372742, 373474, 373766, 373986, 374022, 374242,
    374278, 374498, 374534, 374754, 374790, 375010, 375046, 375266, 375302, 375522, 375558,
    375778, 375819, 376852, 376915, 376946, 376979, 377010, 377044, 377139, 377170, 377204,
    377235, 377266, 377300, 377584, 377620, 377680, 377716, 377747, 377778, 377812, 377875,
    377906, 377941, 377969, 378005, 378033, 378069, 378097, 378133, 378161, 378196, 378341,
    378388, 378704, 378772, 378896, 378932, 378965, 378996, 379417, 379476, 379573, 379601,
    379637, 379665, 379701, 379729, 379765, 379793, 379824, 379842, 380953, 381762, 381817,
    384642, 385049, 391874, 392729, 393244, 393268, 393369, 393381, 393414, 393453, 393493,
    393521, 393557, 393585, 393621, 393649, 393685, 393713, 393749, 393777, 393817, 393877,
    393905, 393941, 393969, 394005, 394033, 394069, 394097, 394128, 394165, 394193, 394265,
    394285, 394571, 394697, 394768, 394789, 394969, 395021, 395109, 395142, 395188, 395225,
    395266, 395302, 398050, 398123, 398199, 398245, 398310, 398352, 398374, 401268, 401285,
    401382, 401410, 401574, 402946, 402982, 405986, 406041, 406094, 406233, 406534, 407577,
    408770, 409081, 409094, 409625, 410594, 410638, 410969, 411918, 412185, 412206, 412697,
    413710, 414041, 415278, 415769, 425990, 636953, 638982, 1311397, 1311430, 1348002, 1348121,
    1349858, 1350150, 1351429, 1351636, 1351686, 1360261, 1360308, 1360390, 1360908, 1361222,
    1361282, 1361928, 1361956, 1361992, 1362020, 1362056, 1362084, 1362120, 1362148, 1362184,
    1362212, 1362248, 1362276, 1362312, 1362340, 1362376, 1362404, 1362440, 1362468, 1362504,
    1362532, 1362568, 1362596, 1362632, 1362660, 1362696, 1362724, 1362760, 1362788, 1362824,
    1362852, 1362888, 1362916, 1362952, 1362980, 1363016, 1363044, 1363080, 1363108, 1363144,
    1363172, 1363208, 1363236, 1363272, 1363300, 1363336, 1363364, 1363398, 1363435, 1363466,
    1363572, 1363595, 1363924, 1363941, 1363976, 1364004, 1364040, 1364068, 1364104, 1364132,
    1364168, 1364196, 1364232, 1364260, 1364296, 1364324, 1364360, 1364388, 1364424, 1364452,
    1364488, 1364516, 1364552, 1364580, 1364616, 1364644, 1364680, 1364708, 1364744, 1364772,
    1364808, 1364836, 1364869, 1364939, 1364998, 1367245, 1367563, 1367636, 1367810, 1368087,
    1368805, 1369111, 1369160, 1369188, 1369224, 1369252, 1369288, 1369316, 1369352, 1369380,
    1369416, 1369444, 1369480, 1369508, 1369544, 1369572, 1369672, 1369700, 1369736, 1369764,
    1369800, 1369828, 1369864, 1369892, 1369928, 1369956, 1369992, 1370020, 1370056, 1370084,
    1370120, 1370148, 1370184, 1370212, 1370248, 1370276, 1370312, 1370340, 1370376, 1370404,
    1370440, 1370468, 1370504, 1370532, 1370568, 1370596, 1370632, 1370660, 1370696, 1370724,
    1370760, 1370788, 1370824, 1370852, 1370888, 1370916, 1370952, 1370980, 1371016, 1371044,
    1371080, 1371108, 1371144, 1371172, 1371208, 1371236, 1371272, 1371300, 1371336, 1371364,
    1371400, 1371428, 1371464, 1371492, 1371528, 1371556, 1371592, 1371620, 1371653, 1371684,
    1371944, 1371972, 1372008, 1372036, 1372072, 1372132, 1372168, 1372196, 1372232, 1372260,
    1372296, 1372324, 1372360, 1372388, 1372421, 1372471, 1372520, 1372548, 1372584, 1372612,
    1372646, 1372680, 1372708, 1372744, 1372772, 1372872, 1372900, 1372936, 1372964, 1373000,
    1373028, 1373064, 1373092, 1373128, 1373156, 1373192, 1373220, 1373256, 1373284, 1373320,
    1373348, 1373384, 1373412, 1373448, 1373476, 1373512, 1373668, 1373704, 1373860, 1373896,
    1373924, 1373960, 1373988, 1374024, 1374052, 1374088, 1374116, 1374152, 1374180, 1374216,
    1374244, 1374280, 1374308, 1374344, 1374468, 1374504, 1374532, 1374568, 1374628, 1374658,
    1374728, 1374756, 1374786, 1374820, 1374850, 1374884, 1374920, 1374948, 1374984, 1375012,
    1375048, 1375076, 1375112, 1375138, 1375813, 1375912, 1375940, 1375974, 1376005, 1376068,
    1376102, 1376331, 1376358, 1376459, 1376486, 1376619, 1376646, 1377385, 1377451, 1377513,
    1377561, 1377675, 1377698, 1377806, 1378009, 1378070, 1378105, 1378114, 1378310, 1379988,
    1380098, 1380361, 1380422, 1382025, 1382539, 1382594, 1382868, 1382924, 1383234, 1383435,
    1384006, 1384212, 1384294, 1384340, 1384358, 1384427, 1384460, 1384774, 1385675, 1385940,
    1385990, 1386731, 1387081, 1387138, 1387508, 1387526, 1388450, 1388555, 1388649, 1388678,
    1390187, 1390217, 1390283, 1390409, 1390475, 1390537, 1390644, 1391042, 1391077, 1391116,
    1391426, 1391572, 1391622, 1391787, 1391813, 1391846, 1392140, 1392454, 1392610, 1392646,
    1393963, 1394153, 1394219, 1394281, 1394347, 1394402, 1394694, 1394795, 1394822, 1395083,
    1395113, 1395138, 1395212, 1395522, 1395604, 1395718, 1396229, 1396262, 1396473, 1396550,
    1396585, 1396619, 1396649, 1396678, 1398283, 1398310, 1398347, 1398438, 1398507, 1398566,
    1398731, 1398790, 1398827, 1398854, 1398882, 1399654, 1399717, 1399764, 1399814, 1400169,
    1400203, 1400265, 1400340, 1400390, 1400421, 1400489, 1400523, 1400546, 1400870, 1401058,
    1401126, 1401314, 1401382, 1401570, 1401862, 1402082, 1402118, 1402338, 1402372, 1403767,
    1403781, 1403908, 1404197, 1404247, 1404290, 1404420, 1406982, 1408105, 1408171, 1408201,
    1408267, 1408297, 1408372, 1408393, 1408427, 1408450, 1408524, 1408834, 1409030, 1766530,
    1766918, 1767650, 1767782, 1769346, 1835011, 2039814, 2051522, 2051590, 2054978, 2056196,
    2056418, 2056804, 2056962, 2057126, 2057163, 2057190, 2057528, 2057542, 2057954, 2057990,
    2058146, 2058182, 2058210, 2058246, 2058306, 2058342, 2058402, 2058438, 2061911, 2062434,
    2062950, 2074577, 2074613, 2074649, 2075142, 2077186, 2077254, 2078978, 2079225, 2079234,
    2080262, 2080662, 2080697, 2080779, 2081300, 2081525, 2081553, 2081588, 2081602, 2081803,
    2082324, 2082352, 2082415, 2082485, 2082513, 2082549, 2082577, 2082613, 2082641, 2082677,
    2082705, 2082741, 2082769, 2082805, 2082833, 2082869, 2082897, 2082933, 2082961, 2082996,
    2083061, 2083089, 2083124, 2083247, 2083348, 2083426, 2083476, 2083600, 2083637, 2083665,
    2083701, 2083729, 2083765, 2083793, 2083828, 2083928, 2083952, 2083992, 2084066, 2084116,
    2084150, 2084180, 2084226, 2084358, 2084514, 2084550, 2088866, 2088929, 2088962, 2089012,
    2089110, 2089140, 2089237, 2089265, 2089300, 2089336, 2089364, 2089392, 2089428, 2089484,
    2089812, 2089880, 2089972, 2090024, 2090869, 2090900, 2090929, 2090967, 2090991, 2091031,
    2091044, 2091893, 2091928, 2091953, 2091992, 2092021, 2092049, 2092084, 2092117, 2092145,
    2092180, 2092230, 2092549, 2092582, 2094021, 2094086, 2095074, 2095174, 2095362, 2095430,
    2095618, 2095686, 2095874, 2095942, 2096034, 2096150, 2096216, 2096247, 2096281, 2096310,
    2096354, 2096409, 2096440, 2096569, 2096610, 2096929, 2097049, 2097090, 2097158, 2097538,
    2097574, 2098402, 2098438, 2099042, 2099078, 2099138, 2099174, 2099650, 2099718, 2100162,
    2101254, 2105186, 2105364, 2105442, 2105582, 2107010, 2107129, 2107405, 2109102, 2109241,
    2109774, 2109849, 2109922, 2109977, 2110370, 2110489, 2110498, 2112025, 2113451, 2113474,
    2117638, 2118562, 2118662, 2120226, 2120715, 2120750, 2121602, 2121734, 2122766, 2122882,
    2123174, 2123821, 2123846, 2124109, 2124130, 2124294, 2125515, 2125666, 2125830, 2126786,
    2126836, 2126854, 2128002, 2128134, 2128404, 2128429, 2128578, 2129928, 2131204, 2132486,
    2134978, 2135052, 2135362, 2135560, 2136706, 2136836, 2137986, 2138118, 2139394, 2139654,
    2141314, 2141684, 2141704, 2142050, 2142088, 2142562, 2142600, 2142818, 2142856, 2142914,
    2142948, 2143298, 2143332, 2143810, 2143844, 2144066, 2144100, 2144162, 2144262, 2145922,
    2146310, 2156258, 2156550, 2157250, 2157574, 2157826, 2158597, 2158786, 2158821, 2160162,
    2160197, 2160482, 2162694, 2162882, 2162950, 2162978, 2163014, 2164418, 2164454, 2164514,
    2164614, 2164642, 2164710, 2165442, 2165492, 2165518, 2165766, 2166521, 2166574, 2166790,
    2167778, 2168046, 2168322, 2169862, 2170466, 2170502, 2170562, 2170734, 2170886, 2171598,
    2171778, 2171892, 2171910, 2172738, 2172916, 2172930, 2174982, 2176770, 2176910, 2176966,
    2177038, 2177538, 2177614, 2179078, 2179115, 2179202, 2179243, 2179298, 2179467, 2179590,
    2179714, 2179750, 2179842, 2179878, 2180802, 2180875, 2180962, 2181099, 2181134, 2181410,
    2181652, 2181922, 2182150, 2183086, 2183156, 2183174, 2184110, 2184194, 2185222, 2185497,
    2185510, 2186411, 2186466, 2186606, 2186772, 2186978, 2187270, 2188994, 2189108, 2189318,
    2190018, 2190094, 2190342, 2190946, 2191118, 2191366, 2191938, 2192180, 2192290, 2192686,
    2192898, 2195462, 2197794, 2199560, 2201186, 2201604, 2203234, 2203470, 2203654, 2204811,
    2204930, 2205196, 2205506, 2205708, 2206022, 2206149, 2206182, 2206216, 2206914, 2207019,
    2207184, 2207205, 2207236, 2207938, 2208216, 2208258, 2214926, 2215906, 2215942, 2217282,
    2217323, 2217392, 2217410, 2217478, 2217538, 2218054, 2218146, 2219915, 2220038, 2220974,
    2221286, 2221314, 2221574, 2222283, 2222638, 2222772, 2222914, 2223622, 2224203, 2224340,
    2224450, 2225670, 2226350, 2226562, 2227206, 2227938, 2228233, 2228267, 2228297, 2228326,
    2230027, 2230516, 2230722, 2230862, 2231500, 2231819, 2231846, 2231915, 2231974, 2232002,
    2232299, 2232393, 2232422, 2233865, 2233963, 2234089, 2234155, 2234228, 2234273, 2234324,
    2234443, 2234466, 2234785, 2234818, 2234886, 2235682, 2235916, 2236226, 2236427, 2236518,
    2237675, 2237833, 2237867, 2238114, 2238156, 2238484, 2238598, 2238633, 2238694, 2238722,
    2238982, 2240107, 2240148, 2240198, 2240226, 2240523, 2240585, 2240614, 2242153, 2242251,
    2242537, 2242598, 2242740, 2242859, 2242996, 2243017, 2243051, 2243084, 2243398, 2243444,
    2243462, 2243508, 2243586, 2243630, 2244258, 2244614, 2245186, 2245222, 2246025, 2246123,
    2246217, 2246283, 2246313, 2246347, 2246420, 2246603, 2246630, 2246699, 2246722, 2248710,
    2248930, 2248966, 2248994, 2249030, 2249154, 2249190, 2249666, 2249702, 2250036, 2250050,
    2250246, 2251755, 2251785, 2251883, 2252130, 2252300, 2252610, 2252811, 2252873, 2252930,
    2252966, 2253218, 2253286, 2253346, 2253414, 2254114, 2254150, 2254370, 2254406, 2254466,
    2254502, 2254658, 2254699, 2254758, 2254793, 2254859, 2254889, 2255010, 2255081, 2255138,
    2255209, 2255298, 2255366, 2255394, 2255593, 2255618, 2255782, 2255945, 2256002, 2256075,
    2256290, 2256395, 2256546, 2256902, 2257218, 2257254, 2257282, 2257350, 2257378, 2257414,
    2258626, 2258662, 2258697, 2258795, 2258978, 2259017, 2259042, 2259113, 2259138, 2259177,
    2259298, 2259337, 2259403, 2259433, 2259467, 2259494, 2259531, 2259558, 2259604, 2259650,
    2259700, 2259746, 2260011, 2260066, 2260998, 2262697, 2262795, 2263049, 2263115, 2263209,
    2263243, 2263270, 2263412, 2263564, 2263892, 2263938, 2263988, 2264011, 2264038, 2264130,
    2265094, 2266633, 2266731, 2266921, 2266955, 2266985, 2267115, 2267177, 2267211, 2267270,
    2267348, 2267366, 2267394, 2267660, 2267970, 2273286, 2274793, 2274891, 2275010, 2275081,
    2275211, 2275273, 2275307, 2275380, 2276102, 2276235, 2276290, 2277382, 2278921, 2279019,
    2279273, 2279339, 2279369, 2279403, 2279476, 2279558, 2279586, 2279948, 2280258, 2280468,
    2280866, 2281478, 2282859, 2282889, 2282923, 2282953, 2283019, 2283209, 2283243, 2283270,
    2283316, 2283330, 2283532, 2283842, 2284044, 2284674, 2285574, 2286434, 2286507, 2286537,
    2286571, 2286601, 2286667, 2286793, 2286827, 2286978, 2287116, 2287438, 2287508, 2287609,
    2287622, 2287842, 2293766, 2295177, 2295275, 2295561, 2295595, 2295668, 2295682, 2298888,
    2299908, 2300940, 2301262, 2301538, 2301926, 2302178, 2302246, 2302274, 2302342, 2302594,
    2302630, 2302690, 2302726, 2303497, 2303682, 2303721, 2303778, 2303851, 2303913, 2303947,
    2303974, 2304009, 2304038, 2304073, 2304107, 2304148, 2304226, 2304524, 2304834, 2307078,
    2307330, 2307398, 2308649, 2308747, 2308866, 2308939, 2309001, 2309131, 2309158, 2309204,
    2309222, 2309257, 2309282, 2310150, 2310187, 2310502, 2311787, 2311977, 2312006, 2312043,
    2312180, 2312427, 2312450, 2312710, 2312747, 2312937, 2313003, 2313094, 2314571, 2314985,
    2315019, 2315092, 2315174, 2315220, 2315362, 2315782, 2318114, 2318356, 2318658, 2324486,
    2325556, 2325570, 2326028, 2326338, 2326534, 2326818, 2326854, 2328041, 2328075, 2328290,
    2328331, 2328521, 2328555, 2328582, 2328628, 2328770, 2329100, 2329422, 2330018, 2330132,
    2330182, 2331138, 2331211, 2331906, 2331945, 2331979, 2332201, 2332235, 2332297, 2332331,
    2332386, 2334726, 2334946, 2334982, 2335042, 2335078, 2336299, 2336482, 2336587, 2336610,
    2336651, 2336706, 2336747, 2336966, 2337003, 2337026, 2337292, 2337602, 2337798, 2337986,
    2338022, 2338082, 2338118, 2339145, 2339298, 2339339, 2339394, 2339433, 2339499, 2339529,
    2339563, 2339590, 2339618, 2339852, 2340162, 2350086, 2350699, 2350761, 2350836, 2350882,
    2351115, 2351174, 2351209, 2351238, 2351650, 2351686, 2352777, 2352843, 2352994, 2353097,
    2353163, 2353193, 2353227, 2353268, 2353676, 2353995, 2354018, 2356742, 2356770, 2357262,
    2357945, 2358198, 2358329, 2358850, 2359284, 2359302, 2388802, 2392077, 2395618, 2395668,
    2395810, 2396166, 2402434, 2486790, 2489908, 2489954, 2490374, 2524673, 2525195, 2525222,
    2525419, 2525890, 2526214, 2654050, 2654214, 2672866, 2891782, 2892747, 2893129, 2893227,
    2893324, 2893634, 2949126, 2967330, 2967558, 2968546, 2968588, 2968898, 2969044, 2969094,
    2971618, 2971660, 2971970, 2972166, 2973122, 2973195, 2973364, 2973378, 2973702, 2975243,
    2975476, 2975641, 2975749, 2975892, 2975929, 2975938, 2976268, 2976578, 2976622, 2976834,
    2976870, 2977538, 2977702, 2978306, 2992133, 2992230, 2993509, 2993588, 2993676, 2993986,
    3000328, 3001348, 3002382, 3003124, 3003234, 3006470, 3008866, 3009003, 3009030, 3009065,
    3010818, 3011051, 3011173, 3011586, 3013637, 3013716, 3013733, 3013771, 3013794, 3014153,
    3014210, 3014662, 3211010, 3211270, 3250882, 3252198, 3252514, 3538437, 3538562, 3538597,
    3538818, 3538853, 3538914, 3538950, 3548258, 3548742, 3548770, 3549702, 3549794, 3549862,
    3549890, 3550342, 3550466, 3550726, 3563394, 3637254, 3640674, 3640838, 3641250, 3641350,
    3641634, 3641862, 3642178, 3642265, 3642283, 3642356, 3642369, 3642498, 3768345, 3776012,
    3776322, 3776537, 3790466, 3792907, 3794370, 3794443, 3795170, 3795481, 3799170, 3801113,
    3808962, 3809305, 3810530, 3810617, 3812521, 3812587, 3812697, 3812777, 3812961, 3813227,
    3813497, 3813547, 3813785, 3814731, 3814873, 3816802, 3817497, 3819595, 3819705, 3819714,
    3823630, 3824258, 3824654, 3825282, 3825689, 3828450, 3828750, 3829538, 3833864, 3834692,
    3835528, 3836356, 3836578, 3836612, 3837192, 3838020, 3838856, 3838882, 3838920, 3838978,
    3839048, 3839074, 3839144, 3839202, 3839272, 3839394, 3839432, 3839684, 3839810, 3839844,
    3839874, 3839908, 3840130, 3840164, 3840520, 3841348, 3842184, 3842242, 3842280, 3842402,
    3842472, 3842722, 3842760, 3842978, 3843012, 3843848, 3843906, 3843944, 3844066, 3844104,
    3844258, 3844296, 3844322, 3844424, 3844642, 3844676, 3845512, 3846340, 3847176, 3848004,
    3848840, 3849668, 3850504, 3851332, 3852168, 3852996, 3853832, 3854660, 3855554, 3855624,
    3856440, 3856452, 3857272, 3857284, 3857480, 3858296, 3858308, 3859128, 3859140, 3859336,
    3860152, 3860164, 3860984, 3860996, 3861192, 3862008, 3862020, 3862840, 3862852, 3863048,
    3863864, 3863876, 3864696, 3864708, 3864904, 3864932, 3864962, 3865036, 3866649, 3883019,
    3884793, 3884907, 3886521, 3886763, 3886809, 3887243, 3887289, 3887348, 3887490, 3887979,
    3888130, 3888171, 3888642, 3923972, 3924294, 3924324, 3924962, 3925156, 3925346, 3932171,
    3932386, 3932427, 3932962, 3933035, 3933250, 3933291, 3933346, 3933387, 3933538, 3933701,
    3935682, 3936747, 3936770, 3940358, 3941794, 3941899, 3942117, 3942338, 3942412, 3942722,
    3942854, 3942905, 3942914, 3953158, 3954123, 3954146, 3954694, 3956107, 3956236, 3956546,
    3956726, 3956738, 3971590, 3972453, 3972491, 3972620, 3972930, 3979782, 3980747, 3980806,
    3980844, 3981154, 3981300, 3981314, 3996678, 3996898, 3996934, 3997058, 3997094, 3997154,
    3997190, 3997666, 3997702, 4004002, 4004078, 4004363, 4004578, 4005896, 4006980, 4008075,
    4008293, 4008322, 4008460, 4008770, 4008916, 4008962, 4034094, 4035993, 4036014, 4036118,
    4036142, 4036258, 4038702, 4040153, 4040174, 4040642, 4046854, 4046978, 4047014, 4047874,
    4047910, 4047970, 4048006, 4048034, 4048102, 4048130, 4048166, 4048482, 4048518, 4048642,
    4048678, 4048706, 4048742, 4048770, 4048966, 4048994, 4049126, 4049154, 4049190, 4049218,
    4049254, 4049282, 4049318, 4049410, 4049446, 4049506, 4049542, 4049570, 4049638, 4049666,
    4049702, 4049730, 4049766, 4049794, 4049830, 4049858, 4049894, 4049922, 4049958, 4050018,
    4050054, 4050082, 4050150, 4050274, 4050310, 4050530, 4050566, 4050690, 4050726, 4050850,
    4050886, 4050914, 4050950, 4051266, 4051302, 4051842, 4052006, 4052098, 4052134, 4052290,
    4052326, 4052866, 4054552, 4054594, 4063257, 4064642, 4064793, 4067970, 4068377, 4068834,
    4068921, 4069378, 4069433, 4069890, 4069945, 4071106, 4071438, 4071865, 4076994, 4078809,
    4079714, 4080153, 4081538, 4081689, 4081954, 4082201, 4082242, 4082713, 4082882, 4087833,
    4095863, 4096025, 4119298, 4119449, 4119970, 4120089, 4120482, 4120601, 4124386, 4124537,
    4127554, 4127769, 4128130, 4128281, 4128290, 4128793, 4129154, 4129305, 4131074, 4131353,
    4131650, 4131865, 4133122, 4133401, 4134338, 4134425, 4134786, 4134937, 4134978, 4136985,
    4147842, 4148249, 4148674, 4148761, 4149154, 4149273, 4149570, 4149753, 4151522, 4151769,
    4152226, 4152313, 4152642, 4152857, 4153122, 4153369, 4158050, 4158105, 4161036, 4161346,
    4194310, 5561346, 5562374, 5695298, 5695494, 5702594, 5702662, 5887042, 5887494, 6126626,
    6127110, 6147010, 6225926, 6243266, 6291462, 6449506, 6449670, 6583810, 29360161, 29360194,
    29361153, 29364226, 29368331, 29376002, 31457283, 33554370, 33554435, 35651522]

end Conformance.Pattern
