/-!
The scripts of characters in version 16 of the Unicode standard, as a table of runs. Each number
stands for the start of a run of characters of one script: the first character times 256, plus the
place of the script in `scriptNames`; characters without a script have the last place, 255. A
second table holds the characters that a script uses beyond its own.
-/

namespace Conformance.Pattern

/-- The names of the scripts, in lower case and without marks. -/
def scriptNames : List (List String) :=
  [
    ["adlm", "adlam"], ["aghb", "caucasianalbanian"], ["ahom"], ["arab", "arabic"],
    ["armi", "imperialaramaic"], ["armn", "armenian"], ["avst", "avestan"], ["bali", "balinese"],
    ["bamu", "bamum"], ["bass", "bassavah"], ["batk", "batak"], ["beng", "bengali"],
    ["bhks", "bhaiksuki"], ["bopo", "bopomofo"], ["brah", "brahmi"], ["brai", "braille"],
    ["bugi", "buginese"], ["buhd", "buhid"], ["cakm", "chakma"], ["cans", "canadianaboriginal"],
    ["cari", "carian"], ["cham"], ["cher", "cherokee"], ["chrs", "chorasmian"],
    ["copt", "coptic", "qaac"], ["cpmn", "cyprominoan"], ["cprt", "cypriot"],
    ["cyrl", "cyrillic"], ["deva", "devanagari"], ["diak", "divesakuru"], ["dogr", "dogra"],
    ["dsrt", "deseret"], ["dupl", "duployan"], ["egyp", "egyptianhieroglyphs"],
    ["elba", "elbasan"], ["elym", "elymaic"], ["ethi", "ethiopic"], ["geor", "georgian"],
    ["glag", "glagolitic"], ["gong", "gunjalagondi"], ["gonm", "masaramgondi"],
    ["goth", "gothic"], ["gran", "grantha"], ["grek", "greek"], ["gujr", "gujarati"],
    ["guru", "gurmukhi"], ["hang", "hangul"], ["hani", "han"], ["hano", "hanunoo"],
    ["hatr", "hatran"], ["hebr", "hebrew"], ["hira", "hiragana"],
    ["hluw", "anatolianhieroglyphs"], ["hmng", "pahawhhmong"], ["hmnp", "nyiakengpuachuehmong"],
    ["hung", "oldhungarian"], ["ital", "olditalic"], ["java", "javanese"], ["kali", "kayahli"],
    ["kana", "katakana"], ["kawi"], ["khar", "kharoshthi"], ["khmr", "khmer"], ["khoj", "khojki"],
    ["kits", "khitansmallscript"], ["knda", "kannada"], ["kthi", "kaithi"], ["lana", "taitham"],
    ["laoo", "lao"], ["latn", "latin"], ["lepc", "lepcha"], ["limb", "limbu"],
    ["lina", "lineara"], ["linb", "linearb"], ["lisu"], ["lyci", "lycian"], ["lydi", "lydian"],
    ["mahj", "mahajani"], ["maka", "makasar"], ["mand", "mandaic"], ["mani", "manichaean"],
    ["marc", "marchen"], ["medf", "medefaidrin"], ["mend", "mendekikakui"],
    ["merc", "meroiticcursive"], ["mero", "meroitichieroglyphs"], ["mlym", "malayalam"], ["modi"],
    ["mong", "mongolian"], ["mroo", "mro"], ["mtei", "meeteimayek"], ["mult", "multani"],
    ["mymr", "myanmar"], ["nagm", "nagmundari"], ["nand", "nandinagari"],
    ["narb", "oldnortharabian"], ["nbat", "nabataean"], ["newa"], ["nkoo", "nko"],
    ["nshu", "nushu"], ["ogam", "ogham"], ["olck", "olchiki"], ["orkh", "oldturkic"],
    ["orya", "oriya"], ["osge", "osage"], ["osma", "osmanya"], ["ougr", "olduyghur"],
    ["palm", "palmyrene"], ["pauc", "paucinhau"], ["perm", "oldpermic"], ["phag", "phagspa"],
    ["phli", "inscriptionalpahlavi"], ["phlp", "psalterpahlavi"], ["phnx", "phoenician"],
    ["plrd", "miao"], ["prti", "inscriptionalparthian"], ["rjng", "rejang"],
    ["rohg", "hanifirohingya"], ["runr", "runic"], ["samr", "samaritan"],
    ["sarb", "oldsoutharabian"], ["saur", "saurashtra"], ["sgnw", "signwriting"],
    ["shaw", "shavian"], ["shrd", "sharada"], ["sidd", "siddham"], ["sind", "khudawadi"],
    ["sinh", "sinhala"], ["sogd", "sogdian"], ["sogo", "oldsogdian"], ["sora", "sorasompeng"],
    ["soyo", "soyombo"], ["sund", "sundanese"], ["sylo", "sylotinagri"], ["syrc", "syriac"],
    ["tagb", "tagbanwa"], ["takr", "takri"], ["tale", "taile"], ["talu", "newtailue"],
    ["taml", "tamil"], ["tang", "tangut"], ["tavt", "taiviet"], ["telu", "telugu"],
    ["tfng", "tifinagh"], ["tglg", "tagalog"], ["thaa", "thaana"], ["thai"], ["tibt", "tibetan"],
    ["tirh", "tirhuta"], ["tnsa", "tangsa"], ["toto"], ["ugar", "ugaritic"], ["vaii", "vai"],
    ["vith", "vithkuqi"], ["wara", "warangciti"], ["wcho", "wancho"], ["xpeo", "oldpersian"],
    ["xsux", "cuneiform"], ["yezi", "yezidi"], ["yiii", "yi"], ["zanb", "zanabazarsquare"],
    ["zinh", "inherited", "qaai"], ["zyyy", "common"], ["gara", "garay"], ["gukh", "gurungkhema"],
    ["krai", "kiratrai"], ["onao", "olonal"], ["sunu", "sunuwar"], ["todr", "todhri"],
    ["tutg", "tulutigalari"]]

set_option maxRecDepth 20000 in
/-- Where the runs of one script begin. -/
def scriptRuns : List Nat :=
  [
    162, 16709, 23458, 24901, 31650, 43589, 43938, 47685, 48034, 49221, 55202, 55365, 63394,
    63557, 178594, 188485, 189858, 190989, 191650, 196769, 225323, 226466, 226603, 227583, 227883,
    229026, 229163, 229631, 230443, 230818, 230955, 231330, 231467, 232447, 232491, 232959,
    233003, 238335, 238379, 254488, 258091, 262171, 296353, 296731, 340223, 340229, 350207,
    350469, 363519, 363781, 364799, 364850, 379135, 380978, 388095, 388914, 390655, 393219,
    394658, 394755, 396450, 396547, 400290, 400387, 401314, 401411, 409762, 409859, 412577,
    415235, 422049, 422147, 449954, 450051, 458886, 462591, 462726, 478207, 478598, 479235,
    491665, 504575, 508002, 523263, 523618, 524407, 536319, 536695, 540671, 540751, 548095,
    548431, 548863, 548998, 551935, 552963, 561151, 561155, 561919, 562947, 582306, 582403,
    589852, 610721, 611612, 615586, 615964, 622603, 623871, 623883, 626175, 626443, 627199,
    627467, 633343, 633355, 635391, 635403, 635903, 636427, 637695, 637963, 640511, 640779,
    641535, 641803, 643071, 644875, 645375, 646155, 646911, 646923, 648447, 648715, 655359,
    655661, 656639, 656685, 658431, 659245, 659967, 660269, 666111, 666157, 668159, 668205,
    668927, 668973, 669695, 669741, 670463, 670765, 671231, 671277, 672767, 673581, 674303,
    674605, 675583, 676141, 676607, 678189, 679423, 679469, 679935, 681517, 686079, 688428,
    689407, 689452, 691967, 692012, 692991, 693036, 698879, 698924, 700927, 700972, 701695,
    701740, 703231, 703532, 706303, 706348, 707327, 707372, 708351, 708652, 709119, 712748,
    713983, 714284, 717567, 719148, 721151, 721255, 722175, 722279, 724479, 724839, 725503,
    725863, 731647, 731751, 733695, 733799, 734463, 734567, 735999, 736359, 738815, 739175,
    739839, 740199, 741119, 742759, 743679, 744551, 745215, 745319, 746751, 747111, 751871,
    754315, 754943, 755083, 756735, 757387, 758271, 758411, 759551, 760203, 760831, 760971,
    761343, 761483, 762111, 762763, 763391, 764043, 764927, 765579, 768767, 769675, 771071,
    771723, 772607, 772747, 773887, 774283, 774655, 776075, 776447, 779915, 785407, 786574,
    790015, 790158, 791039, 791182, 797183, 797326, 801535, 801934, 804351, 804494, 805375,
    805518, 806655, 808334, 808959, 809102, 809983, 810382, 810751, 811150, 812287, 812686,
    815359, 817038, 819265, 822783, 822849, 823807, 823873, 829951, 830017, 832767, 832833,
    834303, 834625, 837119, 837185, 838143, 838209, 839423, 841025, 841727, 843073, 843775,
    843841, 845055, 845377, 848127, 848193, 849151, 852054, 855551, 855638, 856575, 856662,
    869887, 869974, 870911, 870998, 872703, 873558, 877823, 878166, 884991, 885119, 886015,
    886143, 890879, 891519, 897791, 897919, 900351, 900479, 900863, 901247, 903167, 903807,
    904191, 905087, 906751, 906879, 907263, 907391, 909567, 910975, 913663, 914047, 914943,
    917906, 932863, 933794, 934034, 941311, 950596, 951295, 951364, 951807, 951876, 953343,
    953412, 959743, 959812, 960255, 960324, 966399, 966724, 968191, 968260, 968703, 968772,
    970751, 970820, 973567, 973892, 975103, 983187, 1001727, 1001875, 1011199, 1012115, 1022207,
    1022355, 1031679, 1031827, 1035775, 1035923, 1037730, 1038739, 1039359, 1048668, 1089573,
    1099519, 1099557, 1100031, 1101093, 1101567, 1101861, 1112994, 1113125, 1114158, 1179684,
    1198591, 1198628, 1199871, 1200164, 1202175, 1202212, 1202687, 1202724, 1203967, 1204260,
    1214975, 1215012, 1216255, 1216548, 1225215, 1225252, 1226495, 1226788, 1228799, 1228836,
    1229311, 1229348, 1230591, 1230884, 1234943, 1234980, 1249791, 1249828, 1251071, 1251364,
    1268735, 1269028, 1277439, 1277988, 1284863, 1286166, 1308415, 1308694, 1310463, 1310739,
    1474660, 1482239, 1482870, 1502114, 1502838, 1505791, 1507472, 1513215, 1515408, 1515568,
    1521058, 1521663, 1523729, 1529087, 1532039, 1535487, 1535623, 1536511, 1536647, 1537279,
    1540158, 1564415, 1564734, 1567487, 1568830, 1571583, 1572952, 1573538, 1573976, 1574306,
    1574488, 1579775, 1581144, 1604095, 1605720, 1616895, 1617939, 1636095, 1638471, 1646591,
    1646663, 1649919, 1650759, 1654015, 1654855, 1655295, 1655879, 1659017, 1666815, 1667209,
    1668607, 1671306, 1682687, 1683594, 1690367, 1691786, 1694719, 1695370, 1695806, 1703952,
    1711359, 1711632, 1712195, 1728511, 1728579, 1736191, 1736515, 1739519, 1740867, 1743615,
    1744963, 1748735, 1749153, 1757183, 1769479, 1789439, 1789447, 1802372, 1818634, 1832191,
    1833994, 1835078, 1849599, 1850182, 1854207, 1854790, 1855589, 1867803, 1870847, 1871909,
    1883135, 1883429, 1884292, 1886463, 1888417, 1889186, 1889441, 1892770, 1893025, 1894818,
    1895841, 1896098, 1897633, 1897890, 1898657, 1899170, 1899519, 1900613, 1910315, 1911579,
    1911877, 1924395, 1925701, 1926699, 1928005, 1931291, 1931589, 1949483, 1949857, 1966149,
    2031659, 2037503, 2037803, 2039551, 2039851, 2049791, 2050091, 2051839, 2052139, 2054399,
    2054443, 2054911, 2054955, 2055423, 2055467, 2055935, 2055979, 2064127, 2064427, 2078207,
    2078251, 2082303, 2082347, 2086143, 2086443, 2088191, 2088235, 2093311, 2093611, 2094591,
    2094635, 2097151, 2097314, 2100385, 2100898, 2123263, 2123426, 2126149, 2126591, 2127010,
    2129733, 2130082, 2134015, 2134085, 2137599, 2138274, 2146815, 2150561, 2159103, 2162850,
    2172459, 2172834, 2173509, 2174114, 2175557, 2175906, 2182725, 2183074, 2187333, 2197922,
    2198783, 2199714, 2370303, 2375842, 2378751, 2384034, 2621455, 2687138, 2847999, 2848418,
    2856703, 2856866, 2883622, 2908229, 2916376, 2946303, 2947352, 2949157, 2959103, 2959141,
    2959615, 2960677, 2961151, 2961551, 2975999, 2977679, 2978303, 2981775, 2981924, 2988031,
    2990116, 2992127, 2992164, 2994175, 2994212, 2996223, 2996260, 2998271, 2998308, 3000319,
    3000356, 3002367, 3002404, 3004415, 3004452, 3006463, 3006491, 3014818, 3038975, 3047471,
    3054335, 3054383, 3077375, 3080239, 3135231, 3141794, 3147055, 3147426, 3147567, 3147938,
    3154223, 3156641, 3157550, 3158178, 3160111, 3161250, 3162367, 3162419, 3184639, 3185057,
    3185570, 3185971, 3186850, 3187003, 3210146, 3210555, 3211519, 3212557, 3223807, 3223854,
    3248127, 3248290, 3252237, 3260578, 3270399, 3272610, 3272763, 3276846, 3284991, 3285154,
    3301422, 3309474, 3330107, 3342242, 3342395, 3365026, 3407919, 5095586, 5111855, 10485919,
    10784255, 10784927, 10799103, 10801226, 10813592, 10890495, 10895387, 10919944, 10942719,
    10944674, 10953285, 10979490, 10980165, 10997503, 10997829, 10998527, 10998597, 10999039,
    10999109, 11001343, 11006533, 11010181, 11021823, 11022498, 11025151, 11026542, 11041023,
    11042937, 11060991, 11062905, 11066111, 11067420, 11075642, 11087522, 11087674, 11087988,
    11097343, 11100020, 11100206, 11107839, 11108409, 11128575, 11128738, 11128889, 11131647,
    11132473, 11133020, 11141119, 11141141, 11155455, 11157525, 11161343, 11161621, 11164415,
    11164693, 11165788, 11174029, 11191295, 11197325, 11198554, 11204607, 11206948, 11208703,
    11208996, 11210751, 11211044, 11212799, 11214884, 11216895, 11216932, 11218943, 11219013,
    11230114, 11230277, 11232555, 11232837, 11233954, 11234559, 11235350, 11255898, 11267839,
    11268186, 11270911, 11272238, 14132479, 14135342, 14141439, 14142254, 14155007, 16318511,
    16412415, 16412719, 16440063, 16449605, 16451583, 16454405, 16455935, 16457010, 16463871,
    16463922, 16465407, 16465458, 16465919, 16465970, 16466687, 16466738, 16467455, 16467506,
    16470019, 16499711, 16503555, 16596642, 16596995, 16617727, 16617987, 16632063, 16633603,
    16634111, 16642051, 16646305, 16650402, 16653055, 16654497, 16657947, 16658594, 16667647,
    16667810, 16672767, 16672930, 16674047, 16674819, 16676351, 16676355, 16711167, 16711586,
    16711935, 16712098, 16720197, 16726946, 16728389, 16735138, 16737851, 16740514, 16740667,
    16752290, 16752686, 16760831, 16761390, 16763135, 16763438, 16765183, 16765486, 16767231,
    16767534, 16768511, 16769186, 16771071, 16771234, 16773119, 16775586, 16776959, 16777289,
    16780543, 16780617, 16787455, 16787529, 16792575, 16792649, 16793343, 16793417, 16797439,
    16797769, 16801535, 16810057, 16841727, 16842914, 16843775, 16844706, 16856319, 16856994,
    16859179, 16879615, 16879778, 16883199, 16883755, 16884223, 16896162, 16907681, 16908031,
    16941131, 16948735, 16949268, 16962047, 16965793, 16966050, 16973055, 16973880, 16983295,
    16985400, 16986153, 16993279, 16994413, 17005567, 17006743, 17014527, 17014679, 17014940,
    17024255, 17025180, 17028863, 17039391, 17059963, 17072233, 17080063, 17080425, 17083135,
    17084520, 17093887, 17094760, 17104127, 17104930, 17115391, 17117185, 17130751, 17133313,
    17133721, 17136639, 17136793, 17140735, 17140889, 17142783, 17142937, 17143551, 17143705,
    17146623, 17146777, 17150719, 17150873, 17152767, 17152921, 17153535, 17154216, 17167615,
    17170504, 17250303, 17252424, 17258239, 17260616, 17262847, 17268805, 17270527, 17270597,
    17281535, 17281605, 17284095, 17301530, 17303295, 17303578, 17304063, 17304090, 17315583,
    17315610, 17316351, 17316890, 17317375, 17317658, 17317892, 17323775, 17323780, 17326187,
    17334368, 17342463, 17344352, 17346815, 17358897, 17363967, 17364017, 17364735, 17365809,
    17367153, 17374463, 17375089, 17375308, 17382143, 17383244, 17383679, 17399893, 17408084,
    17414399, 17415252, 17420543, 17420884, 17432637, 17433855, 17433917, 17434623, 17435709,
    17437951, 17438013, 17438975, 17439037, 17446655, 17446973, 17447935, 17448765, 17451519,
    17453117, 17455615, 17457272, 17465439, 17473791, 17481808, 17491967, 17492816, 17496063,
    17498118, 17512191, 17512710, 17514611, 17520383, 17520755, 17522799, 17527807, 17528943,
    17530992, 17535743, 17537392, 17538559, 17541488, 17543423, 17563750, 17582591, 17596471,
    17609727, 17612855, 17626111, 17627703, 17629301, 17639679, 17641589, 17644287, 17645731,
    17655551, 17656227, 17663743, 17665699, 17666303, 17719299, 17727487, 17727646, 17738495,
    17738654, 17739519, 17739934, 17740543, 17744387, 17745407, 17759235, 17760385, 17770751,
    17772672, 17783551, 17789034, 17795839, 17805335, 17812735, 17817635, 17823743, 17825806,
    17846015, 17846798, 17856255, 17858318, 17858626, 17875967, 17878338, 17878783, 17879170,
    17885695, 17887362, 17890047, 17891346, 17905151, 17905170, 17910015, 17911885, 17922047,
    17924220, 17948927, 17949055, 17954303, 17956927, 17961727, 17961791, 17974015, 17989723,
    17991679, 17991771, 17992191, 17992283, 17993471, 17993563, 17997567, 17997659, 18000639,
    18002046, 18017279, 18018430, 18021119, 18022442, 18023679, 18023722, 18025983, 18026282,
    18027007, 18027306, 18033151, 18033194, 18035199, 18035242, 18035967, 18036010, 18037503,
    18037665, 18037802, 18040319, 18040618, 18041343, 18041642, 18042623, 18042922, 18043391,
    18044714, 18045183, 18046250, 18048255, 18048554, 18050559, 18051114, 18052607, 18055337,
    18057983, 18058153, 18058495, 18058921, 18059263, 18059433, 18069247, 18069417, 18072063,
    18072233, 18072575, 18073001, 18073343, 18073513, 18074623, 18074793, 18077439, 18077609,
    18078207, 18080169, 18080767, 18088033, 18111743, 18111841, 18113279, 18120852, 18139391,
    18141332, 18143999, 18186365, 18200319, 18200701, 18210559, 18219095, 18236927, 18239575,
    18242303, 18243672, 18247167, 18251912, 18266879, 18268296, 18270975, 18272348, 18277631,
    18284546, 18291711, 18291970, 18296063, 18296834, 18302975, 18350110, 18365695, 18391194,
    18412543, 18415514, 18415645, 18417663, 18417949, 18418431, 18418717, 18420991, 18421021,
    18421759, 18421789, 18429695, 18429725, 18430463, 18430749, 18434047, 18436125, 18438911,
    18456670, 18458879, 18459230, 18471167, 18471518, 18474495, 18481312, 18499839, 18501763,
    18523135, 18526227, 18530412, 18545151, 18546716, 18549503, 18596007, 18604799, 18608295,
    18610943, 18612236, 18614783, 18614796, 18626559, 18626572, 18630399, 18632716, 18640383,
    18640977, 18649343, 18649681, 18655487, 18655569, 18659327, 18677800, 18679807, 18679848,
    18680575, 18680616, 18692095, 18692648, 18693119, 18693160, 18693887, 18693928, 18696447,
    18698280, 18701055, 18702375, 18704127, 18704167, 18704895, 18704935, 18714623, 18714663,
    18715391, 18715431, 18717183, 18718759, 18721535, 18800718, 18807295, 18808892, 18813439,
    18813500, 18824191, 18824764, 18832383, 18853962, 18854399, 18858123, 18871039, 18874251,
    18874525, 19110655, 19136669, 19165183, 19165341, 19166719, 19169437, 19219711, 19894297,
    19919871, 19922977, 20207359, 20209697, 21232639, 21233716, 21383167, 23134372, 23149311,
    23592968, 23738879, 23740505, 23748607, 23748697, 23751423, 23752281, 23752853, 23773183,
    23773333, 23775999, 23777289, 23785215, 23785481, 23787263, 23789621, 23807743, 23810101,
    23812863, 23812917, 23814911, 23814965, 23820543, 23821621, 23826687, 23937189, 23952127,
    24002642, 24026111, 24051826, 24071167, 24072050, 24086783, 24088434, 24092927, 24109196,
    24109411, 24109615, 24110144, 24110591, 24113199, 24113919, 24117388, 25688319, 25690252,
    25886784, 26007295, 26017600, 26017932, 26020351, 28307515, 28308735, 28308795, 28310783,
    28310843, 28311551, 28311611, 28311859, 28385339, 28386303, 28389939, 28390399, 28397619,
    28398591, 28398907, 28399359, 28402747, 28403967, 28405859, 28507391, 29098016, 29125631,
    29126688, 29130239, 29130784, 29133311, 29134880, 29137663, 29137952, 29139106, 29140223,
    30146722, 30210815, 30212258, 30323967, 30343329, 30355199, 30355617, 30361599, 30363810,
    30393599, 30408866, 30471935, 30474402, 30484479, 30484898, 30500769, 30501538, 30505889,
    30507938, 30508449, 30510242, 30517921, 30518946, 30534655, 30539819, 30557951, 30589090,
    30594303, 30597282, 30602495, 30605474, 30627839, 30630050, 30636543, 30671010, 30692863,
    30693026, 30711295, 30711458, 30712063, 30712482, 30712831, 30713250, 30713855, 30714274,
    30715391, 30715554, 30718719, 30718882, 30719231, 30719394, 30721279, 30721442, 30738175,
    30738338, 30739455, 30739874, 30742015, 30742178, 30744063, 30744226, 30751487, 30751650,
    30752767, 30752930, 30754303, 30754466, 30754815, 30755490, 30757375, 30757538, 30844671,
    30845090, 30919935, 30920354, 30933114, 31100159, 31103866, 31105279, 31105402, 31109375,
    31391813, 31399935, 31401285, 31403007, 31457318, 31459327, 31459366, 31463935, 31464230,
    31466239, 31466278, 31467007, 31467046, 31468543, 31469595, 31485695, 31493915, 31494399,
    31522870, 31534591, 31535158, 31538943, 31539254, 31542015, 31542838, 31543551, 31625366,
    31633407, 31637659, 31652607, 31653787, 31654143, 31772765, 31783679, 31838374, 31849471,
    31850406, 31850751, 31973412, 31975423, 31975460, 31976703, 31976740, 31977471, 31977508,
    31981567, 31981651, 32032255, 32032595, 32036863, 32047104, 32066815, 32067584, 32070399,
    32071168, 32071935, 32272802, 32290303, 32309666, 32325375, 32374787, 32376063, 32376067,
    32383231, 32383235, 32383999, 32384003, 32384511, 32384771, 32385279, 32385283, 32388095,
    32388099, 32389375, 32389379, 32389887, 32389891, 32390399, 32391683, 32392191, 32392963,
    32393471, 32393475, 32393983, 32393987, 32394495, 32394499, 32395519, 32395523, 32396287,
    32396291, 32396799, 32397059, 32397567, 32397571, 32398079, 32398083, 32398591, 32398595,
    32399103, 32399107, 32399615, 32399619, 32400383, 32400387, 32400895, 32401155, 32402431,
    32402435, 32404479, 32404483, 32405759, 32405763, 32407039, 32407043, 32407551, 32407555,
    32410367, 32410371, 32414975, 32416003, 32417023, 32417027, 32418559, 32418563, 32423167,
    32436227, 32436991, 32506018, 32517375, 32518306, 32543999, 32546978, 32550911, 32551330,
    32555263, 32555426, 32559359, 32559522, 32569087, 32571554, 32616191, 32630434, 32636979,
    32637346, 32637951, 32641186, 32652543, 32653474, 32655871, 32657570, 32658175, 32661666,
    32663295, 32702626, 32954623, 32955554, 32959999, 32960674, 32964095, 32964770, 32995327,
    32996258, 33020671, 33022114, 33025279, 33026210, 33026559, 33030306, 33033471, 33034402,
    33048831, 33050786, 33053439, 33054882, 33065215, 33067170, 33074943, 33075362, 33078527,
    33079458, 33080063, 33095842, 33182975, 33185954, 33189631, 33190050, 33193471, 33194146,
    33196799, 33197986, 33212415, 33214114, 33218047, 33218466, 33221375, 33222818, 33225215,
    33226914, 33264639, 33264802, 33291007, 33554479, 44491007, 44498991, 45562623, 45563951,
    45620991, 45621295, 47096575, 47099951, 49013247, 49016879, 49176319, 49807407, 49946367,
    50331695, 51596287, 51597359, 52670719, 234881442, 234881791, 234889378, 234914047, 234946721,
    235008255]

set_option maxRecDepth 20000 in
/-- The characters of other scripts, or of none in particular, that a script uses too: where they
begin and end, in turn. -/
def scriptUses : List (String × List Nat) :=
  [
    ("adlm", [1567, 1568, 1600, 1601, 8271, 8272, 11841, 11842]),
    ("aghb", [772, 773, 817, 818, 862, 863]),
    ("arab",
      [1548, 1549, 1563, 1564, 1567, 1568, 1600, 1601, 1611, 1622, 1648, 1649, 8271, 8272, 11841,
      11842, 64830, 64832, 66272, 66300]),
    ("armn", [776, 777]),
    ("avst", [183, 184, 11824, 11826]),
    ("beng",
      [700, 701, 2385, 2387, 2404, 2406, 7376, 7377, 7378, 7379, 7381, 7383, 7384, 7385, 7393,
      7394, 7402, 7403, 7405, 7406, 7410, 7411, 7413, 7416, 43249, 43250]),
    ("bopo",
      [711, 712, 713, 716, 729, 730, 12289, 12292, 12296, 12306, 12307, 12320, 12330, 12334, 12336,
      12337, 12343, 12344, 12539, 12540, 65093, 65095, 65377, 65382]),
    ("bugi", [43471, 43472]),
    ("buhd", [5941, 5943]),
    ("cakm", [2534, 2544, 4160, 4170]),
    ("cari", [183, 184, 8282, 8283, 8285, 8286, 11825, 11826]),
    ("cher", [768, 771, 772, 773, 779, 781, 803, 805, 816, 818]),
    ("copt", [183, 184, 768, 769, 772, 774, 775, 776, 884, 886, 11799, 11800, 66272, 66300]),
    ("cpmn", [65792, 65794]),
    ("cprt", [65792, 65795, 65799, 65844, 65847, 65856]),
    ("cyrl",
      [700, 701, 768, 771, 772, 773, 774, 775, 776, 777, 779, 780, 785, 786, 1157, 1159, 7672,
      7673, 11843, 11844]),
    ("deva", [700, 701, 2385, 2387, 2404, 2406, 7376, 7415, 7416, 7418, 8432, 8433, 43056, 43066]),
    ("dogr", [2404, 2416, 43056, 43066]),
    ("dupl", [183, 184, 775, 777, 778, 779, 803, 805, 11836, 11837, 113824, 113828]),
    ("elba", [183, 184, 773, 774]),
    ("ethi", [782, 783]),
    ("geor", [183, 184, 1417, 1418, 4347, 4348, 8282, 8283, 11825, 11826]),
    ("glag",
      [183, 184, 771, 772, 773, 774, 1156, 1157, 1159, 1160, 1417, 1418, 4347, 4348, 8282, 8283,
      11843, 11844, 42607, 42608]),
    ("gong", [183, 184, 2404, 2406]),
    ("gonm", [2404, 2406]),
    ("goth", [183, 184, 772, 774, 776, 777, 817, 818]),
    ("gran",
      [2385, 2387, 2404, 2406, 3046, 3060, 7376, 7377, 7378, 7380, 7410, 7413, 7416, 7418, 8432,
      8433, 70459, 70460, 73680, 73682, 73683, 73684]),
    ("grek",
      [183, 184, 768, 770, 772, 773, 774, 775, 776, 777, 787, 788, 834, 835, 837, 838, 884, 885,
      7616, 7618, 8285, 8286]),
    ("gujr", [2385, 2387, 2404, 2406, 43056, 43066]),
    ("guru", [2385, 2387, 2404, 2406, 43056, 43066]),
    ("hang",
      [12289, 12292, 12296, 12306, 12307, 12320, 12336, 12337, 12343, 12344, 12539, 12540, 65093,
      65095, 65377, 65382]),
    ("hani",
      [183, 184, 12272, 12288, 12289, 12292, 12294, 12295, 12296, 12306, 12307, 12320, 12330,
      12334, 12336, 12337, 12343, 12344, 12348, 12352, 12539, 12540, 12688, 12704, 12736, 12774,
      12783, 12784, 12832, 12872, 12928, 12977, 12992, 13004, 13055, 13056, 13144, 13169, 13179,
      13184, 13280, 13311, 42752, 42760, 65093, 65095, 65377, 65382, 119648, 119666, 127568,
      127570]),
    ("hano", [5941, 5943]),
    ("hebr", [775, 777]),
    ("hira",
      [12289, 12292, 12296, 12306, 12307, 12320, 12336, 12342, 12343, 12344, 12348, 12350, 12441,
      12445, 12448, 12449, 12539, 12541, 65093, 65095, 65377, 65382, 65392, 65393, 65438, 65440]),
    ("hung", [8282, 8283, 8285, 8286, 11825, 11826, 11841, 11842]),
    ("java", [43471, 43472]),
    ("kali", [43310, 43311]),
    ("kana",
      [773, 774, 803, 804, 12289, 12292, 12296, 12306, 12307, 12320, 12336, 12342, 12343, 12344,
      12348, 12350, 12441, 12445, 12448, 12449, 12539, 12541, 65093, 65095, 65377, 65382, 65392,
      65393, 65438, 65440]),
    ("khoj", [2790, 2800, 43056, 43066]),
    ("knda",
      [2385, 2387, 2404, 2406, 7376, 7377, 7378, 7380, 7386, 7387, 7410, 7411, 7412, 7413, 43056,
      43062]),
    ("kthi", [2406, 2416, 11825, 11826, 43056, 43066]),
    ("latn",
      [183, 184, 700, 701, 711, 712, 713, 716, 717, 718, 727, 728, 729, 730, 768, 783, 784, 786,
      787, 788, 803, 806, 813, 815, 816, 818, 856, 857, 862, 863, 867, 880, 1157, 1159, 2385,
      2387, 4347, 4348, 7672, 7673, 8239, 8240, 8432, 8433, 11799, 11800, 42752, 42760, 43310,
      43311]),
    ("limb", [2405, 2406]),
    ("lina", [65799, 65844]),
    ("linb", [65792, 65795, 65799, 65844, 65847, 65856]),
    ("lisu", [700, 701, 717, 718, 12298, 12300]),
    ("lyci", [8282, 8283]),
    ("lydi", [183, 184, 11825, 11826]),
    ("mahj", [183, 184, 2404, 2416, 43056, 43066]),
    ("mand", [1600, 1601]),
    ("mani", [1600, 1601]),
    ("mero", [8285, 8286]),
    ("mlym", [2385, 2387, 2404, 2406, 7386, 7387, 7410, 7411, 43056, 43059]),
    ("modi", [43056, 43066]),
    ("mong", [6146, 6148, 6149, 6150, 8239, 8240, 12289, 12291, 12296, 12300]),
    ("mult", [2662, 2672]),
    ("mymr", [43310, 43311]),
    ("nand",
      [2385, 2386, 2404, 2406, 3302, 3312, 7401, 7402, 7410, 7411, 7418, 7419, 43056, 43062]),
    ("newa", [2385, 2387, 7381, 7382, 7383, 7385, 7394, 7395, 7401, 7402, 7403, 7404, 7405, 7406]),
    ("nkoo", [1548, 1549, 1563, 1564, 1567, 1568, 64830, 64832]),
    ("orkh", [8282, 8283, 11824, 11825]),
    ("orya", [2385, 2387, 2404, 2406, 7386, 7387, 7410, 7411]),
    ("osge", [769, 770, 772, 773, 779, 780, 856, 857]),
    ("ougr", [1600, 1601, 68338, 68339]),
    ("perm", [183, 184, 768, 769, 774, 777, 787, 788, 1155, 1156]),
    ("phag", [6146, 6148, 6149, 6150, 8239, 8240, 12290, 12291]),
    ("phlp", [1600, 1601]),
    ("rohg", [1548, 1549, 1563, 1564, 1567, 1568, 1600, 1601, 1748, 1749]),
    ("runr", [5867, 5870]),
    ("samr", [11825, 11826]),
    ("shaw", [183, 184]),
    ("shrd",
      [2385, 2386, 7383, 7384, 7385, 7386, 7388, 7390, 7392, 7393, 7402, 7403, 7405, 7406, 43056,
      43062, 43064, 43065]),
    ("sind", [2404, 2406, 43056, 43066]),
    ("sinh", [2404, 2406, 7410, 7411]),
    ("sogd", [1600, 1601]),
    ("sylo", [2404, 2406, 2534, 2544]),
    ("syrc",
      [771, 773, 775, 777, 778, 779, 803, 806, 813, 815, 816, 818, 1548, 1549, 1563, 1565, 1567,
      1568, 1600, 1601, 1611, 1622, 1648, 1649, 7672, 7673, 7674, 7675]),
    ("tagb", [5941, 5943]),
    ("takr", [2404, 2406, 43056, 43066]),
    ("tale", [768, 770, 775, 777, 780, 781, 4160, 4170]),
    ("taml",
      [2385, 2387, 2404, 2406, 7386, 7387, 43251, 43252, 70401, 70402, 70403, 70404, 70459, 70461]),
    ("tang", [12272, 12288, 12783, 12784]),
    ("telu", [2385, 2387, 2404, 2406, 7381, 7383, 7384, 7385, 7386, 7387, 7410, 7411]),
    ("tfng", [770, 771, 772, 773, 774, 778, 803, 804]),
    ("tglg", [5941, 5943]),
    ("thaa", [1548, 1549, 1563, 1565, 1567, 1568, 1632, 1642, 65010, 65011, 65021, 65022]),
    ("thai", [700, 701, 727, 728, 771, 772, 817, 818]),
    ("tibt", [12296, 12300]),
    ("tirh", [2385, 2387, 2404, 2406, 7381, 7382, 7394, 7395, 7410, 7411, 43056, 43066]),
    ("toto", [700, 701]),
    ("yezi", [1548, 1549, 1563, 1564, 1567, 1568, 1632, 1642]),
    ("yiii", [12289, 12291, 12296, 12306, 12308, 12316, 12539, 12540, 65377, 65382]),
    ("gara", [1548, 1549, 1563, 1564, 1567, 1568]),
    ("gukh", [2405, 2406]),
    ("onao", [2404, 2406]),
    ("sunu", [768, 770, 771, 772, 781, 782, 784, 785, 813, 814, 817, 818]),
    ("todr", [769, 770, 772, 773, 775, 776, 785, 786, 787, 788, 862, 863]),
    ("tutg", [3302, 3312, 7410, 7411, 7412, 7413, 43056, 43062, 43249, 43250])]

end Conformance.Pattern
