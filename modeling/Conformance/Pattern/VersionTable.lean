/-!
The versions of the Unicode standard that brought characters in, as a table of runs. Each number
stands for the start of a run of characters of one age: the first character times 32, plus the
place of the version in `versionNames`; points without a character have the last place, 31.
-/

namespace Conformance.Pattern

/-- The names of the versions, from the first to the last that patterns know. -/
def versionNames : List (List String) :=
  [
    ["1.1", "v11"], ["2.0", "v20"], ["2.1", "v21"], ["3.0", "v30"], ["3.1", "v31"],
    ["3.2", "v32"], ["4.0", "v40"], ["4.1", "v41"], ["5.0", "v50"], ["5.1", "v51"],
    ["5.2", "v52"], ["6.0", "v60"], ["6.1", "v61"], ["6.2", "v62"], ["6.3", "v63"],
    ["7.0", "v70"], ["8.0", "v80"], ["9.0", "v90"], ["10.0", "v100"], ["11.0", "v110"],
    ["12.0", "v120"], ["12.1", "v121"], ["13.0", "v130"], ["14.0", "v140"], ["15.0", "v150"],
    ["15.1", "v151"], ["16.0", "v160"]]

set_option maxRecDepth 20000 in
/-- Where the runs of one age begin. -/
def versionRuns : List Nat :=
  [
    0, 16067, 16192, 17155, 17413, 17446, 17475, 18054, 18151, 18504, 18944, 21795, 21958, 22016,
    23523, 23552, 23875, 24038, 24576, 26819, 27109, 27142, 27399, 27558, 27648, 27715, 27749,
    28169, 28288, 28361, 28447, 28480, 28520, 28608, 28655, 28703, 28800, 29055, 29056, 29119,
    29120, 29791, 29792, 31209, 31232, 31459, 31493, 31552, 31587, 31616, 31651, 31680, 31715,
    31744, 31779, 31808, 32388, 32453, 32486, 32647, 32771, 32800, 33187, 33216, 35331, 35360,
    35747, 35776, 37097, 37123, 37189, 37251, 37376, 39077, 39136, 39205, 39264, 39333, 39400,
    39424, 40323, 40384, 40647, 40704, 40776, 40965, 41480, 41609, 42122, 42187, 42255, 42527,
    42528, 43775, 43808, 44051, 44064, 45331, 45344, 45379, 45439, 45487, 45548, 45599, 45601,
    46151, 46177, 46592, 46920, 46944, 47233, 47271, 47391, 47616, 48511, 48627, 48640, 48831,
    49158, 49292, 49327, 49353, 49511, 49536, 49574, 49865, 50016, 50062, 50103, 50119, 50144,
    50187, 50208, 51049, 51200, 51811, 51910, 52007, 52203, 52224, 52677, 52736, 55043, 55104,
    55267, 55296, 55779, 55808, 56774, 56832, 57155, 57318, 57347, 57823, 57827, 58790, 58883,
    59775, 59814, 59911, 60873, 61443, 63013, 63071, 63496, 65407, 65459, 65546, 67039, 67082,
    67583, 67595, 68511, 68555, 68607, 68626, 68991, 69143, 70143, 70167, 70239, 70394, 70423,
    70668, 70703, 70732, 71087, 71280, 71351, 71377, 71638, 71959, 72307, 72337, 72816, 72844,
    73711, 73738, 73760, 73862, 73888, 75595, 75648, 76234, 76267, 76288, 76458, 76491, 76544,
    77353, 77419, 77583, 77610, 77672, 77735, 77768, 77839, 77856, 77983, 77984, 78271, 78304,
    78399, 78432, 79167, 79168, 79423, 79424, 79487, 79552, 79711, 79744, 79782, 79808, 80063,
    80096, 80191, 80224, 80327, 80383, 80608, 80671, 80768, 80863, 80864, 81055, 81088, 81770,
    81810, 81875, 81919, 81958, 81984, 82022, 82079, 82080, 82303, 82400, 82495, 82528, 83263,
    83264, 83519, 83520, 83615, 83616, 83711, 83712, 83807, 83840, 83903, 83904, 84095, 84192,
    84287, 84320, 84447, 84521, 84575, 84768, 84927, 84928, 84991, 85184, 85673, 85715, 85759,
    86048, 86175, 86176, 86406, 86432, 86495, 86496, 86623, 86624, 87359, 87360, 87615, 87616,
    87711, 87712, 87903, 87936, 88287, 88288, 88415, 88416, 88543, 88576, 88639, 89088, 89126,
    89247, 89280, 89612, 89638, 89695, 89904, 89938, 90143, 90144, 90271, 90272, 90559, 90592,
    90687, 90720, 91455, 91456, 91711, 91712, 91807, 91814, 91840, 91999, 92032, 92297, 92351,
    92384, 92479, 92512, 92639, 92854, 92864, 92959, 93056, 93151, 93152, 93257, 93343, 93376,
    93734, 93771, 93983, 94272, 94367, 94368, 94591, 94656, 94783, 94784, 94943, 95008, 95103,
    95104, 95167, 95168, 95263, 95328, 95423, 95488, 95615, 95680, 95943, 95968, 96095, 96192,
    96383, 96448, 96575, 96576, 96735, 96777, 96831, 96992, 97055, 97479, 97504, 97894, 98175,
    98319, 98336, 98451, 98464, 98751, 98752, 98879, 98880, 99647, 99648, 99983, 100000, 100191,
    100247, 100265, 100288, 100543, 100544, 100671, 100672, 100831, 101024, 101119, 101129,
    101200, 101247, 101303, 101343, 101376, 101449, 101535, 101568, 101919, 102132, 102153,
    102417, 102447, 102464, 102547, 102560, 102847, 102848, 102975, 102976, 103743, 103744,
    104095, 104096, 104287, 104326, 104384, 104639, 104640, 104767, 104768, 104927, 105120,
    105215, 105399, 105408, 105471, 105472, 105544, 105631, 105664, 106015, 106024, 106104,
    106143, 106514, 106543, 106560, 106646, 106656, 106943, 106944, 107071, 107072, 107819,
    107840, 108363, 108402, 108457, 108480, 108681, 108735, 108736, 108863, 108864, 109003,
    109041, 109087, 109201, 109280, 109329, 109552, 109568, 109641, 109727, 109760, 110089,
    110289, 110377, 110623, 110646, 110659, 110751, 110755, 111359, 111427, 112223, 112227,
    112543, 112547, 112607, 112643, 112895, 112963, 113023, 113123, 113343, 113347, 113407,
    113411, 113695, 113871, 114207, 114243, 114367, 114720, 116607, 116704, 117663, 118816,
    118911, 118912, 118975, 118996, 119008, 119092, 119104, 119167, 119188, 119200, 119252,
    119424, 119572, 119584, 119828, 119840, 119967, 119968, 120031, 120032, 120084, 120128,
    120212, 120224, 120660, 120672, 120799, 120832, 121023, 121024, 121087, 121088, 121304,
    121343, 121344, 121695, 121728, 121804, 121887, 122881, 125215, 125217, 126275, 126313,
    126399, 126497, 127371, 127489, 127683, 127713, 127775, 127777, 128451, 128545, 128771,
    128801, 128835, 128959, 128963, 129471, 129481, 129507, 129543, 129609, 129706, 129835,
    129919, 131075, 132169, 132195, 132361, 132387, 132457, 132483, 132713, 132803, 132937,
    133123, 133961, 136010, 136137, 136192, 137439, 137452, 137503, 137644, 137695, 137728,
    138981, 139047, 139104, 139143, 139180, 139264, 142154, 142304, 144490, 144640, 147274,
    147459, 147687, 147715, 149735, 149763, 149823, 149827, 149983, 150019, 150271, 150275,
    150335, 150339, 150495, 150531, 151783, 151811, 151871, 151875, 152031, 152067, 153063,
    153091, 153151, 153155, 153311, 153347, 153599, 153603, 153663, 153667, 153823, 153859,
    154087, 154115, 154367, 154371, 155111, 155139, 156135, 156163, 156223, 156227, 156383,
    156419, 156647, 156675, 157927, 157955, 158591, 158635, 158695, 158755, 159679, 159751,
    160607, 160771, 163504, 163551, 163600, 163807, 163850, 163875, 184042, 184323, 185279,
    185347, 187951, 188223, 188421, 188855, 188869, 189111, 189151, 189431, 189445, 190207,
    190469, 191135, 191493, 191935, 191941, 192063, 192069, 192159, 192515, 195494, 195551,
    195587, 195935, 196102, 196447, 196611, 197111, 197123, 197471, 197635, 200467, 200511,
    200707, 202057, 202111, 202250, 204511, 204806, 205743, 205823, 205830, 206239, 206342,
    206751, 206854, 206911, 206982, 208351, 208390, 208575, 208903, 210250, 210335, 210439,
    211295, 211463, 211786, 211839, 211911, 211974, 212999, 213919, 213959, 214026, 216063,
    216074, 217023, 217066, 217439, 217610, 217951, 218122, 218591, 218639, 219126, 219191,
    219647, 221192, 223639, 223679, 223706, 223752, 225207, 225274, 225289, 226668, 226761,
    227148, 227339, 229023, 229259, 229385, 231199, 231273, 231775, 231849, 233489, 233786,
    233855, 234003, 235391, 235443, 235532, 235807, 236042, 237164, 237298, 237327, 237396,
    237439, 237574, 241031, 243848, 244073, 244975, 245458, 245591, 245617, 245643, 245674,
    245704, 245760, 250721, 250761, 250880, 253769, 253952, 254687, 254720, 254943, 254976,
    256223, 256256, 256479, 256512, 256799, 256800, 256863, 256864, 256927, 256928, 256991,
    256992, 258015, 258048, 259775, 259776, 260287, 260288, 260767, 260800, 261023, 261024,
    261663, 261696, 261823, 261824, 262143, 262144, 263651, 263680, 264421, 264451, 264645,
    264806, 264871, 264933, 264967, 265189, 265353, 265407, 265422, 265536, 265765, 265823,
    265856, 266751, 266759, 266923, 267199, 267264, 267617, 267650, 267683, 267781, 267847,
    267978, 268075, 268109, 268143, 268240, 268274, 268311, 268351, 268800, 269379, 269445,
    269671, 269704, 269833, 269887, 270336, 272163, 272230, 272263, 272293, 272775, 272808,
    272873, 272906, 272992, 274531, 274568, 274601, 274730, 274768, 274847, 274944, 277859,
    278149, 278528, 286277, 286720, 286755, 286784, 290659, 290693, 290723, 291685, 293350,
    293415, 293768, 294154, 294187, 294543, 294769, 294898, 294912, 296099, 296186, 296287,
    296960, 297343, 297984, 302437, 303078, 303104, 307909, 308224, 310787, 311045, 311296,
    311942, 312005, 312071, 312099, 312128, 314883, 314949, 315335, 315397, 315718, 315975,
    316329, 316362, 316422, 316487, 317000, 317033, 317354, 317449, 317578, 317899, 317930,
    318539, 318570, 318603, 318730, 319503, 319520, 319659, 319680, 319819, 319872, 320779,
    320800, 321931, 321952, 321995, 322016, 322155, 322240, 322282, 322304, 322539, 322592,
    322821, 323264, 324267, 324352, 325131, 325152, 325611, 325639, 325864, 325996, 326025,
    326060, 326091, 326149, 327049, 327173, 327683, 335877, 352262, 352711, 352904, 353129,
    353288, 353417, 354735, 354825, 354986, 355151, 355999, 356047, 357087, 357110, 357135,
    358227, 358319, 358708, 358735, 358994, 359027, 359824, 359955, 360436, 360455, 361975,
    361991, 363511, 363528, 363945, 364042, 364073, 364168, 364297, 364490, 364551, 367978,
    368204, 368287, 368423, 369887, 369900, 369951, 370092, 370143, 370183, 371916, 371999,
    372199, 372235, 372287, 372715, 372743, 373503, 373767, 374015, 374023, 374271, 374279,
    374527, 374535, 374783, 374791, 375039, 375047, 375295, 375303, 375551, 375559, 375807,
    375817, 376839, 377609, 377735, 377801, 378410, 378444, 378767, 378993, 379058, 379219,
    379380, 379414, 379511, 379871, 380931, 381791, 381795, 384671, 385027, 391903, 392707,
    393113, 393216, 395011, 395109, 395203, 395232, 395295, 395296, 397989, 398079, 398112,
    398309, 398368, 401381, 401439, 401568, 402857, 402898, 402931, 402975, 402976, 406015,
    406016, 406531, 407307, 407414, 407559, 408073, 408730, 408799, 409081, 409093, 409600,
    410534, 410623, 410624, 411786, 412166, 412197, 412672, 413574, 413639, 413664, 415269,
    415744, 416134, 416256, 417781, 417792, 421606, 421728, 424902, 424960, 425958, 425987,
    636630, 636934, 638976, 1307847, 1308553, 1308810, 1309068, 1309104, 1309394, 1310067,
    1310230, 1310647, 1310723, 1348031, 1348099, 1348677, 1348739, 1349253, 1349283, 1349669,
    1349699, 1349797, 1349827, 1349887, 1350154, 1351689, 1361311, 1361929, 1362955, 1363017,
    1363596, 1363849, 1364751, 1364944, 1364972, 1365002, 1367839, 1368071, 1368808, 1368937,
    1369096, 1369161, 1372587, 1372656, 1372683, 1372748, 1372815, 1373195, 1373516, 1373551,
    1373649, 1373683, 1373711, 1373776, 1373971, 1374036, 1374231, 1374292, 1374454, 1374586,
    1374687, 1374743, 1374815, 1374839, 1374879, 1374903, 1375066, 1375167, 1375831, 1375926,
    1375983, 1376012, 1376075, 1376105, 1376263, 1377686, 1377727, 1377802, 1378143, 1378312,
    1380127, 1380361, 1382577, 1382623, 1382857, 1383263, 1383434, 1384336, 1384403, 1384457,
    1387167, 1387497, 1387530, 1388479, 1388554, 1391071, 1391082, 1391455, 1391562, 1391631,
    1392639, 1392649, 1394431, 1394697, 1395167, 1395209, 1395551, 1395593, 1395722, 1396623,
    1396746, 1398911, 1399658, 1399820, 1400575, 1400875, 1401087, 1401131, 1401343, 1401387,
    1401599, 1401867, 1402111, 1402123, 1402367, 1402383, 1403920, 1404047, 1404116, 1404182,
    1404319, 1404432, 1406986, 1408479, 1408522, 1408863, 1409025, 1766559, 1766922, 1767679,
    1767786, 1769375, 1835008, 2049484, 2049541, 2051434, 2051551, 2051591, 2055007, 2056192,
    2056447, 2056800, 2056991, 2057123, 2057152, 2057983, 2057984, 2058175, 2058176, 2058239,
    2058240, 2058335, 2058336, 2058431, 2058432, 2061899, 2062423, 2062463, 2062944, 2074647,
    2075136, 2077215, 2077248, 2079007, 2079223, 2079236, 2080256, 2080645, 2080678, 2080727,
    2080773, 2081287, 2081631, 2081792, 2081929, 2082031, 2082256, 2082304, 2082981, 2083046,
    2083104, 2083455, 2083456, 2084095, 2084096, 2084255, 2084352, 2084453, 2084480, 2084543,
    2084544, 2088895, 2088928, 2088991, 2088992, 2092005, 2092064, 2095103, 2095168, 2095391,
    2095424, 2095647, 2095680, 2095903, 2095936, 2096063, 2096128, 2096383, 2096384, 2096639,
    2096931, 2097026, 2097056, 2097158, 2097567, 2097574, 2098431, 2098438, 2099071, 2099078,
    2099167, 2099174, 2099679, 2099718, 2100191, 2101254, 2105215, 2105350, 2105471, 2105574,
    2107039, 2107110, 2107399, 2109807, 2109873, 2109951, 2109961, 2110358, 2110399, 2110479,
    2110527, 2112009, 2113503, 2117641, 2118591, 2118665, 2120255, 2120719, 2121631, 2121732,
    2122735, 2122756, 2122911, 2123186, 2123268, 2124159, 2124303, 2125695, 2125830, 2126815,
    2126822, 2126855, 2128031, 2128135, 2128607, 2129924, 2131142, 2131204, 2132422, 2135007,
    2135046, 2135391, 2135569, 2136735, 2136849, 2138015, 2138127, 2139423, 2139663, 2141343,
    2141679, 2141719, 2142079, 2142103, 2142591, 2142615, 2142847, 2142871, 2142943, 2142967,
    2143327, 2143351, 2143839, 2143863, 2144095, 2144119, 2144191, 2144282, 2145951, 2146319,
    2156287, 2156559, 2157279, 2157583, 2157855, 2158615, 2158815, 2158839, 2160191, 2160215,
    2160511, 2162694, 2162911, 2162950, 2163007, 2163014, 2164447, 2164454, 2164543, 2164614,
    2164671, 2164710, 2164746, 2165471, 2165482, 2165775, 2167807, 2168047, 2168351, 2169872,
    2170495, 2170512, 2170591, 2170736, 2170888, 2171722, 2171807, 2171880, 2171913, 2172767,
    2172905, 2172959, 2174988, 2176799, 2176912, 2176972, 2177040, 2177567, 2177616, 2179079,
    2179231, 2179239, 2179327, 2179463, 2179743, 2179751, 2179871, 2179879, 2180755, 2180831,
    2180871, 2180991, 2181095, 2181395, 2181439, 2181639, 2181951, 2182154, 2183183, 2184223,
    2185231, 2186495, 2186607, 2187007, 2187274, 2189023, 2189098, 2190047, 2190090, 2190975,
    2191114, 2191375, 2191967, 2192175, 2192319, 2192687, 2192927, 2195466, 2197823, 2199568,
    2201215, 2201616, 2203263, 2203472, 2203667, 2204959, 2205203, 2205535, 2205722, 2206943,
    2207034, 2207967, 2208218, 2208287, 2214922, 2215935, 2215958, 2217311, 2217334, 2217439,
    2217494, 2217567, 2218074, 2218175, 2219930, 2219960, 2220051, 2221343, 2221587, 2222943,
    2223639, 2224479, 2225686, 2226591, 2227220, 2227967, 2228235, 2230751, 2230859, 2231831,
    2232031, 2232303, 2232330, 2234455, 2234495, 2234803, 2234847, 2234892, 2235711, 2235916,
    2236255, 2236428, 2238143, 2238156, 2238611, 2238710, 2238751, 2238991, 2240255, 2240524,
    2242864, 2242991, 2243030, 2243084, 2243407, 2243440, 2243615, 2243631, 2244287, 2244623,
    2245215, 2245231, 2246609, 2246648, 2246751, 2248720, 2248959, 2248976, 2249023, 2249040,
    2249183, 2249200, 2249695, 2249712, 2250079, 2250255, 2252159, 2252303, 2252639, 2252816,
    2252847, 2252959, 2252975, 2253247, 2253295, 2253375, 2253423, 2254143, 2254159, 2254399,
    2254415, 2254495, 2254511, 2254687, 2254707, 2254735, 2255039, 2255087, 2255167, 2255215,
    2255327, 2255376, 2255423, 2255599, 2255647, 2255791, 2256031, 2256079, 2256319, 2256399,
    2256575, 2256922, 2257247, 2257274, 2257311, 2257370, 2257407, 2257434, 2258655, 2258682,
    2259007, 2259034, 2259071, 2259130, 2259167, 2259194, 2259327, 2259354, 2259679, 2259706,
    2259775, 2260026, 2260095, 2261009, 2263894, 2263921, 2263967, 2263985, 2264019, 2264052,
    2264086, 2264159, 2265103, 2267423, 2267663, 2267999, 2273295, 2275039, 2275087, 2275664,
    2276319, 2277391, 2279615, 2279951, 2280287, 2280465, 2280895, 2281484, 2283284, 2283319,
    2283359, 2283532, 2283871, 2284058, 2284703, 2285584, 2286419, 2286463, 2286512, 2287007,
    2287120, 2287639, 2287871, 2293779, 2295711, 2298895, 2301567, 2301935, 2301974, 2302207,
    2302262, 2302303, 2302358, 2302623, 2302646, 2302719, 2302742, 2303711, 2303734, 2303807,
    2303862, 2304255, 2304534, 2304863, 2307092, 2307359, 2307412, 2308895, 2308948, 2309311,
    2310162, 2312479, 2312722, 2314388, 2314450, 2315187, 2315218, 2315391, 2315799, 2316303,
    2318143, 2318360, 2318687, 2324506, 2325599, 2326042, 2326367, 2326545, 2326847, 2326865,
    2328319, 2328337, 2328799, 2329105, 2330047, 2330129, 2331167, 2331217, 2331935, 2331953,
    2332415, 2334738, 2334975, 2334994, 2335071, 2335090, 2336511, 2336594, 2336639, 2336658,
    2336735, 2336754, 2337055, 2337298, 2337631, 2337811, 2338015, 2338035, 2338111, 2338131,
    2339327, 2339347, 2339423, 2339443, 2339647, 2339859, 2340191, 2350099, 2350911, 2351128,
    2351679, 2351704, 2353023, 2353112, 2354010, 2354047, 2356758, 2356799, 2357268, 2358879,
    2359284, 2359304, 2387439, 2388784, 2388831, 2392072, 2395247, 2395647, 2395656, 2395791,
    2395839, 2396176, 2402463, 2486807, 2489983, 2490378, 2524664, 2524692, 2524984, 2525919,
    2526234, 2654079, 2654224, 2672895, 2891802, 2893663, 2949131, 2967359, 2967567, 2968575,
    2968591, 2968927, 2969039, 2969111, 2971647, 2971671, 2971999, 2972175, 2973151, 2973199,
    2973407, 2973711, 2975967, 2976271, 2976607, 2976623, 2976863, 2976879, 2977567, 2977711,
    2978335, 2992154, 2994015, 3000339, 3003263, 3006476, 3008692, 3008895, 3009012, 3009036,
    3010548, 3010847, 3011052, 3011615, 3013649, 3013682, 3013716, 3013782, 3013823, 3014166,
    3014239, 3014673, 3210675, 3210836, 3211039, 3211281, 3235446, 3250911, 3252218, 3252246,
    3252543, 3538455, 3538591, 3538615, 3538847, 3538871, 3538943, 3538955, 3539026, 3548151,
    3548287, 3548760, 3548799, 3549716, 3549823, 3549880, 3549919, 3550356, 3550495, 3550738,
    3563423, 3637263, 3640703, 3640847, 3641279, 3641359, 3641663, 3641871, 3642207, 3642255,
    3642527, 3768346, 3776351, 3776538, 3790495, 3792919, 3794399, 3794455, 3795199, 3795479,
    3799199, 3801092, 3808991, 3809284, 3810559, 3810601, 3810628, 3816400, 3816759, 3816831,
    3817479, 3819743, 3823640, 3824287, 3824659, 3825311, 3825670, 3828479, 3828744, 3829331,
    3829567, 3833860, 3836607, 3836612, 3838911, 3838916, 3839007, 3839044, 3839103, 3839140,
    3839231, 3839268, 3839423, 3839428, 3839839, 3839844, 3839903, 3839908, 3840038, 3840068,
    3840159, 3840164, 3842271, 3842276, 3842431, 3842468, 3842751, 3842756, 3843007, 3843012,
    3843935, 3843940, 3844095, 3844100, 3844287, 3844292, 3844351, 3844420, 3844671, 3844676,
    3855495, 3855583, 3855620, 3864904, 3864991, 3865028, 3866640, 3887519, 3887984, 3888159,
    3888176, 3888671, 3923991, 3924991, 3925176, 3925375, 3932177, 3932415, 3932433, 3932991,
    3933041, 3933279, 3933297, 3933375, 3933393, 3933567, 3933720, 3935711, 3936760, 3936799,
    3940372, 3941823, 3941908, 3942367, 3942420, 3942751, 3942868, 3942943, 3953175, 3954175,
    3954708, 3956575, 3956724, 3956767, 3971608, 3972959, 3979802, 3981183, 3981306, 3981343,
    3996695, 3996927, 3996951, 3997087, 3997111, 3997183, 3997207, 3997695, 3997711, 4004031,
    4004079, 4004607, 4005905, 4008308, 4008351, 4008465, 4008799, 4008913, 4008991, 4034099,
    4036287, 4038708, 4040671, 4046860, 4047007, 4047020, 4047903, 4047916, 4047999, 4048012,
    4048063, 4048108, 4048159, 4048172, 4048511, 4048524, 4048671, 4048684, 4048735, 4048748,
    4048799, 4048972, 4049023, 4049132, 4049183, 4049196, 4049247, 4049260, 4049311, 4049324,
    4049439, 4049452, 4049535, 4049548, 4049599, 4049644, 4049695, 4049708, 4049759, 4049772,
    4049823, 4049836, 4049887, 4049900, 4049951, 4049964, 4050047, 4050060, 4050111, 4050156,
    4050303, 4050316, 4050559, 4050572, 4050719, 4050732, 4050879, 4050892, 4050943, 4050956,
    4051295, 4051308, 4051871, 4052012, 4052127, 4052140, 4052319, 4052332, 4052895, 4054540,
    4054623, 4063241, 4064671, 4064777, 4067999, 4068363, 4068863, 4068907, 4069359, 4069407,
    4069419, 4069919, 4069931, 4070415, 4071135, 4071434, 4071791, 4071862, 4071946, 4072947,
    4072971, 4073002, 4073035, 4073386, 4073419, 4073450, 4073483, 4073546, 4073579, 4073674,
    4073707, 4073802, 4073963, 4074218, 4074251, 4074474, 4074507, 4074828, 4074900, 4074934,
    4075019, 4075306, 4075339, 4075370, 4075435, 4075498, 4075531, 4075850, 4075979, 4076042,
    4076075, 4076401, 4076982, 4077023, 4078795, 4079626, 4079659, 4079743, 4080138, 4081227,
    4081521, 4081567, 4081674, 4081983, 4082187, 4082271, 4082706, 4082911, 4087819, 4088879,
    4089264, 4089355, 4089551, 4089579, 4091823, 4091856, 4091915, 4092559, 4092939, 4094127,
    4094155, 4094319, 4094448, 4094607, 4094987, 4095535, 4095760, 4096011, 4098031, 4098059,
    4098095, 4098123, 4103951, 4103979, 4104111, 4104176, 4104203, 4106191, 4106252, 4106383,
    4106608, 4106763, 4107535, 4108113, 4108143, 4109457, 4109487, 4112235, 4112396, 4112427,
    4112940, 4112971, 4113068, 4113099, 4113132, 4113163, 4113196, 4113227, 4113260, 4113291,
    4113388, 4113419, 4113612, 4113675, 4113804, 4113835, 4113868, 4113931, 4114060, 4114091,
    4114479, 4114544, 4114603, 4114959, 4116491, 4118735, 4119056, 4119089, 4119154, 4119220,
    4119254, 4119327, 4119448, 4119479, 4119567, 4119999, 4120079, 4120209, 4120306, 4120371,
    4120404, 4120438, 4120511, 4120587, 4124312, 4124415, 4124536, 4124687, 4127411, 4127544,
    4127583, 4127764, 4128159, 4128279, 4128319, 4128783, 4129183, 4129295, 4131103, 4131343,
    4131679, 4131855, 4133151, 4133391, 4134367, 4134422, 4134490, 4134815, 4134938, 4135007,
    4136978, 4137366, 4137396, 4137488, 4137777, 4137970, 4138001, 4138258, 4138513, 4138546,
    4138609, 4138996, 4139025, 4139410, 4139443, 4139537, 4140018, 4140435, 4140596, 4140630,
    4140659, 4140790, 4140855, 4140883, 4140916, 4140947, 4141072, 4141233, 4141650, 4141843,
    4142198, 4142260, 4142454, 4142548, 4142611, 4142932, 4143120, 4143155, 4143220, 4143478,
    4143511, 4143540, 4143634, 4144371, 4145172, 4147871, 4148243, 4148703, 4148756, 4148886,
    4148920, 4149012, 4149111, 4149183, 4149268, 4149366, 4149496, 4149562, 4149599, 4149754,
    4149780, 4149974, 4150583, 4150712, 4150806, 4151031, 4151160, 4151258, 4151288, 4151318,
    4151415, 4151514, 4151551, 4151768, 4151830, 4152055, 4152152, 4152218, 4152255, 4152314,
    4152343, 4152600, 4152634, 4152671, 4152855, 4153080, 4153151, 4153366, 4158079, 4158102,
    4159866, 4161046, 4161375, 4194241, 4194308, 5561078, 5561303, 5561375, 5562378, 5695159,
    5695288, 5695327, 5695499, 5702623, 5702672, 5887071, 5887506, 6126655, 6127129, 6147039,
    6225924, 6243295, 6291393, 6291478, 6449535, 6449688, 6583839, 8388545, 8388639, 10485697,
    10485791, 12582849, 12582943, 14680001, 14680095, 16777153, 16777247, 18874305, 18874399,
    20971457, 20971551, 23068609, 23068703, 25165761, 25165855, 27262913, 27263007, 29360065,
    29360159, 29360164, 29360223, 29361156, 29364255, 29368326, 29376031, 31457217]

end Conformance.Pattern
