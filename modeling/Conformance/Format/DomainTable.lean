/-!
Characters beyond ASCII in domain names, as tables: those that vanish, those that may not stand in
a name, and those that stand for characters of ASCII.
-/

namespace Conformance.Format

/-- Where the characters that vanish from a domain begin and end, in turn. -/
def vanishingBounds : List Nat :=
  [
    173, 174, 847, 848, 6155, 6158, 6159, 6160, 8203, 8204, 8288, 8289, 8292, 8293, 65024, 65040,
    65279, 65280, 113824, 113828, 917760, 918000]

/-- Where the assigned characters that no domain may hold begin and end, in turn: accents and
blanks on their own, invisible marks, and forms of punctuation that divides a locator. -/
def barredBounds : List Nat :=
  [
    160, 161, 168, 169, 175, 176, 180, 181, 184, 185, 728, 734, 890, 891, 900, 902, 1216, 1217,
    1536, 1542, 1564, 1565, 1757, 1758, 1807, 1808, 2192, 2194, 2274, 2275, 4256, 4294, 4447,
    4449, 5760, 5761, 6068, 6070, 6150, 6151, 6158, 6159, 8125, 8126, 8127, 8130, 8141, 8144,
    8157, 8160, 8173, 8175, 8189, 8191, 8192, 8203, 8206, 8208, 8215, 8216, 8228, 8231, 8232,
    8240, 8254, 8255, 8263, 8266, 8287, 8288, 8289, 8292, 8294, 8304, 8448, 8450, 8453, 8455,
    8498, 8499, 8579, 8580, 9352, 9372, 10868, 10869, 12272, 12284, 12288, 12289, 12443, 12445,
    12644, 12645, 13250, 13251, 13255, 13256, 13272, 13273, 64606, 64612, 65018, 65020, 65042,
    65044, 65046, 65047, 65049, 65050, 65072, 65073, 65095, 65101, 65106, 65107, 65109, 65111,
    65119, 65120, 65124, 65126, 65128, 65129, 65130, 65132, 65136, 65137, 65138, 65139, 65140,
    65141, 65142, 65143, 65144, 65145, 65146, 65147, 65148, 65149, 65150, 65151, 65283, 65284,
    65285, 65286, 65295, 65296, 65306, 65307, 65308, 65309, 65310, 65313, 65339, 65343, 65372,
    65373, 65440, 65441, 65507, 65508, 65529, 65534, 69821, 69822, 69837, 69838, 78896, 78905,
    119155, 119163, 127232, 127233, 194664, 194665, 194676, 194677, 194847, 194848, 194911,
    194912, 195007, 195008, 917505, 917506, 917536, 917632]

/-- Runs of characters that stand for consecutive characters of ASCII: the first and the last of a
run, and what the first stands for. -/
def plainRuns : List (Nat × Nat × Char) :=
  [
    (170, 170, 'a'), (178, 179, '2'), (185, 185, '1'), (186, 186, 'o'), (383, 383, 's'),
    (688, 688, 'h'), (690, 690, 'j'), (691, 691, 'r'), (695, 695, 'w'), (696, 696, 'y'),
    (737, 737, 'l'), (738, 738, 's'), (739, 739, 'x'), (894, 894, ';'), (7468, 7468, 'a'),
    (7470, 7470, 'b'), (7472, 7473, 'd'), (7475, 7482, 'g'), (7484, 7484, 'o'), (7486, 7486, 'p'),
    (7487, 7487, 'r'), (7488, 7489, 't'), (7490, 7490, 'w'), (7491, 7491, 'a'), (7495, 7495, 'b'),
    (7496, 7497, 'd'), (7501, 7501, 'g'), (7503, 7503, 'k'), (7504, 7504, 'm'), (7506, 7506, 'o'),
    (7510, 7510, 'p'), (7511, 7512, 't'), (7515, 7515, 'v'), (7522, 7522, 'i'), (7523, 7523, 'r'),
    (7524, 7525, 'u'), (7580, 7580, 'c'), (7584, 7584, 'f'), (7611, 7611, 'z'),
    (8175, 8175, '\x60'),
    (8304, 8304, '0'), (8305, 8305, 'i'), (8308, 8313, '4'), (8314, 8314, '+'), (8316, 8316, '='),
    (8317, 8318, '('), (8319, 8319, 'n'), (8320, 8329, '0'), (8330, 8330, '+'), (8332, 8332, '='),
    (8333, 8334, '('), (8336, 8336, 'a'), (8337, 8337, 'e'), (8338, 8338, 'o'), (8339, 8339, 'x'),
    (8341, 8341, 'h'), (8342, 8345, 'k'), (8346, 8346, 'p'), (8347, 8348, 's'), (8450, 8450, 'c'),
    (8458, 8459, 'g'), (8460, 8460, 'h'), (8461, 8461, 'h'), (8462, 8462, 'h'), (8464, 8464, 'i'),
    (8465, 8465, 'i'), (8466, 8466, 'l'), (8467, 8467, 'l'), (8469, 8469, 'n'), (8473, 8475, 'p'),
    (8476, 8476, 'r'), (8477, 8477, 'r'), (8484, 8484, 'z'), (8488, 8488, 'z'), (8490, 8490, 'k'),
    (8492, 8493, 'b'), (8495, 8495, 'e'), (8496, 8497, 'e'), (8499, 8499, 'm'), (8500, 8500, 'o'),
    (8505, 8505, 'i'), (8517, 8517, 'd'), (8518, 8519, 'd'), (8520, 8521, 'i'), (8544, 8544, 'i'),
    (8548, 8548, 'v'), (8553, 8553, 'x'), (8556, 8556, 'l'), (8557, 8558, 'c'), (8559, 8559, 'm'),
    (8560, 8560, 'i'), (8564, 8564, 'v'), (8569, 8569, 'x'), (8572, 8572, 'l'), (8573, 8574, 'c'),
    (8575, 8575, 'm'), (9312, 9320, '1'), (9398, 9423, 'a'), (9424, 9449, 'a'), (9450, 9450, '0'),
    (11388, 11388, 'j'), (11389, 11389, 'v'), (12290, 12290, '.'), (42994, 42994, 'c'),
    (42995, 42995, 'f'), (42996, 42996, 'q'), (64297, 64297, '+'), (65040, 65040, ','),
    (65044, 65044, ';'), (65045, 65045, '!'), (65075, 65075, '_'), (65076, 65076, '_'),
    (65077, 65078, '('), (65079, 65079, '\x7b'), (65080, 65080, '\x7d'), (65101, 65101, '_'),
    (65102, 65102, '_'), (65103, 65103, '_'), (65104, 65104, ','), (65108, 65108, ';'),
    (65111, 65111, '!'), (65113, 65114, '('), (65115, 65115, '\x7b'), (65116, 65116, '\x7d'),
    (65120, 65120, '&'), (65121, 65122, '*'), (65123, 65123, '-'), (65126, 65126, '='),
    (65129, 65129, '$'), (65281, 65282, '!'), (65284, 65284, '$'), (65286, 65294, '&'),
    (65296, 65305, '0'), (65307, 65307, ';'), (65309, 65309, '='), (65313, 65338, 'a'),
    (65343, 65371, '_'), (65373, 65374, '\x7d'), (65377, 65377, '.'), (67493, 67493, 'q'),
    (119808, 119833, 'a'), (119834, 119859, 'a'), (119860, 119885, 'a'), (119886, 119892, 'a'),
    (119894, 119911, 'i'), (119912, 119937, 'a'), (119938, 119963, 'a'), (119964, 119964, 'a'),
    (119966, 119967, 'c'), (119970, 119970, 'g'), (119973, 119974, 'j'), (119977, 119980, 'n'),
    (119982, 119989, 's'), (119990, 119993, 'a'), (119995, 119995, 'f'), (119997, 120003, 'h'),
    (120005, 120015, 'p'), (120016, 120041, 'a'), (120042, 120067, 'a'), (120068, 120069, 'a'),
    (120071, 120074, 'd'), (120077, 120084, 'j'), (120086, 120092, 's'), (120094, 120119, 'a'),
    (120120, 120121, 'a'), (120123, 120126, 'd'), (120128, 120132, 'i'), (120134, 120134, 'o'),
    (120138, 120144, 's'), (120146, 120171, 'a'), (120172, 120197, 'a'), (120198, 120223, 'a'),
    (120224, 120249, 'a'), (120250, 120275, 'a'), (120276, 120301, 'a'), (120302, 120327, 'a'),
    (120328, 120353, 'a'), (120354, 120379, 'a'), (120380, 120405, 'a'), (120406, 120431, 'a'),
    (120432, 120457, 'a'), (120458, 120483, 'a'), (120782, 120791, '0'), (120792, 120801, '0'),
    (120802, 120811, '0'), (120812, 120821, '0'), (120822, 120831, '0'), (127275, 127275, 'c'),
    (127276, 127276, 'r'), (127280, 127305, 'a'), (130032, 130041, '0')]

/-- Runs of characters that stand for consecutive numbers: the first and the last of a run, and
the number that the first stands for. -/
def numeralRuns : List (Nat × Nat × Nat) :=
  [(9321, 9331, 10), (12881, 12895, 21), (12977, 12991, 36)]

end Conformance.Format
