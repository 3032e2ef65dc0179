/-!
# Sampled transfer curves

Two transfer curves have no closed form among profile curves and are stored as tables: 1024 equally
spaced samples over the unit interval, from zero to 65535.
-/

namespace AvifStill.Color

/-- Scene light of the hybrid log-gamma curve. -/
def hybridLogGammaTable : List UInt16 :=
  [0, 0, 0, 0, 0, 1, 1, 1, 1, 2, 2, 3, 3, 4, 4, 5, 5, 6, 7, 8, 8, 9, 10, 11, 12, 13, 14, 15,
    16, 18, 19, 20, 21, 23, 24, 26, 27, 29, 30, 32, 33, 35, 37, 39, 40, 42, 44, 46, 48, 50, 52,
    54, 56, 59, 61, 63, 65, 68, 70, 73, 75, 78, 80, 83, 85, 88, 91, 94, 97, 99, 102, 105, 108,
    111, 114, 117, 121, 124, 127, 130, 134, 137, 140, 144, 147, 151, 154, 158, 162, 165, 169,
    173, 177, 181, 184, 188, 192, 196, 200, 205, 209, 213, 217, 221, 226, 230, 235, 239, 243,
    248, 253, 257, 262, 267, 271, 276, 281, 286, 291, 296, 301, 306, 311, 316, 321, 326, 331,
    337, 342, 347, 353, 358, 364, 369, 375, 380, 386, 392, 398, 403, 409, 415, 421, 427, 433,
    439, 445, 451, 457, 463, 470, 476, 482, 489, 495, 501, 508, 515, 521, 528, 534, 541, 548,
    555, 561, 568, 575, 582, 589, 596, 603, 610, 618, 625, 632, 639, 647, 654, 661, 669, 676,
    684, 691, 699, 707, 714, 722, 730, 738, 746, 754, 761, 769, 778, 786, 794, 802, 810, 818,
    827, 835, 843, 852, 860, 869, 877, 886, 894, 903, 912, 921, 929, 938, 947, 956, 965, 974,
    983, 992, 1001, 1010, 1019, 1029, 1038, 1047, 1057, 1066, 1076, 1085, 1095, 1104, 1114,
    1124, 1133, 1143, 1153, 1163, 1172, 1182, 1192, 1202, 1212, 1222, 1233, 1243, 1253, 1263,
    1273, 1284, 1294, 1305, 1315, 1326, 1336, 1347, 1357, 1368, 1379, 1389, 1400, 1411, 1422,
    1433, 1444, 1455, 1466, 1477, 1488, 1499, 1510, 1522, 1533, 1544, 1556, 1567, 1579, 1590,
    1602, 1613, 1625, 1637, 1648, 1660, 1672, 1684, 1695, 1707, 1719, 1731, 1743, 1755, 1768,
    1780, 1792, 1804, 1817, 1829, 1841, 1854, 1866, 1879, 1891, 1904, 1916, 1929, 1942, 1955,
    1967, 1980, 1993, 2006, 2019, 2032, 2045, 2058, 2071, 2084, 2098, 2111, 2124, 2137, 2151,
    2164, 2178, 2191, 2205, 2218, 2232, 2246, 2259, 2273, 2287, 2301, 2315, 2329, 2343, 2357,
    2371, 2385, 2399, 2413, 2427, 2441, 2456, 2470, 2484, 2499, 2513, 2528, 2542, 2557, 2572,
    2586, 2601, 2616, 2631, 2645, 2660, 2675, 2690, 2705, 2720, 2735, 2751, 2766, 2781, 2796,
    2811, 2827, 2842, 2858, 2873, 2889, 2904, 2920, 2935, 2951, 2967, 2983, 2998, 3014, 3030,
    3046, 3062, 3078, 3094, 3110, 3126, 3142, 3159, 3175, 3191, 3208, 3224, 3240, 3257, 3273,
    3290, 3306, 3323, 3340, 3357, 3373, 3390, 3407, 3424, 3441, 3458, 3475, 3492, 3509, 3526,
    3543, 3560, 3578, 3595, 3612, 3630, 3647, 3665, 3682, 3700, 3717, 3735, 3753, 3770, 3788,
    3806, 3824, 3842, 3860, 3878, 3896, 3914, 3932, 3950, 3968, 3986, 4005, 4023, 4041, 4060,
    4078, 4096, 4115, 4134, 4152, 4171, 4189, 4208, 4227, 4246, 4265, 4283, 4302, 4321, 4340,
    4359, 4379, 4398, 4417, 4436, 4455, 4475, 4494, 4513, 4533, 4552, 4572, 4591, 4611, 4631,
    4650, 4670, 4690, 4710, 4729, 4749, 4769, 4789, 4809, 4829, 4849, 4870, 4890, 4910, 4930,
    4951, 4971, 4991, 5012, 5032, 5053, 5073, 5094, 5115, 5135, 5156, 5177, 5198, 5218, 5239,
    5260, 5281, 5302, 5323, 5344, 5366, 5387, 5408, 5429, 5451, 5472, 5493, 5515, 5537, 5559,
    5580, 5603, 5625, 5647, 5669, 5692, 5715, 5738, 5760, 5783, 5807, 5830, 5853, 5877, 5901,
    5924, 5948, 5973, 5997, 6021, 6046, 6070, 6095, 6120, 6145, 6170, 6195, 6221, 6246, 6272,
    6298, 6324, 6350, 6376, 6403, 6429, 6456, 6483, 6510, 6537, 6564, 6592, 6619, 6647, 6675,
    6703, 6731, 6760, 6788, 6817, 6846, 6875, 6904, 6933, 6963, 6992, 7022, 7052, 7082, 7113,
    7143, 7174, 7205, 7235, 7267, 7298, 7329, 7361, 7393, 7425, 7457, 7489, 7522, 7555, 7588,
    7621, 7654, 7687, 7721, 7755, 7789, 7823, 7857, 7892, 7926, 7961, 7996, 8032, 8067, 8103,
    8139, 8175, 8211, 8248, 8284, 8321, 8358, 8396, 8433, 8471, 8509, 8547, 8585, 8624, 8663,
    8701, 8741, 8780, 8820, 8859, 8900, 8940, 8980, 9021, 9062, 9103, 9144, 9186, 9228, 9270,
    9312, 9355, 9397, 9440, 9484, 9527, 9571, 9615, 9659, 9703, 9748, 9793, 9838, 9883, 9929,
    9975, 10021, 10068, 10114, 10161, 10208, 10256, 10303, 10351, 10400, 10448, 10497, 10546,
    10595, 10645, 10695, 10745, 10795, 10846, 10897, 10948, 10999, 11051, 11103, 11155, 11208,
    11261, 11314, 11368, 11421, 11475, 11530, 11585, 11640, 11695, 11750, 11806, 11862, 11919,
    11976, 12033, 12090, 12148, 12206, 12264, 12323, 12382, 12442, 12501, 12561, 12622, 12682,
    12743, 12805, 12866, 12928, 12991, 13053, 13116, 13180, 13243, 13307, 13372, 13437, 13502,
    13567, 13633, 13699, 13766, 13833, 13900, 13968, 14036, 14104, 14173, 14242, 14312, 14382,
    14452, 14523, 14594, 14665, 14737, 14809, 14882, 14955, 15028, 15102, 15176, 15251, 15326,
    15402, 15478, 15554, 15631, 15708, 15785, 15863, 15942, 16021, 16100, 16180, 16260, 16340,
    16421, 16503, 16585, 16667, 16750, 16833, 16917, 17001, 17086, 17171, 17257, 17343, 17429,
    17516, 17604, 17692, 17780, 17869, 17959, 18048, 18139, 18230, 18321, 18413, 18505, 18598,
    18692, 18786, 18880, 18975, 19071, 19167, 19263, 19360, 19458, 19556, 19655, 19754, 19854,
    19954, 20055, 20156, 20258, 20361, 20464, 20567, 20671, 20776, 20882, 20988, 21094, 21201,
    21309, 21417, 21526, 21635, 21746, 21856, 21967, 22079, 22192, 22305, 22419, 22533, 22648,
    22764, 22880, 22997, 23114, 23232, 23351, 23471, 23591, 23712, 23833, 23955, 24078, 24201,
    24326, 24450, 24576, 24702, 24829, 24956, 25085, 25214, 25343, 25474, 25605, 25737, 25869,
    26003, 26137, 26271, 26407, 26543, 26680, 26818, 26956, 27095, 27235, 27376, 27518, 27660,
    27803, 27947, 28092, 28237, 28383, 28530, 28678, 28827, 28976, 29127, 29278, 29430, 29582,
    29736, 29890, 30046, 30202, 30359, 30517, 30676, 30835, 30996, 31157, 31319, 31482, 31647,
    31811, 31977, 32144, 32312, 32480, 32650, 32820, 32992, 33164, 33337, 33511, 33687, 33863,
    34040, 34218, 34397, 34577, 34758, 34940, 35123, 35307, 35492, 35678, 35865, 36053, 36242,
    36432, 36623, 36815, 37009, 37203, 37398, 37595, 37792, 37991, 38191, 38392, 38593, 38796,
    39001, 39206, 39412, 39620, 39828, 40038, 40249, 40461, 40674, 40889, 41104, 41321, 41539,
    41758, 41979, 42200, 42423, 42647, 42872, 43099, 43326, 43555, 43786, 44017, 44250, 44484,
    44719, 44956, 45194, 45433, 45673, 45915, 46158, 46403, 46648, 46896, 47144, 47394, 47645,
    47898, 48152, 48407, 48664, 48922, 49182, 49443, 49706, 49969, 50235, 50502, 50770, 51040,
    51311, 51584, 51858, 52134, 52411, 52689, 52970, 53252, 53535, 53820, 54106, 54394, 54684,
    54975, 55268, 55562, 55858, 56156, 56455, 56756, 57059, 57363, 57669, 57976, 58286, 58597,
    58909, 59224, 59540, 59858, 60177, 60498, 60822, 61146, 61473, 61801, 62132, 62464, 62798,
    63133, 63471, 63810, 64151, 64494, 64839, 65186, 65535]

/-- Display light of the perceptual quantizer, with 10000 cd/m² as the largest value. -/
def perceptualQuantizerTable : List UInt16 :=
  [0, 0, 0, 0, 0, 0, 0, 0, 0, 0, 0, 0, 0, 0, 0, 0, 0, 0, 0, 0, 0, 0, 0, 0, 0, 0, 0, 0, 0, 0,
    0, 0, 0, 0, 0, 0, 0, 0, 0, 0, 0, 0, 0, 0, 0, 0, 0, 0, 0, 0, 0, 0, 0, 0, 0, 0, 0, 1, 1, 1,
    1, 1, 1, 1, 1, 1, 1, 1, 1, 1, 1, 1, 1, 1, 1, 1, 1, 1, 1, 1, 1, 1, 1, 1, 1, 1, 1, 1, 1, 1,
    2, 2, 2, 2, 2, 2, 2, 2, 2, 2, 2, 2, 2, 2, 2, 2, 2, 2, 2, 3, 3, 3, 3, 3, 3, 3, 3, 3, 3, 3,
    3, 3, 3, 3, 4, 4, 4, 4, 4, 4, 4, 4, 4, 4, 4, 5, 5, 5, 5, 5, 5, 5, 5, 5, 5, 6, 6, 6, 6, 6,
    6, 6, 6, 7, 7, 7, 7, 7, 7, 7, 7, 8, 8, 8, 8, 8, 8, 8, 9, 9, 9, 9, 9, 9, 10, 10, 10, 10, 10,
    10, 11, 11, 11, 11, 11, 12, 12, 12, 12, 12, 13, 13, 13, 13, 13, 14, 14, 14, 14, 15, 15, 15,
    15, 16, 16, 16, 16, 17, 17, 17, 17, 18, 18, 18, 18, 19, 19, 19, 20, 20, 20, 20, 21, 21, 21,
    22, 22, 22, 23, 23, 23, 24, 24, 24, 25, 25, 26, 26, 26, 27, 27, 27, 28, 28, 29, 29, 29, 30,
    30, 31, 31, 32, 32, 33, 33, 33, 34, 34, 35, 35, 36, 36, 37, 37, 38, 38, 39, 39, 40, 40, 41,
    42, 42, 43, 43, 44, 44, 45, 46, 46, 47, 47, 48, 49, 49, 50, 51, 51, 52, 53, 53, 54, 55, 55,
    56, 57, 57, 58, 59, 60, 60, 61, 62, 63, 63, 64, 65, 66, 67, 68, 68, 69, 70, 71, 72, 73, 74,
    74, 75, 76, 77, 78, 79, 80, 81, 82, 83, 84, 85, 86, 87, 88, 89, 90, 91, 92, 94, 95, 96, 97,
    98, 99, 100, 102, 103, 104, 105, 106, 108, 109, 110, 111, 113, 114, 115, 117, 118, 119,
    121, 122, 124, 125, 126, 128, 129, 131, 132, 134, 135, 137, 138, 140, 141, 143, 145, 146,
    148, 150, 151, 153, 155, 156, 158, 160, 162, 163, 165, 167, 169, 171, 173, 175, 177, 178,
    180, 182, 184, 186, 188, 191, 193, 195, 197, 199, 201, 203, 205, 208, 210, 212, 214, 217,
    219, 221, 224, 226, 229, 231, 234, 236, 239, 241, 244, 246, 249, 252, 254, 257, 260, 262,
    265, 268, 271, 274, 276, 279, 282, 285, 288, 291, 294, 297, 300, 304, 307, 310, 313, 316,
    320, 323, 326, 330, 333, 337, 340, 343, 347, 351, 354, 358, 361, 365, 369, 373, 377, 380,
    384, 388, 392, 396, 400, 404, 408, 412, 417, 421, 425, 429, 434, 438, 442, 447, 451, 456,
    461, 465, 470, 475, 479, 484, 489, 494, 499, 504, 509, 514, 519, 524, 529, 535, 540, 545,
    551, 556, 562, 567, 573, 578, 584, 590, 596, 602, 607, 613, 620, 626, 632, 638, 644, 650,
    657, 663, 670, 676, 683, 690, 696, 703, 710, 717, 724, 731, 738, 745, 752, 760, 767, 774,
    782, 789, 797, 805, 813, 820, 828, 836, 844, 853, 861, 869, 877, 886, 894, 903, 911, 920,
    929, 938, 947, 956, 965, 974, 984, 993, 1002, 1012, 1022, 1031, 1041, 1051, 1061, 1071,
    1081, 1092, 1102, 1112, 1123, 1134, 1144, 1155, 1166, 1177, 1188, 1199, 1211, 1222, 1234,
    1245, 1257, 1269, 1281, 1293, 1305, 1317, 1330, 1342, 1355, 1368, 1380, 1393, 1406, 1420,
    1433, 1446, 1460, 1474, 1487, 1501, 1515, 1529, 1544, 1558, 1573, 1587, 1602, 1617, 1632,
    1647, 1663, 1678, 1694, 1709, 1725, 1741, 1757, 1774, 1790, 1807, 1824, 1840, 1858, 1875,
    1892, 1910, 1927, 1945, 1963, 1981, 2000, 2018, 2037, 2055, 2074, 2093, 2113, 2132, 2152,
    2172, 2192, 2212, 2232, 2253, 2274, 2294, 2316, 2337, 2358, 2380, 2402, 2424, 2446, 2469,
    2491, 2514, 2537, 2560, 2584, 2607, 2631, 2655, 2680, 2704, 2729, 2754, 2779, 2804, 2830,
    2856, 2882, 2908, 2935, 2962, 2989, 3016, 3043, 3071, 3099, 3127, 3156, 3185, 3214, 3243,
    3272, 3302, 3332, 3363, 3393, 3424, 3455, 3487, 3518, 3550, 3582, 3615, 3648, 3681, 3714,
    3748, 3782, 3816, 3851, 3886, 3921, 3957, 3993, 4029, 4065, 4102, 4139, 4177, 4215, 4253,
    4291, 4330, 4369, 4409, 4449, 4489, 4530, 4571, 4612, 4654, 4696, 4738, 4781, 4824, 4868,
    4912, 4956, 5001, 5046, 5091, 5137, 5184, 5231, 5278, 5325, 5374, 5422, 5471, 5520, 5570,
    5620, 5671, 5722, 5774, 5826, 5878, 5931, 5985, 6039, 6093, 6148, 6204, 6259, 6316, 6373,
    6430, 6488, 6547, 6605, 6665, 6725, 6786, 6847, 6908, 6971, 7033, 7097, 7161, 7225, 7290,
    7356, 7422, 7489, 7556, 7624, 7693, 7762, 7832, 7902, 7973, 8045, 8118, 8191, 8264, 8339,
    8414, 8489, 8566, 8643, 8721, 8799, 8878, 8958, 9039, 9120, 9202, 9285, 9369, 9453, 9538,
    9624, 9710, 9798, 9886, 9975, 10065, 10155, 10247, 10339, 10432, 10526, 10621, 10716,
    10813, 10910, 11008, 11108, 11208, 11309, 11410, 11513, 11617, 11721, 11827, 11934, 12041,
    12150, 12259, 12369, 12481, 12593, 12707, 12821, 12937, 13054, 13171, 13290, 13410, 13531,
    13653, 13776, 13900, 14025, 14152, 14280, 14408, 14539, 14670, 14802, 14936, 15071, 15207,
    15344, 15482, 15622, 15763, 15906, 16049, 16194, 16341, 16488, 16638, 16788, 16940, 17093,
    17247, 17403, 17561, 17720, 17880, 18042, 18205, 18370, 18536, 18704, 18873, 19044, 19217,
    19391, 19567, 19744, 19923, 20103, 20286, 20470, 20655, 20843, 21032, 21223, 21415, 21610,
    21806, 22004, 22204, 22405, 22609, 22814, 23022, 23231, 23442, 23655, 23871, 24088, 24307,
    24528, 24751, 24977, 25204, 25434, 25665, 25899, 26135, 26373, 26614, 26857, 27102, 27349,
    27598, 27850, 28105, 28361, 28620, 28882, 29146, 29412, 29681, 29952, 30226, 30503, 30782,
    31063, 31348, 31635, 31925, 32217, 32512, 32810, 33111, 33415, 33721, 34031, 34343, 34658,
    34976, 35298, 35622, 35949, 36280, 36613, 36950, 37290, 37633, 37979, 38329, 38682, 39038,
    39398, 39761, 40128, 40498, 40871, 41248, 41629, 42013, 42401, 42793, 43189, 43588, 43991,
    44398, 44808, 45223, 45642, 46064, 46491, 46922, 47357, 47796, 48239, 48687, 49139, 49595,
    50056, 50521, 50990, 51464, 51943, 52426, 52914, 53406, 53904, 54406, 54913, 55424, 55941,
    56463, 56990, 57522, 58059, 58601, 59149, 59702, 60260, 60824, 61393, 61967, 62548, 63134,
    63725, 64323, 64926, 65535]

end AvifStill.Color
