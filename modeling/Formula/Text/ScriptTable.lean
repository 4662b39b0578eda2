-- SUMMARY: The script of every code point, as a sorted table of runs, and the names of the scripts.

/-! # Script table

Each run is 256 times its first code point, plus the number of the script. The number of a script
is its place in the list of names; one past the last name stands for no script. -/

namespace Formula
namespace Script

/-- The long and the short name of each script. -/
def names : List (String × String) := [
  ("Adlam", "Adlm"), ("Ahom", "Ahom"), ("Anatolian_Hieroglyphs", "Hluw"), ("Arabic", "Arab"),
  ("Armenian", "Armn"), ("Avestan", "Avst"), ("Balinese", "Bali"), ("Bamum", "Bamu"),
  ("Bassa_Vah", "Bass"), ("Batak", "Batk"), ("Bengali", "Beng"), ("Beria_Erfe", "Berf"),
  ("Bhaiksuki", "Bhks"), ("Bopomofo", "Bopo"), ("Brahmi", "Brah"), ("Braille", "Brai"),
  ("Buginese", "Bugi"), ("Buhid", "Buhd"), ("Canadian_Aboriginal", "Cans"), ("Carian", "Cari"),
  ("Caucasian_Albanian", "Aghb"), ("Chakma", "Cakm"), ("Cham", "Cham"), ("Cherokee", "Cher"),
  ("Chorasmian", "Chrs"), ("Common", "Zyyy"), ("Coptic", "Copt"), ("Cuneiform", "Xsux"),
  ("Cypriot", "Cprt"), ("Cypro_Minoan", "Cpmn"), ("Cyrillic", "Cyrl"), ("Deseret", "Dsrt"),
  ("Devanagari", "Deva"), ("Dives_Akuru", "Diak"), ("Dogra", "Dogr"), ("Duployan", "Dupl"),
  ("Egyptian_Hieroglyphs", "Egyp"), ("Elbasan", "Elba"), ("Elymaic", "Elym"), ("Ethiopic", "Ethi"),
  ("Garay", "Gara"), ("Georgian", "Geor"), ("Glagolitic", "Glag"), ("Gothic", "Goth"),
  ("Grantha", "Gran"), ("Greek", "Grek"), ("Gujarati", "Gujr"), ("Gunjala_Gondi", "Gong"),
  ("Gurmukhi", "Guru"), ("Gurung_Khema", "Gukh"), ("Han", "Hani"), ("Hangul", "Hang"),
  ("Hanifi_Rohingya", "Rohg"), ("Hanunoo", "Hano"), ("Hatran", "Hatr"), ("Hebrew", "Hebr"),
  ("Hiragana", "Hira"), ("Imperial_Aramaic", "Armi"), ("Inherited", "Zinh"),
  ("Inscriptional_Pahlavi", "Phli"), ("Inscriptional_Parthian", "Prti"), ("Javanese", "Java"),
  ("Kaithi", "Kthi"), ("Kannada", "Knda"), ("Katakana", "Kana"), ("Kawi", "Kawi"),
  ("Kayah_Li", "Kali"), ("Kharoshthi", "Khar"), ("Khitan_Small_Script", "Kits"), ("Khmer", "Khmr"),
  ("Khojki", "Khoj"), ("Khudawadi", "Sind"), ("Kirat_Rai", "Krai"), ("Lao", "Laoo"),
  ("Latin", "Latn"), ("Lepcha", "Lepc"), ("Limbu", "Limb"), ("Linear_A", "Lina"),
  ("Linear_B", "Linb"), ("Lisu", "Lisu"), ("Lycian", "Lyci"), ("Lydian", "Lydi"),
  ("Mahajani", "Mahj"), ("Makasar", "Maka"), ("Malayalam", "Mlym"), ("Mandaic", "Mand"),
  ("Manichaean", "Mani"), ("Marchen", "Marc"), ("Masaram_Gondi", "Gonm"), ("Medefaidrin", "Medf"),
  ("Meetei_Mayek", "Mtei"), ("Mende_Kikakui", "Mend"), ("Meroitic_Cursive", "Merc"),
  ("Meroitic_Hieroglyphs", "Mero"), ("Miao", "Plrd"), ("Modi", "Modi"), ("Mongolian", "Mong"),
  ("Mro", "Mroo"), ("Multani", "Mult"), ("Myanmar", "Mymr"), ("Nabataean", "Nbat"),
  ("Nag_Mundari", "Nagm"), ("Nandinagari", "Nand"), ("New_Tai_Lue", "Talu"), ("Newa", "Newa"),
  ("Nko", "Nkoo"), ("Nushu", "Nshu"), ("Nyiakeng_Puachue_Hmong", "Hmnp"), ("Ogham", "Ogam"),
  ("Ol_Chiki", "Olck"), ("Ol_Onal", "Onao"), ("Old_Hungarian", "Hung"), ("Old_Italic", "Ital"),
  ("Old_North_Arabian", "Narb"), ("Old_Permic", "Perm"), ("Old_Persian", "Xpeo"),
  ("Old_Sogdian", "Sogo"), ("Old_South_Arabian", "Sarb"), ("Old_Turkic", "Orkh"),
  ("Old_Uyghur", "Ougr"), ("Oriya", "Orya"), ("Osage", "Osge"), ("Osmanya", "Osma"),
  ("Pahawh_Hmong", "Hmng"), ("Palmyrene", "Palm"), ("Pau_Cin_Hau", "Pauc"), ("Phags_Pa", "Phag"),
  ("Phoenician", "Phnx"), ("Psalter_Pahlavi", "Phlp"), ("Rejang", "Rjng"), ("Runic", "Runr"),
  ("Samaritan", "Samr"), ("Saurashtra", "Saur"), ("Sharada", "Shrd"), ("Shavian", "Shaw"),
  ("Siddham", "Sidd"), ("Sidetic", "Sidt"), ("SignWriting", "Sgnw"), ("Sinhala", "Sinh"),
  ("Sogdian", "Sogd"), ("Sora_Sompeng", "Sora"), ("Soyombo", "Soyo"), ("Sundanese", "Sund"),
  ("Sunuwar", "Sunu"), ("Syloti_Nagri", "Sylo"), ("Syriac", "Syrc"), ("Tagalog", "Tglg"),
  ("Tagbanwa", "Tagb"), ("Tai_Le", "Tale"), ("Tai_Tham", "Lana"), ("Tai_Viet", "Tavt"),
  ("Tai_Yo", "Tayo"), ("Takri", "Takr"), ("Tamil", "Taml"), ("Tangsa", "Tnsa"), ("Tangut", "Tang"),
  ("Telugu", "Telu"), ("Thaana", "Thaa"), ("Thai", "Thai"), ("Tibetan", "Tibt"),
  ("Tifinagh", "Tfng"), ("Tirhuta", "Tirh"), ("Todhri", "Todr"), ("Tolong_Siki", "Tols"),
  ("Toto", "Toto"), ("Tulu_Tigalari", "Tutg"), ("Ugaritic", "Ugar"), ("Vai", "Vaii"),
  ("Vithkuqi", "Vith"), ("Wancho", "Wcho"), ("Warang_Citi", "Wara"), ("Yezidi", "Yezi"),
  ("Yi", "Yiii"), ("Zanabazar_Square", "Zanb")]

def runs : Array Nat := #[
  25, 16714, 23321, 24906, 31513, 43594, 43801, 47690, 47897, 49226, 55065, 55370, 63257, 63562,
  178457, 188490, 189721, 190989, 191513, 196666, 225325, 226329, 226605, 227502, 227885, 228889,
  229165, 229550, 230445, 230681, 230957, 231193, 231469, 232366, 232493, 232878, 233005, 238254,
  238381, 254490, 258093, 262174, 296250, 296734, 340142, 340228, 350126, 350468, 363438, 363780,
  364718, 364855, 379054, 380983, 388014, 388919, 390574, 393219, 394521, 394755, 396313, 396547,
  400153, 400387, 401177, 401411, 409625, 409859, 412474, 415235, 421946, 422147, 449817, 450051,
  458897, 462510, 462737, 478126, 478609, 479235, 491677, 504494, 508009, 523182, 523625, 524419,
  536238, 536707, 540590, 540757, 548014, 548437, 548782, 549009, 551854, 552963, 561838, 562947,
  582169, 582403, 589856, 610618, 611616, 615449, 615968, 622602, 623790, 623882, 626094, 626442,
  627118, 627466, 633262, 633354, 635310, 635402, 635822, 636426, 637614, 637962, 640430, 640778,
  641454, 641802, 642990, 644874, 645294, 646154, 646830, 646922, 648366, 648714, 655278, 655664,
  656558, 656688, 658350, 659248, 659886, 660272, 666030, 666160, 668078, 668208, 668846, 668976,
  669614, 669744, 670382, 670768, 671150, 671280, 672686, 673584, 674222, 674608, 675502, 676144,
  676526, 678192, 679342, 679472, 679854, 681520, 685998, 688430, 689326, 689454, 691886, 692014,
  692910, 693038, 698798, 698926, 700846, 700974, 701614, 701742, 703150, 703534, 706222, 706350,
  707246, 707374, 708270, 708654, 709038, 712750, 713902, 714286, 717486, 719150, 721070, 721272,
  722094, 722296, 724398, 724856, 725422, 725880, 731566, 731768, 733614, 733816, 734382, 734584,
  735918, 736376, 738734, 739192, 739758, 740216, 741038, 742776, 743598, 744568, 745134, 745336,
  746670, 747128, 751790, 754329, 754862, 755097, 756654, 757401, 758190, 758425, 759470, 760217,
  760750, 760985, 761262, 761497, 762030, 762777, 763310, 764057, 764846, 765593, 768686, 769689,
  770990, 771737, 772526, 772761, 773806, 774297, 774574, 776089, 776366, 779929, 785326, 786588,
  789934, 790172, 790958, 791196, 797102, 797340, 801454, 801948, 804270, 804508, 805294, 805532,
  806574, 808348, 808878, 809116, 809902, 810140, 810670, 811164, 812206, 812700, 815278, 817052,
  819263, 822702, 822847, 823726, 823871, 829870, 830015, 832686, 832831, 834222, 834623, 837038,
  837183, 838062, 838207, 839342, 841023, 841646, 842815, 843694, 843839, 844974, 845375, 848046,
  848191, 849070, 852052, 855470, 855636, 856494, 856660, 869806, 869972, 870830, 870996, 872622,
  873556, 877742, 878164, 884910, 885130, 885934, 886154, 890798, 891530, 897710, 897930, 900270,
  900490, 900782, 901258, 903086, 903818, 904110, 905098, 906670, 906890, 907182, 907402, 909486,
  910986, 913582, 914058, 914862, 917918, 932782, 933657, 934046, 941230, 950601, 951214, 951369,
  951726, 951881, 953262, 953417, 959662, 959817, 960174, 960329, 966318, 966729, 968110, 968265,
  968622, 968777, 970670, 970825, 973486, 973897, 975022, 983199, 1001646, 1001887, 1011118,
  1012127, 1022126, 1022367, 1031598, 1031839, 1035694, 1035935, 1037593, 1038751, 1039278,
  1048675, 1089577, 1099438, 1099561, 1099950, 1101097, 1101486, 1101865, 1112857, 1113129,
  1114163, 1179687, 1198510, 1198631, 1199790, 1200167, 1202094, 1202215, 1202606, 1202727,
  1203886, 1204263, 1214894, 1215015, 1216174, 1216551, 1225134, 1225255, 1226414, 1226791,
  1228718, 1228839, 1229230, 1229351, 1230510, 1230887, 1234862, 1234983, 1249710, 1249831,
  1250990, 1251367, 1268654, 1269031, 1277358, 1277991, 1284782, 1286167, 1308334, 1308695,
  1310382, 1310738, 1474668, 1482158, 1482882, 1501977, 1502850, 1505710, 1507474, 1513134,
  1515410, 1515573, 1520921, 1521582, 1523729, 1529006, 1532051, 1535406, 1535635, 1536430,
  1536659, 1537198, 1540165, 1564334, 1564741, 1567406, 1568837, 1571502, 1572960, 1573401,
  1573984, 1574169, 1574496, 1579694, 1581152, 1604014, 1605728, 1616814, 1617938, 1636014,
  1638476, 1646510, 1646668, 1649838, 1650764, 1653934, 1654860, 1655214, 1655884, 1659028,
  1666734, 1667220, 1668526, 1671271, 1682606, 1683559, 1690286, 1691751, 1694638, 1695335,
  1695813, 1703952, 1711278, 1711632, 1712277, 1728430, 1728661, 1736110, 1736597, 1739438,
  1740949, 1743534, 1745045, 1748654, 1749050, 1760942, 1761338, 1764526, 1769478, 1789358,
  1789446, 1802382, 1818633, 1832110, 1833993, 1835083, 1849518, 1850187, 1854126, 1854795,
  1855597, 1867806, 1870766, 1871913, 1883054, 1883433, 1884302, 1886382, 1888314, 1889049,
  1889338, 1892633, 1892922, 1894681, 1895738, 1895961, 1897530, 1897753, 1898554, 1899033,
  1899438, 1900618, 1910317, 1911582, 1911882, 1924397, 1925706, 1926701, 1928010, 1931294,
  1931594, 1949485, 1949754, 1966154, 2031661, 2037422, 2037805, 2039470, 2039853, 2049710,
  2050093, 2051758, 2052141, 2054318, 2054445, 2054830, 2054957, 2055342, 2055469, 2055854,
  2055981, 2064046, 2064429, 2078126, 2078253, 2082222, 2082349, 2086062, 2086445, 2088110,
  2088237, 2093230, 2093613, 2094510, 2094637, 2097070, 2097177, 2100282, 2100761, 2123182,
  2123289, 2126154, 2126510, 2126873, 2129738, 2129945, 2133934, 2134090, 2137518, 2138137,
  2146990, 2150458, 2159022, 2162713, 2172461, 2172697, 2173514, 2173977, 2175562, 2175769,
  2182730, 2182937, 2187338, 2197785, 2198702, 2199577, 2370222, 2375705, 2378670, 2383897,
  2621455, 2687001, 2847918, 2848281, 2883626, 2908234, 2916378, 2946222, 2947354, 2949161,
  2959022, 2959145, 2959534, 2960681, 2961070, 2961568, 2975918, 2977696, 2978222, 2981792,
  2981927, 2987950, 2990119, 2992046, 2992167, 2994094, 2994215, 2996142, 2996263, 2998190,
  2998311, 3000238, 3000359, 3002286, 3002407, 3004334, 3004455, 3006382, 3006494, 3014681,
  3038894, 3047474, 3054254, 3054386, 3077294, 3080242, 3135150, 3141657, 3147058, 3147289,
  3147570, 3147801, 3154226, 3156538, 3157555, 3158041, 3160114, 3161113, 3162286, 3162424,
  3184558, 3184954, 3185433, 3185976, 3186713, 3187008, 3210009, 3210560, 3211438, 3212557,
  3223726, 3223859, 3248046, 3248153, 3252237, 3260441, 3270318, 3272473, 3272768, 3276851,
  3284910, 3285017, 3301427, 3309337, 3330112, 3342105, 3342400, 3364889, 3407922, 5095449,
  5111858, 10485932, 10784174, 10784940, 10799022, 10801231, 10813607, 10890414, 10895390,
  10919943, 10942638, 10944537, 10953290, 10979353, 10980170, 11001262, 11006282, 11010192,
  11021742, 11022361, 11025070, 11026558, 11040942, 11042948, 11060910, 11062916, 11066030,
  11067424, 11075650, 11087385, 11087682, 11088001, 11097262, 11100033, 11100211, 11107758,
  11108413, 11128494, 11128601, 11128893, 11131566, 11132477, 11133027, 11141038, 11141142,
  11155374, 11157526, 11161262, 11161622, 11164334, 11164694, 11165795, 11174038, 11191214,
  11197334, 11198554, 11204526, 11206951, 11208622, 11208999, 11210670, 11211047, 11212718,
  11214887, 11216814, 11216935, 11218862, 11219018, 11229977, 11230282, 11232557, 11232842,
  11233817, 11234478, 11235351, 11255898, 11267758, 11268186, 11270830, 11272243, 14132398,
  14135347, 14141358, 14142259, 14154926, 16318514, 16412334, 16412722, 16439982, 16449610,
  16451502, 16454404, 16455854, 16457015, 16463790, 16463927, 16465326, 16465463, 16465838,
  16465975, 16466606, 16466743, 16467374, 16467511, 16470019, 16596505, 16596995, 16634030,
  16642051, 16646202, 16650265, 16652974, 16654394, 16657950, 16658457, 16667566, 16667673,
  16672686, 16672793, 16673966, 16674819, 16676270, 16676355, 16711086, 16711449, 16711854,
  16711961, 16720202, 16726809, 16728394, 16735001, 16737856, 16740377, 16740672, 16752153,
  16752691, 16760750, 16761395, 16763054, 16763443, 16765102, 16765491, 16767150, 16767539,
  16768430, 16769049, 16770990, 16771097, 16773038, 16775449, 16776878, 16777294, 16780462,
  16780622, 16787374, 16787534, 16792494, 16792654, 16793262, 16793422, 16797358, 16797774,
  16801454, 16810062, 16841646, 16842777, 16843694, 16844569, 16856238, 16856857, 16859181,
  16879534, 16879641, 16883118, 16883757, 16884142, 16896025, 16907578, 16907950, 16941136,
  16948654, 16949267, 16961966, 16965690, 16965913, 16972974, 16973936, 16983214, 16985456,
  16986155, 16993198, 16994418, 17005486, 17006758, 17014446, 17014694, 17014899, 17024174,
  17025139, 17028782, 17039391, 17059974, 17072250, 17079982, 17080442, 17083054, 17084537,
  17093806, 17094777, 17104046, 17104933, 17115310, 17117204, 17130670, 17133332, 17133736,
  17136558, 17136808, 17140654, 17140904, 17142702, 17142952, 17143470, 17143720, 17146542,
  17146792, 17150638, 17150888, 17152686, 17152936, 17153454, 17154210, 17167534, 17170509,
  17250222, 17252429, 17258158, 17260621, 17262766, 17268810, 17270446, 17270602, 17281454,
  17281610, 17284014, 17301532, 17303214, 17303580, 17303982, 17304092, 17315502, 17315612,
  17316270, 17316892, 17317294, 17317660, 17317945, 17323694, 17323833, 17326204, 17334372,
  17342382, 17344356, 17346734, 17358902, 17363886, 17364022, 17364654, 17365814, 17367167,
  17374382, 17375103, 17375313, 17382062, 17383249, 17383560, 17390254, 17399901, 17408092,
  17414318, 17415260, 17420462, 17420892, 17432643, 17433774, 17433923, 17434542, 17435715,
  17437870, 17438019, 17438894, 17439043, 17446574, 17446979, 17447854, 17448771, 17451438,
  17453123, 17455534, 17457269, 17465457, 17473710, 17481814, 17491886, 17492822, 17495982,
  17498117, 17512110, 17512709, 17514556, 17520302, 17520700, 17522747, 17527726, 17528891,
  17531008, 17535662, 17537408, 17538478, 17541504, 17543342, 17563766, 17582510, 17596527,
  17609646, 17612911, 17626030, 17627759, 17629236, 17639598, 17641524, 17644206, 17645608,
  17655470, 17656104, 17663662, 17665576, 17666222, 17719299, 17727406, 17727659, 17738414,
  17738667, 17739438, 17739947, 17740462, 17744387, 17746094, 17747971, 17750446, 17758723,
  17760372, 17770670, 17772683, 17783470, 17789047, 17795758, 17805336, 17812654, 17817638,
  17823662, 17825806, 17845934, 17846798, 17856174, 17858318, 17858622, 17875886, 17878334,
  17878702, 17879180, 17885614, 17887372, 17889966, 17891349, 17905070, 17905173, 17909934,
  17911890, 17921966, 17924229, 17948846, 17949066, 17954222, 17956934, 17961646, 17961798,
  17973934, 17989730, 17991598, 17991778, 17992110, 17992290, 17993390, 17993570, 17997486,
  17997666, 18000558, 18001991, 18017198, 18018375, 18021038, 18022444, 18023598, 18023724,
  18025902, 18026284, 18026926, 18027308, 18033070, 18033196, 18035118, 18035244, 18035886,
  18036012, 18037422, 18037562, 18037804, 18040238, 18040620, 18041262, 18041644, 18042542,
  18042924, 18043310, 18044716, 18045102, 18046252, 18048174, 18048556, 18050478, 18051116,
  18052526, 18055333, 18057902, 18058149, 18058414, 18058917, 18059182, 18059429, 18069166,
  18069413, 18071982, 18072229, 18072494, 18072997, 18073262, 18073509, 18074542, 18074789,
  18077358, 18077605, 18078126, 18080165, 18080686, 18088040, 18111662, 18111848, 18113198,
  18120865, 18139310, 18141345, 18143918, 18186375, 18200238, 18200711, 18210478, 18219103,
  18236846, 18239583, 18242222, 18243680, 18247086, 18251928, 18266798, 18268312, 18270894,
  18272355, 18277550, 18284545, 18291630, 18291969, 18295982, 18296833, 18302894, 18350114,
  18365614, 18391210, 18412462, 18415530, 18415649, 18417582, 18417953, 18418350, 18418721,
  18420910, 18421025, 18421678, 18421793, 18429614, 18429729, 18430382, 18430753, 18433966,
  18436129, 18438830, 18456678, 18458798, 18459238, 18471086, 18471526, 18474414, 18481325,
  18499758, 18501773, 18523054, 18526226, 18530429, 18545070, 18546720, 18549422, 18571397,
  18573486, 18595983, 18604718, 18608271, 18610862, 18612236, 18614702, 18614796, 18626478,
  18626572, 18630318, 18632716, 18640302, 18640983, 18649262, 18649687, 18655406, 18655575,
  18659246, 18677848, 18679726, 18679896, 18680494, 18680664, 18692014, 18692696, 18693038,
  18693208, 18693806, 18693976, 18696366, 18698328, 18700974, 18702383, 18704046, 18704175,
  18704814, 18704943, 18714542, 18714671, 18715310, 18715439, 18717102, 18718767, 18721454,
  18722979, 18734254, 18735267, 18737838, 18800723, 18807214, 18808897, 18813358, 18813505,
  18824110, 18824769, 18832302, 18853967, 18854318, 18858137, 18870958, 18874265, 18874395,
  19110574, 19136539, 19165102, 19165211, 19166638, 19169307, 19219630, 19894301, 19919790,
  19922980, 20207278, 20209700, 21232558, 21233666, 21383086, 23134257, 23149230, 23592967,
  23738798, 23740513, 23748526, 23748705, 23751342, 23752289, 23752858, 23773102, 23773338,
  23775918, 23777288, 23785134, 23785480, 23787182, 23789691, 23807662, 23810171, 23812782,
  23812987, 23814830, 23815035, 23820462, 23821691, 23826606, 23937096, 23952046, 24002649,
  24026030, 24027147, 24033710, 24034059, 24040622, 24051806, 24071086, 24072030, 24086702,
  24088414, 24092846, 24109211, 24109418, 24109618, 24110148, 24110510, 24113202, 24115118,
  24117403, 25886788, 26007214, 26017604, 26017947, 26025902, 26050715, 26080174, 28307520,
  28308654, 28308800, 28310702, 28310848, 28311470, 28311616, 28311864, 28385344, 28386222,
  28389944, 28390318, 28397624, 28398510, 28398912, 28399278, 28402752, 28403886, 28405866,
  28507310, 29098019, 29125550, 29126691, 29130158, 29130787, 29133230, 29134883, 29137582,
  29137955, 29138969, 29140142, 30146585, 30211502, 30212121, 30323886, 30325273, 30331310,
  30335001, 30339502, 30343226, 30355118, 30355514, 30361518, 30363673, 30393518, 30408729,
  30471854, 30474265, 30484398, 30484761, 30500666, 30501401, 30505786, 30507801, 30508346,
  30510105, 30517818, 30518809, 30534574, 30539821, 30557870, 30588953, 30594222, 30597145,
  30602414, 30605337, 30627758, 30629913, 30636462, 30670873, 30692782, 30692889, 30711214,
  30711321, 30711982, 30712345, 30712750, 30713113, 30713774, 30714137, 30715310, 30715417,
  30718638, 30718745, 30719150, 30719257, 30721198, 30721305, 30738094, 30738201, 30739374,
  30739737, 30741934, 30742041, 30743982, 30744089, 30751406, 30751513, 30752686, 30752793,
  30754222, 30754329, 30754734, 30755353, 30757294, 30757401, 30844590, 30844953, 30919854,
  30920217, 30933129, 31100078, 31103881, 31105198, 31105417, 31109294, 31391818, 31399854,
  31401290, 31402926, 31457322, 31459246, 31459370, 31463854, 31464234, 31466158, 31466282,
  31466926, 31467050, 31468462, 31469598, 31485614, 31493918, 31494318, 31522923, 31534510,
  31535211, 31538862, 31539307, 31541934, 31542891, 31543470, 31625380, 31633326, 31637673,
  31652526, 31653801, 31654062, 31772773, 31783598, 31838318, 31849390, 31850350, 31850670,
  31899799, 31907758, 31907991, 31913646, 31915671, 31916206, 31973415, 31975342, 31975463,
  31976622, 31976743, 31977390, 31977511, 31981486, 31981659, 32032174, 32032603, 32036782,
  32047104, 32066734, 32067584, 32070318, 32071168, 32071854, 32272665, 32290222, 32309529,
  32325294, 32374787, 32375982, 32376067, 32383150, 32383235, 32383918, 32384003, 32384430,
  32384771, 32385198, 32385283, 32388014, 32388099, 32389294, 32389379, 32389806, 32389891,
  32390318, 32391683, 32392110, 32392963, 32393390, 32393475, 32393902, 32393987, 32394414,
  32394499, 32395438, 32395523, 32396206, 32396291, 32396718, 32397059, 32397486, 32397571,
  32397998, 32398083, 32398510, 32398595, 32399022, 32399107, 32399534, 32399619, 32400302,
  32400387, 32400814, 32401155, 32402350, 32402435, 32404398, 32404483, 32405678, 32405763,
  32406958, 32407043, 32407470, 32407555, 32410286, 32410371, 32414894, 32416003, 32416942,
  32417027, 32418478, 32418563, 32423086, 32436227, 32436910, 32505881, 32517294, 32518169,
  32543918, 32546841, 32550830, 32551193, 32555182, 32555289, 32559278, 32559385, 32569006,
  32571417, 32616110, 32630297, 32636984, 32637209, 32637870, 32641049, 32652462, 32653337,
  32655790, 32657433, 32658094, 32661529, 32663214, 32702489, 32954798, 32955417, 32959918,
  32960537, 32964014, 32964633, 33020590, 33021977, 33025198, 33026073, 33026478, 33030169,
  33033390, 33034265, 33048750, 33050649, 33053358, 33054745, 33065134, 33067033, 33074862,
  33075225, 33078446, 33079321, 33079982, 33083417, 33085870, 33095705, 33183918, 33185817,
  33189550, 33189913, 33193390, 33194009, 33196974, 33197593, 33212334, 33212441, 33212846,
  33213721, 33217966, 33218329, 33221550, 33222425, 33225134, 33226777, 33264558, 33264665,
  33291182, 33554482, 44490926, 44498994, 45620910, 45621298, 47099566, 47099954, 49013166,
  49016882, 49176238, 49807410, 49946286, 50331698, 51596206, 51597362, 53770926, 234881305,
  234881710, 234889241, 234913966, 234946618, 235008174]

end Script
end Formula
