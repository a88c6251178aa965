import RemoteShell.Text.Blank

/-!
# Characters that stand for ASCII in host names

The compatibility processing of international domain names (UTS 46, Unicode 17) replaces many
characters.  The tables hold the replacements with at least one ASCII character in them; all others
lead from one character that may stand in a host name to others that may.  `isMapped` holds of all that
are replaced.
-/

namespace RemoteShell.Url

/-- Rows of characters that stand for a row of ASCII characters: the first character, what it stands
for, and the length of the row. -/
def mappedRows : List (Nat × Nat × Nat) :=
  [(0xA0, 0x20, 1), (0xAA, 0x61, 1), (0xB2, 0x32, 2), (0xB9, 0x31, 1), (0xBA, 0x6F, 1),
   (0x17F, 0x73, 1), (0x2B0, 0x68, 1), (0x2B2, 0x6A, 1), (0x2B3, 0x72, 1), (0x2B7, 0x77, 1),
   (0x2B8, 0x79, 1), (0x2E1, 0x6C, 1), (0x2E2, 0x73, 1), (0x2E3, 0x78, 1), (0x37E, 0x3B, 1),
   (0x1D2C, 0x61, 1), (0x1D2E, 0x62, 1), (0x1D30, 0x64, 2), (0x1D33, 0x67, 8), (0x1D3C, 0x6F, 1),
   (0x1D3E, 0x70, 1), (0x1D3F, 0x72, 1), (0x1D40, 0x74, 2), (0x1D42, 0x77, 1), (0x1D43, 0x61, 1),
   (0x1D47, 0x62, 1), (0x1D48, 0x64, 2), (0x1D4D, 0x67, 1), (0x1D4F, 0x6B, 1), (0x1D50, 0x6D, 1),
   (0x1D52, 0x6F, 1), (0x1D56, 0x70, 1), (0x1D57, 0x74, 2), (0x1D5B, 0x76, 1), (0x1D62, 0x69, 1),
   (0x1D63, 0x72, 1), (0x1D64, 0x75, 2), (0x1D9C, 0x63, 1), (0x1DA0, 0x66, 1), (0x1DBB, 0x7A, 1),
   (0x1FEF, 0x60, 1), (0x2000, 0x20, 1), (0x2001, 0x20, 1), (0x2002, 0x20, 1), (0x2003, 0x20, 1),
   (0x2004, 0x20, 1), (0x2005, 0x20, 1), (0x2006, 0x20, 1), (0x2007, 0x20, 1), (0x2008, 0x20, 1),
   (0x2009, 0x20, 1), (0x200A, 0x20, 1), (0x202F, 0x20, 1), (0x205F, 0x20, 1), (0x2070, 0x30, 1),
   (0x2071, 0x69, 1), (0x2074, 0x34, 6), (0x207A, 0x2B, 1), (0x207C, 0x3D, 1), (0x207D, 0x28, 2),
   (0x207F, 0x6E, 1), (0x2080, 0x30, 10), (0x208A, 0x2B, 1), (0x208C, 0x3D, 1), (0x208D, 0x28, 2),
   (0x2090, 0x61, 1), (0x2091, 0x65, 1), (0x2092, 0x6F, 1), (0x2093, 0x78, 1), (0x2095, 0x68, 1),
   (0x2096, 0x6B, 4), (0x209A, 0x70, 1), (0x209B, 0x73, 2), (0x2102, 0x63, 1), (0x210A, 0x67, 2),
   (0x210C, 0x68, 1), (0x210D, 0x68, 1), (0x210E, 0x68, 1), (0x2110, 0x69, 1), (0x2111, 0x69, 1),
   (0x2112, 0x6C, 1), (0x2113, 0x6C, 1), (0x2115, 0x6E, 1), (0x2119, 0x70, 3), (0x211C, 0x72, 1),
   (0x211D, 0x72, 1), (0x2124, 0x7A, 1), (0x2128, 0x7A, 1), (0x212A, 0x6B, 1), (0x212C, 0x62, 2),
   (0x212F, 0x65, 1), (0x2130, 0x65, 2), (0x2133, 0x6D, 1), (0x2134, 0x6F, 1), (0x2139, 0x69, 1),
   (0x2145, 0x64, 1), (0x2146, 0x64, 2), (0x2148, 0x69, 2), (0x2160, 0x69, 1), (0x2164, 0x76, 1),
   (0x2169, 0x78, 1), (0x216C, 0x6C, 1), (0x216D, 0x63, 2), (0x216F, 0x6D, 1), (0x2170, 0x69, 1),
   (0x2174, 0x76, 1), (0x2179, 0x78, 1), (0x217C, 0x6C, 1), (0x217D, 0x63, 2), (0x217F, 0x6D, 1),
   (0x2460, 0x31, 9), (0x24B6, 0x61, 26), (0x24D0, 0x61, 26), (0x24EA, 0x30, 1), (0x2C7C, 0x6A, 1),
   (0x2C7D, 0x76, 1), (0x3000, 0x20, 1), (0x3002, 0x2E, 1), (0xA7F1, 0x73, 1), (0xA7F2, 0x63, 1),
   (0xA7F3, 0x66, 1), (0xA7F4, 0x71, 1), (0xFB29, 0x2B, 1), (0xFE10, 0x2C, 1), (0xFE13, 0x3A, 2),
   (0xFE15, 0x21, 1), (0xFE16, 0x3F, 1), (0xFE33, 0x5F, 1), (0xFE34, 0x5F, 1), (0xFE35, 0x28, 2),
   (0xFE37, 0x7B, 1), (0xFE38, 0x7D, 1), (0xFE47, 0x5B, 1), (0xFE48, 0x5D, 1), (0xFE4D, 0x5F, 1),
   (0xFE4E, 0x5F, 1), (0xFE4F, 0x5F, 1), (0xFE50, 0x2C, 1), (0xFE54, 0x3B, 1), (0xFE55, 0x3A, 1),
   (0xFE56, 0x3F, 1), (0xFE57, 0x21, 1), (0xFE59, 0x28, 2), (0xFE5B, 0x7B, 1), (0xFE5C, 0x7D, 1),
   (0xFE5F, 0x23, 1), (0xFE60, 0x26, 1), (0xFE61, 0x2A, 2), (0xFE63, 0x2D, 1), (0xFE64, 0x3C, 1),
   (0xFE65, 0x3E, 1), (0xFE66, 0x3D, 1), (0xFE68, 0x5C, 1), (0xFE69, 0x24, 2), (0xFE6B, 0x40, 1),
   (0xFF01, 0x21, 32), (0xFF21, 0x61, 26), (0xFF3B, 0x5B, 36), (0xFF61, 0x2E, 1),
   (0x107A5, 0x71, 1), (0x1CCD6, 0x61, 26), (0x1CCF0, 0x30, 10), (0x1D400, 0x61, 26),
   (0x1D41A, 0x61, 26), (0x1D434, 0x61, 26), (0x1D44E, 0x61, 7), (0x1D456, 0x69, 18),
   (0x1D468, 0x61, 26), (0x1D482, 0x61, 26), (0x1D49C, 0x61, 1), (0x1D49E, 0x63, 2),
   (0x1D4A2, 0x67, 1), (0x1D4A5, 0x6A, 2), (0x1D4A9, 0x6E, 4), (0x1D4AE, 0x73, 8),
   (0x1D4B6, 0x61, 4), (0x1D4BB, 0x66, 1), (0x1D4BD, 0x68, 7), (0x1D4C5, 0x70, 11),
   (0x1D4D0, 0x61, 26), (0x1D4EA, 0x61, 26), (0x1D504, 0x61, 2), (0x1D507, 0x64, 4),
   (0x1D50D, 0x6A, 8), (0x1D516, 0x73, 7), (0x1D51E, 0x61, 26), (0x1D538, 0x61, 2),
   (0x1D53B, 0x64, 4), (0x1D540, 0x69, 5), (0x1D546, 0x6F, 1), (0x1D54A, 0x73, 7),
   (0x1D552, 0x61, 26), (0x1D56C, 0x61, 26), (0x1D586, 0x61, 26), (0x1D5A0, 0x61, 26),
   (0x1D5BA, 0x61, 26), (0x1D5D4, 0x61, 26), (0x1D5EE, 0x61, 26), (0x1D608, 0x61, 26),
   (0x1D622, 0x61, 26), (0x1D63C, 0x61, 26), (0x1D656, 0x61, 26), (0x1D670, 0x61, 26),
   (0x1D68A, 0x61, 26), (0x1D7CE, 0x30, 10), (0x1D7D8, 0x30, 10), (0x1D7E2, 0x30, 10),
   (0x1D7EC, 0x30, 10), (0x1D7F6, 0x30, 10), (0x1F12B, 0x63, 1), (0x1F12C, 0x72, 1),
   (0x1F130, 0x61, 26), (0x1FBF0, 0x30, 10)]

/-- Characters that stand for more than one character. -/
def mappedTexts : List (Nat × String) :=
  [(0xA8, " \u0308"), (0xAF, " \u0304"), (0xB4, " \u0301"), (0xB8, " \u0327"), (0xBC, "1\u20444"),
   (0xBD, "1\u20442"), (0xBE, "3\u20444"), (0x130, "i\u0307"), (0x132, "ij"), (0x133, "ij"),
   (0x13F, "l\u00b7"), (0x140, "l\u00b7"), (0x149, "\u02bcn"), (0x1C4, "d\u017e"),
   (0x1C5, "d\u017e"), (0x1C6, "d\u017e"), (0x1C7, "lj"), (0x1C8, "lj"), (0x1C9, "lj"),
   (0x1CA, "nj"), (0x1CB, "nj"), (0x1CC, "nj"), (0x1F1, "dz"), (0x1F2, "dz"), (0x1F3, "dz"),
   (0x2D8, " \u0306"), (0x2D9, " \u0307"), (0x2DA, " \u030a"), (0x2DB, " \u0328"),
   (0x2DC, " \u0303"), (0x2DD, " \u030b"), (0x37A, " \u03b9"), (0x384, " \u0301"),
   (0x385, " \u0308\u0301"), (0x1E9A, "a\u02be"), (0x1FBD, " \u0313"), (0x1FBF, " \u0313"),
   (0x1FC0, " \u0342"), (0x1FC1, " \u0308\u0342"), (0x1FCD, " \u0313\u0300"),
   (0x1FCE, " \u0313\u0301"), (0x1FCF, " \u0313\u0342"), (0x1FDD, " \u0314\u0300"),
   (0x1FDE, " \u0314\u0301"), (0x1FDF, " \u0314\u0342"), (0x1FED, " \u0308\u0300"),
   (0x1FEE, " \u0308\u0301"), (0x1FFD, " \u0301"), (0x1FFE, " \u0314"), (0x2017, " \u0333"),
   (0x203C, "!!"), (0x203E, " \u0305"), (0x2047, "??"), (0x2048, "?!"), (0x2049, "!?"),
   (0x20A8, "rs"), (0x2100, "a/c"), (0x2101, "a/s"), (0x2103, "\u00b0c"), (0x2105, "c/o"),
   (0x2106, "c/u"), (0x2109, "\u00b0f"), (0x2116, "no"), (0x2120, "sm"), (0x2121, "tel"),
   (0x2122, "tm"), (0x213B, "fax"), (0x2150, "1\u20447"), (0x2151, "1\u20449"),
   (0x2152, "1\u204410"), (0x2153, "1\u20443"), (0x2154, "2\u20443"), (0x2155, "1\u20445"),
   (0x2156, "2\u20445"), (0x2157, "3\u20445"), (0x2158, "4\u20445"), (0x2159, "1\u20446"),
   (0x215A, "5\u20446"), (0x215B, "1\u20448"), (0x215C, "3\u20448"), (0x215D, "5\u20448"),
   (0x215E, "7\u20448"), (0x215F, "1\u2044"), (0x2161, "ii"), (0x2162, "iii"), (0x2163, "iv"),
   (0x2165, "vi"), (0x2166, "vii"), (0x2167, "viii"), (0x2168, "ix"), (0x216A, "xi"),
   (0x216B, "xii"), (0x2171, "ii"), (0x2172, "iii"), (0x2173, "iv"), (0x2175, "vi"),
   (0x2176, "vii"), (0x2177, "viii"), (0x2178, "ix"), (0x217A, "xi"), (0x217B, "xii"),
   (0x2189, "0\u20443"), (0x2469, "10"), (0x246A, "11"), (0x246B, "12"), (0x246C, "13"),
   (0x246D, "14"), (0x246E, "15"), (0x246F, "16"), (0x2470, "17"), (0x2471, "18"), (0x2472, "19"),
   (0x2473, "20"), (0x2474, "(1)"), (0x2475, "(2)"), (0x2476, "(3)"), (0x2477, "(4)"),
   (0x2478, "(5)"), (0x2479, "(6)"), (0x247A, "(7)"), (0x247B, "(8)"), (0x247C, "(9)"),
   (0x247D, "(10)"), (0x247E, "(11)"), (0x247F, "(12)"), (0x2480, "(13)"), (0x2481, "(14)"),
   (0x2482, "(15)"), (0x2483, "(16)"), (0x2484, "(17)"), (0x2485, "(18)"), (0x2486, "(19)"),
   (0x2487, "(20)"), (0x249C, "(a)"), (0x249D, "(b)"), (0x249E, "(c)"), (0x249F, "(d)"),
   (0x24A0, "(e)"), (0x24A1, "(f)"), (0x24A2, "(g)"), (0x24A3, "(h)"), (0x24A4, "(i)"),
   (0x24A5, "(j)"), (0x24A6, "(k)"), (0x24A7, "(l)"), (0x24A8, "(m)"), (0x24A9, "(n)"),
   (0x24AA, "(o)"), (0x24AB, "(p)"), (0x24AC, "(q)"), (0x24AD, "(r)"), (0x24AE, "(s)"),
   (0x24AF, "(t)"), (0x24B0, "(u)"), (0x24B1, "(v)"), (0x24B2, "(w)"), (0x24B3, "(x)"),
   (0x24B4, "(y)"), (0x24B5, "(z)"), (0x2A74, "::="), (0x2A75, "=="), (0x2A76, "==="),
   (0x309B, " \u3099"), (0x309C, " \u309a"), (0x3200, "(\u1100)"), (0x3201, "(\u1102)"),
   (0x3202, "(\u1103)"), (0x3203, "(\u1105)"), (0x3204, "(\u1106)"), (0x3205, "(\u1107)"),
   (0x3206, "(\u1109)"), (0x3207, "(\u110b)"), (0x3208, "(\u110c)"), (0x3209, "(\u110e)"),
   (0x320A, "(\u110f)"), (0x320B, "(\u1110)"), (0x320C, "(\u1111)"), (0x320D, "(\u1112)"),
   (0x320E, "(\uac00)"), (0x320F, "(\ub098)"), (0x3210, "(\ub2e4)"), (0x3211, "(\ub77c)"),
   (0x3212, "(\ub9c8)"), (0x3213, "(\ubc14)"), (0x3214, "(\uc0ac)"), (0x3215, "(\uc544)"),
   (0x3216, "(\uc790)"), (0x3217, "(\ucc28)"), (0x3218, "(\uce74)"), (0x3219, "(\ud0c0)"),
   (0x321A, "(\ud30c)"), (0x321B, "(\ud558)"), (0x321C, "(\uc8fc)"), (0x321D, "(\uc624\uc804)"),
   (0x321E, "(\uc624\ud6c4)"), (0x3220, "(\u4e00)"), (0x3221, "(\u4e8c)"), (0x3222, "(\u4e09)"),
   (0x3223, "(\u56db)"), (0x3224, "(\u4e94)"), (0x3225, "(\u516d)"), (0x3226, "(\u4e03)"),
   (0x3227, "(\u516b)"), (0x3228, "(\u4e5d)"), (0x3229, "(\u5341)"), (0x322A, "(\u6708)"),
   (0x322B, "(\u706b)"), (0x322C, "(\u6c34)"), (0x322D, "(\u6728)"), (0x322E, "(\u91d1)"),
   (0x322F, "(\u571f)"), (0x3230, "(\u65e5)"), (0x3231, "(\u682a)"), (0x3232, "(\u6709)"),
   (0x3233, "(\u793e)"), (0x3234, "(\u540d)"), (0x3235, "(\u7279)"), (0x3236, "(\u8ca1)"),
   (0x3237, "(\u795d)"), (0x3238, "(\u52b4)"), (0x3239, "(\u4ee3)"), (0x323A, "(\u547c)"),
   (0x323B, "(\u5b66)"), (0x323C, "(\u76e3)"), (0x323D, "(\u4f01)"), (0x323E, "(\u8cc7)"),
   (0x323F, "(\u5354)"), (0x3240, "(\u796d)"), (0x3241, "(\u4f11)"), (0x3242, "(\u81ea)"),
   (0x3243, "(\u81f3)"), (0x3250, "pte"), (0x3251, "21"), (0x3252, "22"), (0x3253, "23"),
   (0x3254, "24"), (0x3255, "25"), (0x3256, "26"), (0x3257, "27"), (0x3258, "28"), (0x3259, "29"),
   (0x325A, "30"), (0x325B, "31"), (0x325C, "32"), (0x325D, "33"), (0x325E, "34"), (0x325F, "35"),
   (0x32B1, "36"), (0x32B2, "37"), (0x32B3, "38"), (0x32B4, "39"), (0x32B5, "40"), (0x32B6, "41"),
   (0x32B7, "42"), (0x32B8, "43"), (0x32B9, "44"), (0x32BA, "45"), (0x32BB, "46"), (0x32BC, "47"),
   (0x32BD, "48"), (0x32BE, "49"), (0x32BF, "50"), (0x32C0, "1\u6708"), (0x32C1, "2\u6708"),
   (0x32C2, "3\u6708"), (0x32C3, "4\u6708"), (0x32C4, "5\u6708"), (0x32C5, "6\u6708"),
   (0x32C6, "7\u6708"), (0x32C7, "8\u6708"), (0x32C8, "9\u6708"), (0x32C9, "10\u6708"),
   (0x32CA, "11\u6708"), (0x32CB, "12\u6708"), (0x32CC, "hg"), (0x32CD, "erg"), (0x32CE, "ev"),
   (0x32CF, "ltd"), (0x3358, "0\u70b9"), (0x3359, "1\u70b9"), (0x335A, "2\u70b9"),
   (0x335B, "3\u70b9"), (0x335C, "4\u70b9"), (0x335D, "5\u70b9"), (0x335E, "6\u70b9"),
   (0x335F, "7\u70b9"), (0x3360, "8\u70b9"), (0x3361, "9\u70b9"), (0x3362, "10\u70b9"),
   (0x3363, "11\u70b9"), (0x3364, "12\u70b9"), (0x3365, "13\u70b9"), (0x3366, "14\u70b9"),
   (0x3367, "15\u70b9"), (0x3368, "16\u70b9"), (0x3369, "17\u70b9"), (0x336A, "18\u70b9"),
   (0x336B, "19\u70b9"), (0x336C, "20\u70b9"), (0x336D, "21\u70b9"), (0x336E, "22\u70b9"),
   (0x336F, "23\u70b9"), (0x3370, "24\u70b9"), (0x3371, "hpa"), (0x3372, "da"), (0x3373, "au"),
   (0x3374, "bar"), (0x3375, "ov"), (0x3376, "pc"), (0x3377, "dm"), (0x3378, "dm2"),
   (0x3379, "dm3"), (0x337A, "iu"), (0x3380, "pa"), (0x3381, "na"), (0x3382, "\u03bca"),
   (0x3383, "ma"), (0x3384, "ka"), (0x3385, "kb"), (0x3386, "mb"), (0x3387, "gb"), (0x3388, "cal"),
   (0x3389, "kcal"), (0x338A, "pf"), (0x338B, "nf"), (0x338C, "\u03bcf"), (0x338D, "\u03bcg"),
   (0x338E, "mg"), (0x338F, "kg"), (0x3390, "hz"), (0x3391, "khz"), (0x3392, "mhz"),
   (0x3393, "ghz"), (0x3394, "thz"), (0x3395, "\u03bcl"), (0x3396, "ml"), (0x3397, "dl"),
   (0x3398, "kl"), (0x3399, "fm"), (0x339A, "nm"), (0x339B, "\u03bcm"), (0x339C, "mm"),
   (0x339D, "cm"), (0x339E, "km"), (0x339F, "mm2"), (0x33A0, "cm2"), (0x33A1, "m2"),
   (0x33A2, "km2"), (0x33A3, "mm3"), (0x33A4, "cm3"), (0x33A5, "m3"), (0x33A6, "km3"),
   (0x33A7, "m\u2215s"), (0x33A8, "m\u2215s2"), (0x33A9, "pa"), (0x33AA, "kpa"), (0x33AB, "mpa"),
   (0x33AC, "gpa"), (0x33AD, "rad"), (0x33AE, "rad\u2215s"), (0x33AF, "rad\u2215s2"),
   (0x33B0, "ps"), (0x33B1, "ns"), (0x33B2, "\u03bcs"), (0x33B3, "ms"), (0x33B4, "pv"),
   (0x33B5, "nv"), (0x33B6, "\u03bcv"), (0x33B7, "mv"), (0x33B8, "kv"), (0x33B9, "mv"),
   (0x33BA, "pw"), (0x33BB, "nw"), (0x33BC, "\u03bcw"), (0x33BD, "mw"), (0x33BE, "kw"),
   (0x33BF, "mw"), (0x33C0, "k\u03c9"), (0x33C1, "m\u03c9"), (0x33C3, "bq"), (0x33C4, "cc"),
   (0x33C5, "cd"), (0x33C6, "c\u2215kg"), (0x33C8, "db"), (0x33C9, "gy"), (0x33CA, "ha"),
   (0x33CB, "hp"), (0x33CC, "in"), (0x33CD, "kk"), (0x33CE, "km"), (0x33CF, "kt"), (0x33D0, "lm"),
   (0x33D1, "ln"), (0x33D2, "log"), (0x33D3, "lx"), (0x33D4, "mb"), (0x33D5, "mil"),
   (0x33D6, "mol"), (0x33D7, "ph"), (0x33D9, "ppm"), (0x33DA, "pr"), (0x33DB, "sr"), (0x33DC, "sv"),
   (0x33DD, "wb"), (0x33DE, "v\u2215m"), (0x33DF, "a\u2215m"), (0x33E0, "1\u65e5"),
   (0x33E1, "2\u65e5"), (0x33E2, "3\u65e5"), (0x33E3, "4\u65e5"), (0x33E4, "5\u65e5"),
   (0x33E5, "6\u65e5"), (0x33E6, "7\u65e5"), (0x33E7, "8\u65e5"), (0x33E8, "9\u65e5"),
   (0x33E9, "10\u65e5"), (0x33EA, "11\u65e5"), (0x33EB, "12\u65e5"), (0x33EC, "13\u65e5"),
   (0x33ED, "14\u65e5"), (0x33EE, "15\u65e5"), (0x33EF, "16\u65e5"), (0x33F0, "17\u65e5"),
   (0x33F1, "18\u65e5"), (0x33F2, "19\u65e5"), (0x33F3, "20\u65e5"), (0x33F4, "21\u65e5"),
   (0x33F5, "22\u65e5"), (0x33F6, "23\u65e5"), (0x33F7, "24\u65e5"), (0x33F8, "25\u65e5"),
   (0x33F9, "26\u65e5"), (0x33FA, "27\u65e5"), (0x33FB, "28\u65e5"), (0x33FC, "29\u65e5"),
   (0x33FD, "30\u65e5"), (0x33FE, "31\u65e5"), (0x33FF, "gal"), (0xFB00, "ff"), (0xFB01, "fi"),
   (0xFB02, "fl"), (0xFB03, "ffi"), (0xFB04, "ffl"), (0xFB05, "st"), (0xFB06, "st"),
   (0xFC5E, " \u064c\u0651"), (0xFC5F, " \u064d\u0651"), (0xFC60, " \u064e\u0651"),
   (0xFC61, " \u064f\u0651"), (0xFC62, " \u0650\u0651"), (0xFC63, " \u0651\u0670"),
   (0xFDFA, "\u0635\u0644\u0649 \u0627\u0644\u0644\u0647 \u0639\u0644\u064a\u0647 \u0648\u0633\u0644\u0645"),
   (0xFDFB, "\u062c\u0644 \u062c\u0644\u0627\u0644\u0647"), (0xFE49, " \u0305"),
   (0xFE4A, " \u0305"), (0xFE4B, " \u0305"), (0xFE4C, " \u0305"), (0xFE70, " \u064b"),
   (0xFE72, " \u064c"), (0xFE74, " \u064d"), (0xFE76, " \u064e"), (0xFE78, " \u064f"),
   (0xFE7A, " \u0650"), (0xFE7C, " \u0651"), (0xFE7E, " \u0652"), (0xFFE3, " \u0304"),
   (0x1F101, "0,"), (0x1F102, "1,"), (0x1F103, "2,"), (0x1F104, "3,"), (0x1F105, "4,"),
   (0x1F106, "5,"), (0x1F107, "6,"), (0x1F108, "7,"), (0x1F109, "8,"), (0x1F10A, "9,"),
   (0x1F110, "(a)"), (0x1F111, "(b)"), (0x1F112, "(c)"), (0x1F113, "(d)"), (0x1F114, "(e)"),
   (0x1F115, "(f)"), (0x1F116, "(g)"), (0x1F117, "(h)"), (0x1F118, "(i)"), (0x1F119, "(j)"),
   (0x1F11A, "(k)"), (0x1F11B, "(l)"), (0x1F11C, "(m)"), (0x1F11D, "(n)"), (0x1F11E, "(o)"),
   (0x1F11F, "(p)"), (0x1F120, "(q)"), (0x1F121, "(r)"), (0x1F122, "(s)"), (0x1F123, "(t)"),
   (0x1F124, "(u)"), (0x1F125, "(v)"), (0x1F126, "(w)"), (0x1F127, "(x)"), (0x1F128, "(y)"),
   (0x1F129, "(z)"), (0x1F12A, "\u3014s\u3015"), (0x1F12D, "cd"), (0x1F12E, "wz"), (0x1F14A, "hv"),
   (0x1F14B, "mv"), (0x1F14C, "sd"), (0x1F14D, "ss"), (0x1F14E, "ppv"), (0x1F14F, "wc"),
   (0x1F16A, "mc"), (0x1F16B, "md"), (0x1F16C, "mr"), (0x1F190, "dj")]

/-- What a character stands for, if that has an ASCII character in it. -/
def mapped? (c : Char) : Option (List Char) :=
  if c.toNat < 0x80 then none
  else
    match mappedRows.find? fun r => r.1 ≤ c.toNat && c.toNat < r.1 + r.2.2 with
    | some r => some [Char.ofNat (r.2.1 + (c.toNat - r.1))]
    | none => (mappedTexts.find? (·.1 = c.toNat)).map (·.2.toList)

/-- Rows of characters outside ASCII that are replaced: the first and the last one, and the step from
one to the next. -/
def replacedRows : List (Nat × Nat × Nat) :=
  [(0xA0, 0xA0, 1), (0xA8, 0xAA, 2), (0xAF, 0xAF, 1), (0xB2, 0xB5, 1), (0xB8, 0xBA, 1),
   (0xBC, 0xBE, 1), (0xC0, 0xD6, 1), (0xD8, 0xDE, 1), (0x100, 0x132, 2), (0x133, 0x134, 1),
   (0x136, 0x136, 1), (0x139, 0x13F, 2), (0x140, 0x141, 1), (0x143, 0x149, 2), (0x14A, 0x178, 2),
   (0x179, 0x181, 2), (0x182, 0x186, 2), (0x187, 0x189, 2), (0x18A, 0x18B, 1), (0x18E, 0x191, 1),
   (0x193, 0x194, 1), (0x196, 0x198, 1), (0x19C, 0x19D, 1), (0x19F, 0x1A0, 1), (0x1A2, 0x1A6, 2),
   (0x1A7, 0x1A9, 2), (0x1AC, 0x1AE, 2), (0x1AF, 0x1B1, 2), (0x1B2, 0x1B3, 1), (0x1B5, 0x1B7, 2),
   (0x1B8, 0x1B8, 1), (0x1BC, 0x1BC, 1), (0x1C4, 0x1CD, 1), (0x1CF, 0x1DB, 2), (0x1DE, 0x1EE, 2),
   (0x1F1, 0x1F4, 1), (0x1F6, 0x1F8, 1), (0x1FA, 0x232, 2), (0x23A, 0x23B, 1), (0x23D, 0x23E, 1),
   (0x241, 0x243, 2), (0x244, 0x246, 1), (0x248, 0x24E, 2), (0x2B0, 0x2B8, 1), (0x2D8, 0x2DD, 1),
   (0x2E0, 0x2E4, 1), (0x340, 0x341, 1), (0x343, 0x345, 1), (0x370, 0x376, 2), (0x37A, 0x37A, 1),
   (0x37E, 0x37F, 1), (0x384, 0x38A, 1), (0x38C, 0x38E, 2), (0x38F, 0x391, 2), (0x392, 0x3A1, 1),
   (0x3A3, 0x3AB, 1), (0x3CF, 0x3D6, 1), (0x3D8, 0x3F0, 2), (0x3F1, 0x3F2, 1), (0x3F4, 0x3F5, 1),
   (0x3F7, 0x3F9, 2), (0x3FA, 0x3FA, 1), (0x3FD, 0x42F, 1), (0x460, 0x480, 2), (0x48A, 0x4C0, 2),
   (0x4C1, 0x4CD, 2), (0x4D0, 0x52E, 2), (0x531, 0x556, 1), (0x587, 0x587, 1), (0x675, 0x678, 1),
   (0x958, 0x95F, 1), (0x9DC, 0x9DD, 1), (0x9DF, 0x9DF, 1), (0xA33, 0xA33, 1), (0xA36, 0xA36, 1),
   (0xA59, 0xA5B, 1), (0xA5E, 0xA5E, 1), (0xB5C, 0xB5D, 1), (0xE33, 0xE33, 1), (0xEB3, 0xEB3, 1),
   (0xEDC, 0xEDD, 1), (0xF0C, 0xF0C, 1), (0xF43, 0xF43, 1), (0xF4D, 0xF4D, 1), (0xF52, 0xF52, 1),
   (0xF57, 0xF57, 1), (0xF5C, 0xF5C, 1), (0xF69, 0xF69, 1), (0xF73, 0xF75, 2), (0xF76, 0xF79, 1),
   (0xF81, 0xF81, 1), (0xF93, 0xF93, 1), (0xF9D, 0xF9D, 1), (0xFA2, 0xFA2, 1), (0xFA7, 0xFA7, 1),
   (0xFAC, 0xFAC, 1), (0xFB9, 0xFB9, 1), (0x10A0, 0x10C5, 1), (0x10C7, 0x10C7, 1),
   (0x10CD, 0x10CD, 1), (0x10FC, 0x10FC, 1), (0x13F8, 0x13FD, 1), (0x1C80, 0x1C89, 1),
   (0x1C90, 0x1CBA, 1), (0x1CBD, 0x1CBF, 1), (0x1D2C, 0x1D2E, 1), (0x1D30, 0x1D3A, 1),
   (0x1D3C, 0x1D4D, 1), (0x1D4F, 0x1D6A, 1), (0x1D78, 0x1D78, 1), (0x1D9B, 0x1DBF, 1),
   (0x1E00, 0x1E94, 2), (0x1E9A, 0x1E9B, 1), (0x1E9E, 0x1EFE, 2), (0x1F08, 0x1F0F, 1),
   (0x1F18, 0x1F1D, 1), (0x1F28, 0x1F2F, 1), (0x1F38, 0x1F3F, 1), (0x1F48, 0x1F4D, 1),
   (0x1F59, 0x1F5F, 2), (0x1F68, 0x1F6F, 1), (0x1F71, 0x1F7D, 2), (0x1F80, 0x1FAF, 1),
   (0x1FB2, 0x1FB4, 1), (0x1FB7, 0x1FC4, 1), (0x1FC7, 0x1FCF, 1), (0x1FD3, 0x1FD3, 1),
   (0x1FD8, 0x1FDB, 1), (0x1FDD, 0x1FDF, 1), (0x1FE3, 0x1FE3, 1), (0x1FE8, 0x1FEF, 1),
   (0x1FF2, 0x1FF4, 1), (0x1FF7, 0x1FFE, 1), (0x2000, 0x200A, 1), (0x2011, 0x2011, 1),
   (0x2017, 0x2017, 1), (0x202F, 0x202F, 1), (0x2033, 0x2034, 1), (0x2036, 0x2037, 1),
   (0x203C, 0x203E, 2), (0x2047, 0x2049, 1), (0x2057, 0x2057, 1), (0x205F, 0x205F, 1),
   (0x2070, 0x2071, 1), (0x2074, 0x208E, 1), (0x2090, 0x209C, 1), (0x20A8, 0x20A8, 1),
   (0x2100, 0x2103, 1), (0x2105, 0x2107, 1), (0x2109, 0x2113, 1), (0x2115, 0x2116, 1),
   (0x2119, 0x211D, 1), (0x2120, 0x2122, 1), (0x2124, 0x212A, 2), (0x212B, 0x212D, 1),
   (0x212F, 0x2139, 1), (0x213B, 0x2140, 1), (0x2145, 0x2149, 1), (0x2150, 0x217F, 1),
   (0x2183, 0x2183, 1), (0x2189, 0x2189, 1), (0x222C, 0x222D, 1), (0x222F, 0x2230, 1),
   (0x2329, 0x232A, 1), (0x2460, 0x2487, 1), (0x249C, 0x24EA, 1), (0x2A0C, 0x2A0C, 1),
   (0x2A74, 0x2A76, 1), (0x2ADC, 0x2ADC, 1), (0x2C00, 0x2C2F, 1), (0x2C60, 0x2C62, 2),
   (0x2C63, 0x2C64, 1), (0x2C67, 0x2C6D, 2), (0x2C6E, 0x2C70, 1), (0x2C72, 0x2C72, 1),
   (0x2C75, 0x2C75, 1), (0x2C7C, 0x2C80, 1), (0x2C82, 0x2CE2, 2), (0x2CEB, 0x2CED, 2),
   (0x2CF2, 0x2CF2, 1), (0x2D6F, 0x2D6F, 1), (0x2E9F, 0x2E9F, 1), (0x2EF3, 0x2EF3, 1),
   (0x2F00, 0x2FD5, 1), (0x3000, 0x3002, 2), (0x3036, 0x3038, 2), (0x3039, 0x303A, 1),
   (0x309B, 0x309C, 1), (0x309F, 0x309F, 1), (0x30FF, 0x30FF, 1), (0x3131, 0x3163, 1),
   (0x3165, 0x318E, 1), (0x3192, 0x319F, 1), (0x3200, 0x321E, 1), (0x3220, 0x3247, 1),
   (0x3250, 0x327E, 1), (0x3280, 0x33C1, 1), (0x33C3, 0x33C6, 1), (0x33C8, 0x33D7, 1),
   (0x33D9, 0x33FF, 1), (0xA640, 0xA66C, 2), (0xA680, 0xA69C, 2), (0xA69D, 0xA69D, 1),
   (0xA722, 0xA72E, 2), (0xA732, 0xA770, 2), (0xA779, 0xA77D, 2), (0xA77E, 0xA786, 2),
   (0xA78B, 0xA78D, 2), (0xA790, 0xA792, 2), (0xA796, 0xA7AA, 2), (0xA7AB, 0xA7AE, 1),
   (0xA7B0, 0xA7B4, 1), (0xA7B6, 0xA7C4, 2), (0xA7C5, 0xA7C7, 1), (0xA7C9, 0xA7CB, 2),
   (0xA7CC, 0xA7DC, 2), (0xA7F1, 0xA7F5, 1), (0xA7F8, 0xA7F9, 1), (0xAB5C, 0xAB5F, 1),
   (0xAB69, 0xAB69, 1), (0xAB70, 0xABBF, 1), (0xF900, 0xFA0D, 1), (0xFA10, 0xFA12, 2),
   (0xFA15, 0xFA1E, 1), (0xFA20, 0xFA22, 2), (0xFA25, 0xFA26, 1), (0xFA2A, 0xFA6D, 1),
   (0xFA70, 0xFAD9, 1), (0xFB00, 0xFB06, 1), (0xFB13, 0xFB17, 1), (0xFB1D, 0xFB1F, 2),
   (0xFB20, 0xFB36, 1), (0xFB38, 0xFB3C, 1), (0xFB3E, 0xFB40, 2), (0xFB41, 0xFB43, 2),
   (0xFB44, 0xFB46, 2), (0xFB47, 0xFBB1, 1), (0xFBD3, 0xFD3D, 1), (0xFD50, 0xFD8F, 1),
   (0xFD92, 0xFDC7, 1), (0xFDF0, 0xFDFC, 1), (0xFE10, 0xFE11, 1), (0xFE13, 0xFE18, 1),
   (0xFE31, 0xFE44, 1), (0xFE47, 0xFE51, 1), (0xFE54, 0xFE66, 1), (0xFE68, 0xFE6B, 1),
   (0xFE70, 0xFE72, 1), (0xFE74, 0xFE76, 2), (0xFE77, 0xFEFC, 1), (0xFF01, 0xFF9F, 1),
   (0xFFA1, 0xFFBE, 1), (0xFFC2, 0xFFC7, 1), (0xFFCA, 0xFFCF, 1), (0xFFD2, 0xFFD7, 1),
   (0xFFDA, 0xFFDC, 1), (0xFFE0, 0xFFE6, 1), (0xFFE8, 0xFFEE, 1), (0x10400, 0x10427, 1),
   (0x104B0, 0x104D3, 1), (0x10570, 0x1057A, 1), (0x1057C, 0x1058A, 1), (0x1058C, 0x10592, 1),
   (0x10594, 0x10595, 1), (0x10781, 0x10785, 1), (0x10787, 0x107B0, 1), (0x107B2, 0x107BA, 1),
   (0x10C80, 0x10CB2, 1), (0x10D50, 0x10D65, 1), (0x118A0, 0x118BF, 1), (0x16E40, 0x16E5F, 1),
   (0x16EA0, 0x16EB8, 1), (0x1CCD6, 0x1CCF9, 1), (0x1D15E, 0x1D164, 1), (0x1D1BB, 0x1D1C0, 1),
   (0x1D400, 0x1D454, 1), (0x1D456, 0x1D49C, 1), (0x1D49E, 0x1D49F, 1), (0x1D4A2, 0x1D4A2, 1),
   (0x1D4A5, 0x1D4A6, 1), (0x1D4A9, 0x1D4AC, 1), (0x1D4AE, 0x1D4B9, 1), (0x1D4BB, 0x1D4BD, 2),
   (0x1D4BE, 0x1D4C3, 1), (0x1D4C5, 0x1D505, 1), (0x1D507, 0x1D50A, 1), (0x1D50D, 0x1D514, 1),
   (0x1D516, 0x1D51C, 1), (0x1D51E, 0x1D539, 1), (0x1D53B, 0x1D53E, 1), (0x1D540, 0x1D544, 1),
   (0x1D546, 0x1D546, 1), (0x1D54A, 0x1D550, 1), (0x1D552, 0x1D6A5, 1), (0x1D6A8, 0x1D7CB, 1),
   (0x1D7CE, 0x1D7FF, 1), (0x1E030, 0x1E06D, 1), (0x1E900, 0x1E921, 1), (0x1EE00, 0x1EE03, 1),
   (0x1EE05, 0x1EE1F, 1), (0x1EE21, 0x1EE22, 1), (0x1EE24, 0x1EE24, 1), (0x1EE27, 0x1EE29, 2),
   (0x1EE2A, 0x1EE32, 1), (0x1EE34, 0x1EE37, 1), (0x1EE39, 0x1EE3B, 2), (0x1EE42, 0x1EE42, 1),
   (0x1EE47, 0x1EE4D, 2), (0x1EE4E, 0x1EE4F, 1), (0x1EE51, 0x1EE52, 1), (0x1EE54, 0x1EE54, 1),
   (0x1EE57, 0x1EE61, 2), (0x1EE62, 0x1EE64, 2), (0x1EE67, 0x1EE6A, 1), (0x1EE6C, 0x1EE72, 1),
   (0x1EE74, 0x1EE77, 1), (0x1EE79, 0x1EE7C, 1), (0x1EE7E, 0x1EE80, 2), (0x1EE81, 0x1EE89, 1),
   (0x1EE8B, 0x1EE9B, 1), (0x1EEA1, 0x1EEA3, 1), (0x1EEA5, 0x1EEA9, 1), (0x1EEAB, 0x1EEBB, 1),
   (0x1F101, 0x1F10A, 1), (0x1F110, 0x1F12E, 1), (0x1F130, 0x1F14F, 1), (0x1F16A, 0x1F16C, 1),
   (0x1F190, 0x1F190, 1), (0x1F200, 0x1F202, 1), (0x1F210, 0x1F23B, 1), (0x1F240, 0x1F248, 1),
   (0x1F250, 0x1F251, 1), (0x1FBF0, 0x1FBF9, 1), (0x2F800, 0x2FA1D, 1)]

/-- Whether a character outside ASCII is replaced. -/
def isMapped (c : Char) : Bool :=
  replacedRows.any fun r =>
    r.1 ≤ c.toNat && c.toNat ≤ r.2.1 && (c.toNat - r.1) % r.2.2 = 0

end RemoteShell.Url
