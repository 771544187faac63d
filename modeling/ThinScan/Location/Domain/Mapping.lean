import ThinScan.Text
import ThinScan.Text.Unprintable

/-!
How the characters of a domain name are read, as of Unicode 17.
-/

set_option autoImplicit false

namespace ThinScan.Url.Domain

def ignored : Ranges :=
  [(0xad, 0xad), (0x34f, 0x34f), (0x115f, 0x1160), (0x17b4, 0x17b5), (0x180b, 0x180f), (0x200b, 0x200b),
   (0x2060, 0x2064), (0x206a, 0x206f), (0x3164, 0x3164), (0xfe00, 0xfe0f), (0xfeff, 0xfeff), (0xffa0, 0xffa0),
   (0x1bca0, 0x1bca3), (0x1d173, 0x1d17a), (0xe0100, 0xe01ef)]

def refused : Ranges :=
  [(0xa8, 0xa8), (0xaf, 0xaf), (0xb4, 0xb4), (0xb8, 0xb8), (0x2d8, 0x2dd), (0x37a, 0x37a), (0x384, 0x385),
   (0x1fbd, 0x1fbd), (0x1fbf, 0x1fc1), (0x1fcd, 0x1fcf), (0x1fdd, 0x1fdf), (0x1fed, 0x1fee), (0x1ffd, 0x1ffe),
   (0x2017, 0x2017), (0x2024, 0x2026), (0x203e, 0x203e), (0x2047, 0x2049), (0x2100, 0x2101), (0x2105, 0x2106),
   (0x2488, 0x249b), (0x2a74, 0x2a74), (0x2ff0, 0x2fff), (0x309b, 0x309c), (0x31ef, 0x31ef), (0x33c2, 0x33c2),
   (0x33c7, 0x33c7), (0x33d8, 0x33d8), (0xfc5e, 0xfc63), (0xfdfa, 0xfdfb), (0xfe12, 0xfe12), (0xfe19, 0xfe19),
   (0xfe30, 0xfe30), (0xfe49, 0xfe4c), (0xfe52, 0xfe52), (0xfe70, 0xfe70), (0xfe72, 0xfe72), (0xfe74, 0xfe76),
   (0xfe78, 0xfe78), (0xfe7a, 0xfe7a), (0xfe7c, 0xfe7c), (0xfe7e, 0xfe7e), (0xffe3, 0xffe3), (0xfffc, 0xfffd),
   (0x1f100, 0x1f100)]

-- Runs of characters with what the first is read as. The letter after z is a, and the digit after 9 is 0.
def aliases : List (Nat × Nat × Char) :=
  [(0xaa, 0xaa, 'a'), (0xb2, 0xb3, '2'), (0xb9, 0xb9, '1'), (0xba, 0xba, 'o'), (0x17f, 0x17f, 's'),
   (0x2b0, 0x2b0, 'h'), (0x2b2, 0x2b2, 'j'), (0x2b3, 0x2b3, 'r'), (0x2b7, 0x2b7, 'w'), (0x2b8, 0x2b8, 'y'),
   (0x2e1, 0x2e1, 'l'), (0x2e2, 0x2e2, 's'), (0x2e3, 0x2e3, 'x'), (0x345, 0x345, '\u03b9'), (0x37e, 0x37e, ';'),
   (0x1d2c, 0x1d2c, 'a'), (0x1d2e, 0x1d2e, 'b'), (0x1d30, 0x1d31, 'd'), (0x1d33, 0x1d3a, 'g'),
   (0x1d3c, 0x1d3c, 'o'), (0x1d3e, 0x1d3e, 'p'), (0x1d3f, 0x1d3f, 'r'), (0x1d40, 0x1d41, 't'),
   (0x1d42, 0x1d42, 'w'), (0x1d43, 0x1d43, 'a'), (0x1d47, 0x1d47, 'b'), (0x1d48, 0x1d49, 'd'),
   (0x1d4d, 0x1d4d, 'g'), (0x1d4f, 0x1d4f, 'k'), (0x1d50, 0x1d50, 'm'), (0x1d52, 0x1d52, 'o'),
   (0x1d56, 0x1d56, 'p'), (0x1d57, 0x1d58, 't'), (0x1d5b, 0x1d5b, 'v'), (0x1d62, 0x1d62, 'i'),
   (0x1d63, 0x1d63, 'r'), (0x1d64, 0x1d65, 'u'), (0x1d9c, 0x1d9c, 'c'), (0x1da0, 0x1da0, 'f'),
   (0x1dbb, 0x1dbb, 'z'), (0x1fef, 0x1fef, '\x60'), (0x2070, 0x2070, '0'), (0x2071, 0x2071, 'i'),
   (0x2074, 0x2079, '4'), (0x207a, 0x207a, '+'), (0x207c, 0x207c, '='), (0x207d, 0x207e, '('),
   (0x207f, 0x207f, 'n'), (0x2080, 0x2089, '0'), (0x208a, 0x208a, '+'), (0x208c, 0x208c, '='),
   (0x208d, 0x208e, '('), (0x2090, 0x2090, 'a'), (0x2091, 0x2091, 'e'), (0x2092, 0x2092, 'o'),
   (0x2093, 0x2093, 'x'), (0x2095, 0x2095, 'h'), (0x2096, 0x2099, 'k'), (0x209a, 0x209a, 'p'),
   (0x209b, 0x209c, 's'), (0x2102, 0x2102, 'c'), (0x210a, 0x210b, 'g'), (0x210c, 0x210c, 'h'),
   (0x210d, 0x210d, 'h'), (0x210e, 0x210e, 'h'), (0x2110, 0x2110, 'i'), (0x2111, 0x2111, 'i'),
   (0x2112, 0x2112, 'l'), (0x2113, 0x2113, 'l'), (0x2115, 0x2115, 'n'), (0x2119, 0x211b, 'p'),
   (0x211c, 0x211c, 'r'), (0x211d, 0x211d, 'r'), (0x2124, 0x2124, 'z'), (0x2128, 0x2128, 'z'),
   (0x212a, 0x212a, 'k'), (0x212c, 0x212d, 'b'), (0x212f, 0x212f, 'e'), (0x2130, 0x2131, 'e'),
   (0x2133, 0x2133, 'm'), (0x2134, 0x2134, 'o'), (0x2135, 0x2138, '\u05d0'), (0x2139, 0x2139, 'i'),
   (0x2145, 0x2145, 'd'), (0x2146, 0x2147, 'd'), (0x2148, 0x2149, 'i'), (0x2160, 0x2160, 'i'),
   (0x2164, 0x2164, 'v'), (0x2169, 0x2169, 'x'), (0x216c, 0x216c, 'l'), (0x216d, 0x216e, 'c'),
   (0x216f, 0x216f, 'm'), (0x2170, 0x2170, 'i'), (0x2174, 0x2174, 'v'), (0x2179, 0x2179, 'x'),
   (0x217c, 0x217c, 'l'), (0x217d, 0x217e, 'c'), (0x217f, 0x217f, 'm'), (0x2460, 0x2468, '1'),
   (0x24b6, 0x24e9, 'a'), (0x24ea, 0x24ea, '0'), (0x2c7c, 0x2c7c, 'j'), (0x2c7d, 0x2c7d, 'v'),
   (0x3002, 0x3002, '.'), (0xa7f1, 0xa7f1, 's'), (0xa7f2, 0xa7f2, 'c'), (0xa7f3, 0xa7f3, 'f'),
   (0xa7f4, 0xa7f4, 'q'), (0xfb29, 0xfb29, '+'), (0xfe10, 0xfe10, ','), (0xfe13, 0xfe14, ':'),
   (0xfe15, 0xfe15, '!'), (0xfe16, 0xfe16, '?'), (0xfe33, 0xfe33, '_'), (0xfe34, 0xfe34, '_'),
   (0xfe35, 0xfe36, '('), (0xfe37, 0xfe37, '\x7b'), (0xfe38, 0xfe38, '\x7d'), (0xfe47, 0xfe47, '['),
   (0xfe48, 0xfe48, ']'), (0xfe4d, 0xfe4d, '_'), (0xfe4e, 0xfe4e, '_'), (0xfe4f, 0xfe4f, '_'),
   (0xfe50, 0xfe50, ','), (0xfe54, 0xfe54, ';'), (0xfe55, 0xfe55, ':'), (0xfe56, 0xfe56, '?'),
   (0xfe57, 0xfe57, '!'), (0xfe59, 0xfe5a, '('), (0xfe5b, 0xfe5b, '\x7b'), (0xfe5c, 0xfe5c, '\x7d'),
   (0xfe5f, 0xfe5f, '#'), (0xfe60, 0xfe60, '&'), (0xfe61, 0xfe62, '*'), (0xfe63, 0xfe63, '-'),
   (0xfe64, 0xfe64, '<'), (0xfe65, 0xfe65, '>'), (0xfe66, 0xfe66, '='), (0xfe68, 0xfe68, '\\'),
   (0xfe69, 0xfe6a, '$'), (0xfe6b, 0xfe6b, '@'), (0xff01, 0xff20, '!'), (0xff21, 0xff3a, 'a'),
   (0xff3b, 0xff5e, '['), (0xff61, 0xff61, '.'), (0xff9e, 0xff9f, '\u3099'), (0x107a5, 0x107a5, 'q'),
   (0x1ccd6, 0x1ccef, 'a'), (0x1ccf0, 0x1ccf9, '0'), (0x1d400, 0x1d6a3, 'a'), (0x1d7ce, 0x1d7ff, '0'),
   (0x1f12b, 0x1f12b, 'c'), (0x1f12c, 0x1f12c, 'r'), (0x1f130, 0x1f149, 'a'), (0x1fbf0, 0x1fbf9, '0')]

def spelled : List (Nat × List String) :=
  [(0xbc, ["1⁄4", "1⁄2", "3⁄4"]), (0x130, ["i\u0307"]), (0x132, ["ij", "ij"]), (0x13f, ["l·", "l·"]),
   (0x149, ["ʼn"]), (0x1c4, ["dž", "dž", "dž", "lj", "lj", "lj", "nj", "nj", "nj"]), (0x1f1, ["dz", "dz", "dz"]),
   (0xe33, ["\u0e4d\u0e32"]), (0xeb3, ["\u0ecd\u0eb2"]), (0x1e9a, ["aʾ"]), (0x203c, ["!!"]), (0x20a8, ["rs"]),
   (0x2103, ["°c"]), (0x2109, ["°f"]), (0x2116, ["no"]), (0x2120, ["sm", "tel", "tm"]), (0x213b, ["fax"]),
   (0x2150, ["1⁄7", "1⁄9", "1⁄10", "1⁄3", "2⁄3", "1⁄5", "2⁄5", "3⁄5", "4⁄5", "1⁄6", "5⁄6", "1⁄8"]),
   (0x215c, ["3⁄8", "5⁄8", "7⁄8", "1⁄"]), (0x2161, ["ii", "iii", "iv"]), (0x2165, ["vi", "vii", "viii", "ix"]),
   (0x216a, ["xi", "xii"]), (0x2171, ["ii", "iii", "iv"]), (0x2175, ["vi", "vii", "viii", "ix"]),
   (0x217a, ["xi", "xii"]), (0x2189, ["0⁄3"]),
   (0x2469, ["10", "11", "12", "13", "14", "15", "16", "17", "18", "19", "20", "(1)"]),
   (0x2475, ["(2)", "(3)", "(4)", "(5)", "(6)", "(7)", "(8)", "(9)", "(10)", "(11)", "(12)", "(13)"]),
   (0x2481, ["(14)", "(15)", "(16)", "(17)", "(18)", "(19)", "(20)"]),
   (0x249c, ["(a)", "(b)", "(c)", "(d)", "(e)", "(f)", "(g)", "(h)", "(i)", "(j)", "(k)", "(l)"]),
   (0x24a8, ["(m)", "(n)", "(o)", "(p)", "(q)", "(r)", "(s)", "(t)", "(u)", "(v)", "(w)", "(x)"]),
   (0x24b4, ["(y)", "(z)"]), (0x2a75, ["==", "==="]),
   (0x3200, ["(ᄀ)", "(ᄂ)", "(ᄃ)", "(ᄅ)", "(ᄆ)", "(ᄇ)", "(ᄉ)", "(ᄋ)", "(ᄌ)", "(ᄎ)", "(ᄏ)", "(ᄐ)"]),
   (0x320c, ["(ᄑ)", "(ᄒ)", "(가)", "(나)", "(다)", "(라)", "(마)", "(바)", "(사)", "(아)", "(자)", "(차)"]),
   (0x3218, ["(카)", "(타)", "(파)", "(하)", "(주)", "(오전)", "(오후)"]),
   (0x3220, ["(一)", "(二)", "(三)", "(四)", "(五)", "(六)", "(七)", "(八)", "(九)", "(十)", "(月)", "(火)"]),
   (0x322c, ["(水)", "(木)", "(金)", "(土)", "(日)", "(株)", "(有)", "(社)", "(名)", "(特)", "(財)", "(祝)"]),
   (0x3238, ["(労)", "(代)", "(呼)", "(学)", "(監)", "(企)", "(資)", "(協)", "(祭)", "(休)", "(自)", "(至)"]),
   (0x3250, ["pte", "21", "22", "23", "24", "25", "26", "27", "28", "29", "30", "31"]),
   (0x325c, ["32", "33", "34", "35"]),
   (0x32b1, ["36", "37", "38", "39", "40", "41", "42", "43", "44", "45", "46", "47"]),
   (0x32bd, ["48", "49", "50", "1月", "2月", "3月", "4月", "5月", "6月", "7月", "8月", "9月"]),
   (0x32c9, ["10月", "11月", "12月", "hg", "erg", "ev", "ltd"]),
   (0x3358, ["0点", "1点", "2点", "3点", "4点", "5点", "6点", "7点", "8点", "9点", "10点", "11点"]),
   (0x3364, ["12点", "13点", "14点", "15点", "16点", "17点", "18点", "19点", "20点", "21点", "22点", "23点"]),
   (0x3370, ["24点", "hpa", "da", "au", "bar", "ov", "pc", "dm", "dm2", "dm3", "iu"]),
   (0x3380, ["pa", "na", "μa", "ma", "ka", "kb", "mb", "gb", "cal", "kcal", "pf", "nf"]),
   (0x338c, ["μf", "μg", "mg", "kg", "hz", "khz", "mhz", "ghz", "thz", "μl", "ml", "dl"]),
   (0x3398, ["kl", "fm", "nm", "μm", "mm", "cm", "km", "mm2", "cm2", "m2", "km2", "mm3"]),
   (0x33a4, ["cm3", "m3", "km3", "m∕s", "m∕s2", "pa", "kpa", "mpa", "gpa", "rad", "rad∕s", "rad∕s2"]),
   (0x33b0, ["ps", "ns", "μs", "ms", "pv", "nv", "μv", "mv", "kv", "mv", "pw", "nw"]),
   (0x33bc, ["μw", "mw", "kw", "mw", "kω", "mω"]), (0x33c3, ["bq", "cc", "cd", "c∕kg"]),
   (0x33c8, ["db", "gy", "ha", "hp", "in", "kk", "km", "kt", "lm", "ln", "log", "lx"]),
   (0x33d4, ["mb", "mil", "mol", "ph"]),
   (0x33d9, ["ppm", "pr", "sr", "sv", "wb", "v∕m", "a∕m", "1日", "2日", "3日", "4日", "5日"]),
   (0x33e5, ["6日", "7日", "8日", "9日", "10日", "11日", "12日", "13日", "14日", "15日", "16日", "17日"]),
   (0x33f1, ["18日", "19日", "20日", "21日", "22日", "23日", "24日", "25日", "26日", "27日", "28日", "29日"]),
   (0x33fd, ["30日", "31日", "gal"]), (0xfb00, ["ff", "fi", "fl", "ffi", "ffl", "st", "st"]),
   (0x1f101, ["0,", "1,", "2,", "3,", "4,", "5,", "6,", "7,", "8,", "9,"]),
   (0x1f110, ["(a)", "(b)", "(c)", "(d)", "(e)", "(f)", "(g)", "(h)", "(i)", "(j)", "(k)", "(l)"]),
   (0x1f11c, ["(m)", "(n)", "(o)", "(p)", "(q)", "(r)", "(s)", "(t)", "(u)", "(v)", "(w)", "(x)"]),
   (0x1f128, ["(y)", "(z)", "〔s〕"]), (0x1f12d, ["cd", "wz"]), (0x1f14a, ["hv", "mv", "sd", "ss", "ppv", "wc"]),
   (0x1f16a, ["mc", "md", "mr"]), (0x1f190, ["dj"]),
   (0x1f240, ["〔本〕", "〔三〕", "〔二〕", "〔安〕", "〔点〕", "〔打〕", "〔盗〕", "〔勝〕", "〔敗〕"])]

-- Characters read as others that are in the same names. They are left as they are.
def folded : Ranges :=
  [(0xb5, 0xb5), (0xc0, 0xd6), (0xd8, 0xde), (0x134, 0x134), (0x136, 0x136), (0x178, 0x179), (0x17b, 0x17b),
   (0x17d, 0x17d), (0x181, 0x182), (0x184, 0x184), (0x186, 0x187), (0x189, 0x18b), (0x18e, 0x191), (0x193, 0x194),
   (0x196, 0x198), (0x19c, 0x19d), (0x19f, 0x1a0), (0x1a2, 0x1a2), (0x1a4, 0x1a4), (0x1a6, 0x1a7), (0x1a9, 0x1a9),
   (0x1ac, 0x1ac), (0x1ae, 0x1af), (0x1b1, 0x1b3), (0x1b5, 0x1b5), (0x1b7, 0x1b8), (0x1bc, 0x1bc), (0x1f4, 0x1f4),
   (0x1f6, 0x1f8), (0x23a, 0x23b), (0x23d, 0x23e), (0x241, 0x241), (0x243, 0x246), (0x2b1, 0x2b6), (0x2e0, 0x2e4),
   (0x340, 0x341), (0x343, 0x344), (0x37f, 0x38f), (0x391, 0x3ab), (0x3cf, 0x3d6), (0x3f0, 0x3f2), (0x3f4, 0x3f5),
   (0x3f7, 0x3f7), (0x3f9, 0x3fa), (0x3fd, 0x42f), (0x4c0, 0x4c1), (0x531, 0x556), (0x587, 0x587), (0x675, 0x678),
   (0x958, 0x95f), (0x9dc, 0x9df), (0xa33, 0xa33), (0xa36, 0xa36), (0xa59, 0xa5b), (0xa5e, 0xa5e), (0xb5c, 0xb5d),
   (0xedc, 0xedd), (0xf0c, 0xf0c), (0xf43, 0xf43), (0xf4d, 0xf4d), (0xf52, 0xf52), (0xf57, 0xf57), (0xf5c, 0xf5c),
   (0xf69, 0xf69), (0xf73, 0xf73), (0xf75, 0xf79), (0xf81, 0xf81), (0xf93, 0xf93), (0xf9d, 0xf9d), (0xfa2, 0xfa2),
   (0xfa7, 0xfa7), (0xfac, 0xfac), (0xfb9, 0xfb9), (0x10a0, 0x10cd), (0x10fc, 0x10fc), (0x13f8, 0x13fd),
   (0x1c80, 0x1c89), (0x1c90, 0x1cbf), (0x1d2d, 0x1d2d), (0x1d32, 0x1d32), (0x1d3d, 0x1d4c), (0x1d51, 0x1d6a),
   (0x1d78, 0x1d78), (0x1d9b, 0x1dbf), (0x1e9b, 0x1e9b), (0x1f08, 0x1f0f), (0x1f18, 0x1f1d), (0x1f28, 0x1f2f),
   (0x1f38, 0x1f3f), (0x1f48, 0x1f4d), (0x1f59, 0x1f5f), (0x1f68, 0x1f6f), (0x1f7d, 0x1faf), (0x1fb2, 0x1fb4),
   (0x1fb7, 0x1fc4), (0x1fc7, 0x1fcc), (0x1fd3, 0x1fd3), (0x1fd8, 0x1fdb), (0x1fe3, 0x1fe3), (0x1fe8, 0x1ff4),
   (0x1ff7, 0x1ffc), (0x2011, 0x2011), (0x2033, 0x2034), (0x2036, 0x2037), (0x2057, 0x2057), (0x207b, 0x2094),
   (0x2107, 0x2107), (0x210f, 0x210f), (0x2126, 0x2126), (0x212b, 0x212b), (0x2132, 0x2132), (0x213c, 0x2140),
   (0x2183, 0x2183), (0x222c, 0x222d), (0x222f, 0x2230), (0x2329, 0x232a), (0x2a0c, 0x2a0c), (0x2adc, 0x2adc),
   (0x2c00, 0x2c2f), (0x2c60, 0x2c60), (0x2c62, 0x2c64), (0x2c6d, 0x2c70), (0x2c72, 0x2c72), (0x2c75, 0x2c75),
   (0x2c7e, 0x2c80), (0x2ceb, 0x2ceb), (0x2ced, 0x2ced), (0x2cf2, 0x2cf2), (0x2d6f, 0x2d6f), (0x2e9f, 0x2e9f),
   (0x2ef3, 0x2fd5), (0x3036, 0x3036), (0x3038, 0x303a), (0x309f, 0x309f), (0x30ff, 0x30ff), (0x3131, 0x318e),
   (0x3192, 0x319f), (0x3244, 0x3247), (0x3260, 0x327e), (0x3280, 0x337f), (0xa69c, 0xa69d), (0xa779, 0xa779),
   (0xa77b, 0xa77b), (0xa77d, 0xa77e), (0xa78b, 0xa78b), (0xa78d, 0xa78d), (0xa790, 0xa790), (0xa792, 0xa792),
   (0xa7aa, 0xa7ae), (0xa7b0, 0xa7b4)]
    ++ [(0xa7c4, 0xa7c7), (0xa7c9, 0xa7c9), (0xa7cb, 0xa7cc), (0xa7dc, 0xa7f5), (0xa7f8, 0xa7f9), (0xab5c, 0xab5f),
       (0xab69, 0xab69), (0xab70, 0xabbf), (0xf900, 0xfa0d), (0xfa10, 0xfa10), (0xfa12, 0xfa12), (0xfa15, 0xfa1e),
       (0xfa20, 0xfa20), (0xfa22, 0xfa22), (0xfa25, 0xfa26), (0xfa2a, 0xfb1d), (0xfb1f, 0xfbb1), (0xfbd3, 0xfd3d),
       (0xfd50, 0xfd8f), (0xfd92, 0xfdc7), (0xfdf0, 0xfdfc), (0xfe11, 0xfe18), (0xfe31, 0xfe44), (0xfe51, 0xfe71),
       (0xfe77, 0xffee), (0x10400, 0x10427), (0x104b0, 0x104d3), (0x10570, 0x10595), (0x10781, 0x107ba),
       (0x10c80, 0x10cb2), (0x10d50, 0x10d65), (0x118a0, 0x118bf), (0x16e40, 0x16e5f), (0x16ea0, 0x16eb8),
       (0x1d15e, 0x1d164), (0x1d1bb, 0x1d1c0), (0x1d6a4, 0x1d7cb), (0x1e030, 0x1e06d), (0x1e900, 0x1e921),
       (0x1ee00, 0x1eebb), (0x1f200, 0x1f251), (0x2f800, 0x2fa1d)]

def foldedAlternately : Ranges :=
  [(0x100, 0x12e), (0x139, 0x13d), (0x141, 0x147), (0x14a, 0x176), (0x1cd, 0x1db), (0x1de, 0x1ee), (0x1fa, 0x232),
   (0x248, 0x24e), (0x370, 0x376), (0x3d8, 0x3ee), (0x460, 0x480), (0x48a, 0x4be), (0x4c3, 0x4cd), (0x4d0, 0x52e),
   (0x1e00, 0x1e94), (0x1e9e, 0x1efe), (0x1f71, 0x1f7b), (0x2c67, 0x2c6b), (0x2c82, 0x2ce2), (0xa640, 0xa66c),
   (0xa680, 0xa69a), (0xa722, 0xa72e), (0xa732, 0xa770), (0xa780, 0xa786), (0xa796, 0xa7a8), (0xa7b6, 0xa7c2),
   (0xa7ce, 0xa7da)]

def advance (c : Char) (steps : Nat) : Char :=
  if c.isLower then Char.ofNat ('a'.toNat + (c.toNat - 'a'.toNat + steps) % 26)
  else if c.isDigit then Char.ofNat ('0'.toNat + (c.toNat - '0'.toNat + steps) % 10)
  else Char.ofNat (c.toNat + steps)

def alias? (c : Char) : Option Text :=
  (aliases.find? (fun (first, last, _) => first ≤ c.toNat && c.toNat ≤ last)).map
    (fun (first, _, plain) => [advance plain (c.toNat - first)])

def spelling? (c : Char) : Option Text :=
  spelled.findSome? (fun (first, texts) =>
    if first ≤ c.toNat then (texts[c.toNat - first]?).map String.toList else none)

def isFolded (c : Char) : Bool :=
  folded.has c || foldedAlternately.any (fun (first, last) =>
    first ≤ c.toNat && c.toNat ≤ last && (c.toNat - first) % 2 = 0)

def isJoiner (c : Char) : Bool := c = '\u200c' || c = '\u200d'

def isRefused (c : Char) : Bool := refused.has c || (Text.isUnprintable c && !isJoiner c)

def reading? (c : Char) : Option Text :=
  if Text.isAscii c then some [c.toLower]
  else if ignored.has c then some []
  else if isRefused c then none
  else some ((alias? c <|> spelling? c).getD [c])

def isSettled (c : Char) : Bool := reading? c = some [c] && !isFolded c

end ThinScan.Url.Domain
