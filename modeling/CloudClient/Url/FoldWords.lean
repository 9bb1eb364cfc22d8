/-! Characters beyond ASCII that are read as a text of several characters: ligatures, fractions,
abbreviations, and figures in brackets. -/
namespace CloudClient.Url

def foldedWords : List (Nat × String) := [
  (0xA8, " \u0308"), (0xAF, " \u0304"), (0xB4, " \u0301"), (0xB8, " \u0327"), (0xBC, "1\u20444"),
  (0xBD, "1\u20442"), (0xBE, "3\u20444"), (0x130, "i\u0307"), (0x132, "ij"), (0x133, "ij"),
  (0x13F, "l\u00b7"), (0x140, "l\u00b7"), (0x149, "\u02bcn"), (0x1C4, "d\u017e"),
  (0x1C5, "d\u017e"), (0x1C6, "d\u017e"), (0x1C7, "lj"), (0x1C8, "lj"), (0x1C9, "lj"),
  (0x1CA, "nj"), (0x1CB, "nj"), (0x1CC, "nj"), (0x1F1, "dz"), (0x1F2, "dz"), (0x1F3, "dz"),
  (0x2D8, " \u0306"), (0x2D9, " \u0307"), (0x2DA, " \u030a"), (0x2DB, " \u0328"),
  (0x2DC, " \u0303"), (0x2DD, " \u030b"), (0x344, "\u0308\u0301"), (0x37A, " \u03b9"),
  (0x384, " \u0301"), (0x385, " \u0308\u0301"), (0x587, "\u0565\u0582"), (0x675, "\u0627\u0674"),
  (0x676, "\u0648\u0674"), (0x677, "\u06c7\u0674"), (0x678, "\u064a\u0674"),
  (0x958, "\u0915\u093c"), (0x959, "\u0916\u093c"), (0x95A, "\u0917\u093c"),
  (0x95B, "\u091c\u093c"), (0x95C, "\u0921\u093c"), (0x95D, "\u0922\u093c"),
  (0x95E, "\u092b\u093c"), (0x95F, "\u092f\u093c"), (0x9DC, "\u09a1\u09bc"),
  (0x9DD, "\u09a2\u09bc"), (0x9DF, "\u09af\u09bc"), (0xA33, "\u0a32\u0a3c"),
  (0xA36, "\u0a38\u0a3c"), (0xA59, "\u0a16\u0a3c"), (0xA5A, "\u0a17\u0a3c"),
  (0xA5B, "\u0a1c\u0a3c"), (0xA5E, "\u0a2b\u0a3c"), (0xB5C, "\u0b21\u0b3c"),
  (0xB5D, "\u0b22\u0b3c"), (0xE33, "\u0e4d\u0e32"), (0xEB3, "\u0ecd\u0eb2"),
  (0xEDC, "\u0eab\u0e99"), (0xEDD, "\u0eab\u0ea1"), (0xF43, "\u0f42\u0fb7"),
  (0xF4D, "\u0f4c\u0fb7"), (0xF52, "\u0f51\u0fb7"), (0xF57, "\u0f56\u0fb7"),
  (0xF5C, "\u0f5b\u0fb7"), (0xF69, "\u0f40\u0fb5"), (0xF73, "\u0f71\u0f72"),
  (0xF75, "\u0f71\u0f74"), (0xF76, "\u0fb2\u0f80"), (0xF77, "\u0fb2\u0f71\u0f80"),
  (0xF78, "\u0fb3\u0f80"), (0xF79, "\u0fb3\u0f71\u0f80"), (0xF81, "\u0f71\u0f80"),
  (0xF93, "\u0f92\u0fb7"), (0xF9D, "\u0f9c\u0fb7"), (0xFA2, "\u0fa1\u0fb7"),
  (0xFA7, "\u0fa6\u0fb7"), (0xFAC, "\u0fab\u0fb7"), (0xFB9, "\u0f90\u0fb5"), (0x1E9A, "a\u02be"),
  (0x1F80, "\u1f00\u03b9"), (0x1F81, "\u1f01\u03b9"), (0x1F82, "\u1f02\u03b9"),
  (0x1F83, "\u1f03\u03b9"), (0x1F84, "\u1f04\u03b9"), (0x1F85, "\u1f05\u03b9"),
  (0x1F86, "\u1f06\u03b9"), (0x1F87, "\u1f07\u03b9"), (0x1F88, "\u1f00\u03b9"),
  (0x1F89, "\u1f01\u03b9"), (0x1F8A, "\u1f02\u03b9"), (0x1F8B, "\u1f03\u03b9"),
  (0x1F8C, "\u1f04\u03b9"), (0x1F8D, "\u1f05\u03b9"), (0x1F8E, "\u1f06\u03b9"),
  (0x1F8F, "\u1f07\u03b9"), (0x1F90, "\u1f20\u03b9"), (0x1F91, "\u1f21\u03b9"),
  (0x1F92, "\u1f22\u03b9"), (0x1F93, "\u1f23\u03b9"), (0x1F94, "\u1f24\u03b9"),
  (0x1F95, "\u1f25\u03b9"), (0x1F96, "\u1f26\u03b9"), (0x1F97, "\u1f27\u03b9"),
  (0x1F98, "\u1f20\u03b9"), (0x1F99, "\u1f21\u03b9"), (0x1F9A, "\u1f22\u03b9"),
  (0x1F9B, "\u1f23\u03b9"), (0x1F9C, "\u1f24\u03b9"), (0x1F9D, "\u1f25\u03b9"),
  (0x1F9E, "\u1f26\u03b9"), (0x1F9F, "\u1f27\u03b9"), (0x1FA0, "\u1f60\u03b9"),
  (0x1FA1, "\u1f61\u03b9"), (0x1FA2, "\u1f62\u03b9"), (0x1FA3, "\u1f63\u03b9"),
  (0x1FA4, "\u1f64\u03b9"), (0x1FA5, "\u1f65\u03b9"), (0x1FA6, "\u1f66\u03b9"),
  (0x1FA7, "\u1f67\u03b9"), (0x1FA8, "\u1f60\u03b9"), (0x1FA9, "\u1f61\u03b9"),
  (0x1FAA, "\u1f62\u03b9"), (0x1FAB, "\u1f63\u03b9"), (0x1FAC, "\u1f64\u03b9"),
  (0x1FAD, "\u1f65\u03b9"), (0x1FAE, "\u1f66\u03b9"), (0x1FAF, "\u1f67\u03b9"),
  (0x1FB2, "\u1f70\u03b9"), (0x1FB3, "\u03b1\u03b9"), (0x1FB4, "\u03ac\u03b9"),
  (0x1FB7, "\u1fb6\u03b9"), (0x1FBC, "\u03b1\u03b9"), (0x1FBD, " \u0313"), (0x1FBF, " \u0313"),
  (0x1FC0, " \u0342"), (0x1FC1, " \u0308\u0342"), (0x1FC2, "\u1f74\u03b9"),
  (0x1FC3, "\u03b7\u03b9"), (0x1FC4, "\u03ae\u03b9"), (0x1FC7, "\u1fc6\u03b9"),
  (0x1FCC, "\u03b7\u03b9"), (0x1FCD, " \u0313\u0300"), (0x1FCE, " \u0313\u0301"),
  (0x1FCF, " \u0313\u0342"), (0x1FDD, " \u0314\u0300"), (0x1FDE, " \u0314\u0301"),
  (0x1FDF, " \u0314\u0342"), (0x1FED, " \u0308\u0300"), (0x1FEE, " \u0308\u0301"),
  (0x1FF2, "\u1f7c\u03b9"), (0x1FF3, "\u03c9\u03b9"), (0x1FF4, "\u03ce\u03b9"),
  (0x1FF7, "\u1ff6\u03b9"), (0x1FFC, "\u03c9\u03b9"), (0x1FFD, " \u0301"), (0x1FFE, " \u0314"),
  (0x2017, " \u0333"), (0x2033, "\u2032\u2032"), (0x2034, "\u2032\u2032\u2032"),
  (0x2036, "\u2035\u2035"), (0x2037, "\u2035\u2035\u2035"), (0x203C, "!!"), (0x203E, " \u0305"),
  (0x2047, "??"), (0x2048, "?!"), (0x2049, "!?"), (0x2057, "\u2032\u2032\u2032\u2032"),
  (0x20A8, "rs"), (0x2100, "a/c"), (0x2101, "a/s"), (0x2103, "\u00b0c"), (0x2105, "c/o"),
  (0x2106, "c/u"), (0x2109, "\u00b0f"), (0x2116, "no"), (0x2120, "sm"), (0x2121, "tel"),
  (0x2122, "tm"), (0x213B, "fax"), (0x2150, "1\u20447"), (0x2151, "1\u20449"),
  (0x2152, "1\u204410"), (0x2153, "1\u20443"), (0x2154, "2\u20443"), (0x2155, "1\u20445"),
  (0x2156, "2\u20445"), (0x2157, "3\u20445"), (0x2158, "4\u20445"), (0x2159, "1\u20446"),
  (0x215A, "5\u20446"), (0x215B, "1\u20448"), (0x215C, "3\u20448"), (0x215D, "5\u20448"),
  (0x215E, "7\u20448"), (0x215F, "1\u2044"), (0x2161, "ii"), (0x2162, "iii"), (0x2163, "iv"),
  (0x2165, "vi"), (0x2166, "vii"), (0x2167, "viii"), (0x2168, "ix"), (0x216A, "xi"),
  (0x216B, "xii"), (0x2171, "ii"), (0x2172, "iii"), (0x2173, "iv"), (0x2175, "vi"), (0x2176, "vii"),
  (0x2177, "viii"), (0x2178, "ix"), (0x217A, "xi"), (0x217B, "xii"), (0x2189, "0\u20443"),
  (0x222C, "\u222b\u222b"), (0x222D, "\u222b\u222b\u222b"), (0x222F, "\u222e\u222e"),
  (0x2230, "\u222e\u222e\u222e"), (0x2469, "10"), (0x246A, "11"), (0x246B, "12"), (0x246C, "13"),
  (0x246D, "14"), (0x246E, "15"), (0x246F, "16"), (0x2470, "17"), (0x2471, "18"), (0x2472, "19"),
  (0x2473, "20"), (0x2474, "(1)"), (0x2475, "(2)"), (0x2476, "(3)"), (0x2477, "(4)"),
  (0x2478, "(5)"), (0x2479, "(6)"), (0x247A, "(7)"), (0x247B, "(8)"), (0x247C, "(9)"),
  (0x247D, "(10)"), (0x247E, "(11)"), (0x247F, "(12)"), (0x2480, "(13)"), (0x2481, "(14)"),
  (0x2482, "(15)"), (0x2483, "(16)"), (0x2484, "(17)"), (0x2485, "(18)"), (0x2486, "(19)"),
  (0x2487, "(20)"), (0x249C, "(a)"), (0x249D, "(b)"), (0x249E, "(c)"), (0x249F, "(d)"),
  (0x24A0, "(e)"), (0x24A1, "(f)"), (0x24A2, "(g)"), (0x24A3, "(h)"), (0x24A4, "(i)"),
  (0x24A5, "(j)"), (0x24A6, "(k)"), (0x24A7, "(l)"), (0x24A8, "(m)"), (0x24A9, "(n)"),
  (0x24AA, "(o)"), (0x24AB, "(p)"), (0x24AC, "(q)"), (0x24AD, "(r)"), (0x24AE, "(s)"),
  (0x24AF, "(t)"), (0x24B0, "(u)"), (0x24B1, "(v)"), (0x24B2, "(w)"), (0x24B3, "(x)"),
  (0x24B4, "(y)"), (0x24B5, "(z)"), (0x2A0C, "\u222b\u222b\u222b\u222b"), (0x2A74, "::="),
  (0x2A75, "=="), (0x2A76, "==="), (0x2ADC, "\u2add\u0338"), (0x309B, " \u3099"),
  (0x309C, " \u309a"), (0x309F, "\u3088\u308a"), (0x30FF, "コト"), (0x3200, "(\u1100)"),
  (0x3201, "(\u1102)"), (0x3202, "(\u1103)"), (0x3203, "(\u1105)"), (0x3204, "(\u1106)"),
  (0x3205, "(\u1107)"), (0x3206, "(\u1109)"), (0x3207, "(\u110b)"), (0x3208, "(\u110c)"),
  (0x3209, "(\u110e)"), (0x320A, "(\u110f)"), (0x320B, "(\u1110)"), (0x320C, "(\u1111)"),
  (0x320D, "(\u1112)"), (0x320E, "(\uac00)"), (0x320F, "(\ub098)"), (0x3210, "(\ub2e4)"),
  (0x3211, "(\ub77c)"), (0x3212, "(\ub9c8)"), (0x3213, "(\ubc14)"), (0x3214, "(\uc0ac)"),
  (0x3215, "(\uc544)"), (0x3216, "(\uc790)"), (0x3217, "(\ucc28)"), (0x3218, "(\uce74)"),
  (0x3219, "(\ud0c0)"), (0x321A, "(\ud30c)"), (0x321B, "(\ud558)"), (0x321C, "(\uc8fc)"),
  (0x321D, "(\uc624\uc804)"), (0x321E, "(\uc624\ud6c4)"), (0x3220, "(一)"), (0x3221, "(二)"),
  (0x3222, "(三)"), (0x3223, "(四)"), (0x3224, "(五)"), (0x3225, "(六)"), (0x3226, "(七)"),
  (0x3227, "(八)"), (0x3228, "(九)"), (0x3229, "(十)"), (0x322A, "(月)"), (0x322B, "(火)"),
  (0x322C, "(水)"), (0x322D, "(木)"), (0x322E, "(金)"), (0x322F, "(土)"), (0x3230, "(日)"),
  (0x3231, "(株)"), (0x3232, "(有)"), (0x3233, "(社)"), (0x3234, "(名)"), (0x3235, "(特)"),
  (0x3236, "(財)"), (0x3237, "(祝)"), (0x3238, "(労)"), (0x3239, "(代)"), (0x323A, "(呼)"),
  (0x323B, "(学)"), (0x323C, "(監)"), (0x323D, "(企)"), (0x323E, "(資)"), (0x323F, "(協)"),
  (0x3240, "(祭)"), (0x3241, "(休)"), (0x3242, "(自)"), (0x3243, "(至)"), (0x3250, "pte"),
  (0x3251, "21"), (0x3252, "22"), (0x3253, "23"), (0x3254, "24"), (0x3255, "25"), (0x3256, "26"),
  (0x3257, "27"), (0x3258, "28"), (0x3259, "29"), (0x325A, "30"), (0x325B, "31"), (0x325C, "32"),
  (0x325D, "33"), (0x325E, "34"), (0x325F, "35"), (0x327C, "\ucc38\uace0"),
  (0x327D, "\uc8fc\uc758"), (0x32B1, "36"), (0x32B2, "37"), (0x32B3, "38"), (0x32B4, "39"),
  (0x32B5, "40"), (0x32B6, "41"), (0x32B7, "42"), (0x32B8, "43"), (0x32B9, "44"), (0x32BA, "45"),
  (0x32BB, "46"), (0x32BC, "47"), (0x32BD, "48"), (0x32BE, "49"), (0x32BF, "50"), (0x32C0, "1月"),
  (0x32C1, "2月"), (0x32C2, "3月"), (0x32C3, "4月"), (0x32C4, "5月"), (0x32C5, "6月"), (0x32C6, "7月"),
  (0x32C7, "8月"), (0x32C8, "9月"), (0x32C9, "10月"), (0x32CA, "11月"), (0x32CB, "12月"), (0x32CC, "hg"),
  (0x32CD, "erg"), (0x32CE, "ev"), (0x32CF, "ltd"), (0x32FF, "令和"), (0x3300, "アパート"),
  (0x3301, "アルファ"), (0x3302, "アンペア"), (0x3303, "アール"), (0x3304, "イニング"), (0x3305, "インチ"),
  (0x3306, "ウォン"), (0x3307, "エスクード"), (0x3308, "エーカー"), (0x3309, "オンス"), (0x330A, "オーム"),
  (0x330B, "カイリ"), (0x330C, "カラット"), (0x330D, "カロリー"), (0x330E, "ガロン"), (0x330F, "ガンマ"),
  (0x3310, "ギガ"), (0x3311, "ギニー"), (0x3312, "キュリー"), (0x3313, "ギルダー"), (0x3314, "キロ"),
  (0x3315, "キログラム"), (0x3316, "キロメートル"), (0x3317, "キロワット"), (0x3318, "グラム"), (0x3319, "グラムトン"),
  (0x331A, "クルゼイロ"), (0x331B, "クローネ"), (0x331C, "ケース"), (0x331D, "コルナ"), (0x331E, "コーポ"),
  (0x331F, "サイクル"), (0x3320, "サンチーム"), (0x3321, "シリング"), (0x3322, "センチ"), (0x3323, "セント"),
  (0x3324, "ダース"), (0x3325, "デシ"), (0x3326, "ドル"), (0x3327, "トン"), (0x3328, "ナノ"), (0x3329, "ノット"),
  (0x332A, "ハイツ"), (0x332B, "パーセント"), (0x332C, "パーツ"), (0x332D, "バーレル"), (0x332E, "ピアストル"),
  (0x332F, "ピクル"), (0x3330, "ピコ"), (0x3331, "ビル"), (0x3332, "ファラッド"), (0x3333, "フィート"),
  (0x3334, "ブッシェル"), (0x3335, "フラン"), (0x3336, "ヘクタール"), (0x3337, "ペソ"), (0x3338, "ペニヒ"),
  (0x3339, "ヘルツ"), (0x333A, "ペンス"), (0x333B, "ページ"), (0x333C, "ベータ"), (0x333D, "ポイント"),
  (0x333E, "ボルト"), (0x333F, "ホン"), (0x3340, "ポンド"), (0x3341, "ホール"), (0x3342, "ホーン"),
  (0x3343, "マイクロ"), (0x3344, "マイル"), (0x3345, "マッハ"), (0x3346, "マルク"), (0x3347, "マンション"),
  (0x3348, "ミクロン"), (0x3349, "ミリ"), (0x334A, "ミリバール"), (0x334B, "メガ"), (0x334C, "メガトン"),
  (0x334D, "メートル"), (0x334E, "ヤード"), (0x334F, "ヤール"), (0x3350, "ユアン"), (0x3351, "リットル"),
  (0x3352, "リラ"), (0x3353, "ルピー"), (0x3354, "ルーブル"), (0x3355, "レム"), (0x3356, "レントゲン"),
  (0x3357, "ワット"), (0x3358, "0点"), (0x3359, "1点"), (0x335A, "2点"), (0x335B, "3点"), (0x335C, "4点"),
  (0x335D, "5点"), (0x335E, "6点"), (0x335F, "7点"), (0x3360, "8点"), (0x3361, "9点"), (0x3362, "10点"),
  (0x3363, "11点"), (0x3364, "12点"), (0x3365, "13点"), (0x3366, "14点"), (0x3367, "15点"),
  (0x3368, "16点"), (0x3369, "17点"), (0x336A, "18点"), (0x336B, "19点"), (0x336C, "20点"),
  (0x336D, "21点"), (0x336E, "22点"), (0x336F, "23点"), (0x3370, "24点"), (0x3371, "hpa"),
  (0x3372, "da"), (0x3373, "au"), (0x3374, "bar"), (0x3375, "ov"), (0x3376, "pc"), (0x3377, "dm"),
  (0x3378, "dm2"), (0x3379, "dm3"), (0x337A, "iu"), (0x337B, "平成"), (0x337C, "昭和"), (0x337D, "大正"),
  (0x337E, "明治"), (0x337F, "株式会社"), (0x3380, "pa"), (0x3381, "na"), (0x3382, "\u03bca"),
  (0x3383, "ma"), (0x3384, "ka"), (0x3385, "kb"), (0x3386, "mb"), (0x3387, "gb"), (0x3388, "cal"),
  (0x3389, "kcal"), (0x338A, "pf"), (0x338B, "nf"), (0x338C, "\u03bcf"), (0x338D, "\u03bcg"),
  (0x338E, "mg"), (0x338F, "kg"), (0x3390, "hz"), (0x3391, "khz"), (0x3392, "mhz"), (0x3393, "ghz"),
  (0x3394, "thz"), (0x3395, "\u03bcl"), (0x3396, "ml"), (0x3397, "dl"), (0x3398, "kl"),
  (0x3399, "fm"), (0x339A, "nm"), (0x339B, "\u03bcm"), (0x339C, "mm"), (0x339D, "cm"),
  (0x339E, "km"), (0x339F, "mm2"), (0x33A0, "cm2"), (0x33A1, "m2"), (0x33A2, "km2"),
  (0x33A3, "mm3"), (0x33A4, "cm3"), (0x33A5, "m3"), (0x33A6, "km3"), (0x33A7, "m\u2215s"),
  (0x33A8, "m\u2215s2"), (0x33A9, "pa"), (0x33AA, "kpa"), (0x33AB, "mpa"), (0x33AC, "gpa"),
  (0x33AD, "rad"), (0x33AE, "rad\u2215s"), (0x33AF, "rad\u2215s2"), (0x33B0, "ps"), (0x33B1, "ns"),
  (0x33B2, "\u03bcs"), (0x33B3, "ms"), (0x33B4, "pv"), (0x33B5, "nv"), (0x33B6, "\u03bcv"),
  (0x33B7, "mv"), (0x33B8, "kv"), (0x33B9, "mv"), (0x33BA, "pw"), (0x33BB, "nw"),
  (0x33BC, "\u03bcw"), (0x33BD, "mw"), (0x33BE, "kw"), (0x33BF, "mw"), (0x33C0, "k\u03c9"),
  (0x33C1, "m\u03c9"), (0x33C3, "bq"), (0x33C4, "cc"), (0x33C5, "cd"), (0x33C6, "c\u2215kg"),
  (0x33C8, "db"), (0x33C9, "gy"), (0x33CA, "ha"), (0x33CB, "hp"), (0x33CC, "in"), (0x33CD, "kk"),
  (0x33CE, "km"), (0x33CF, "kt"), (0x33D0, "lm"), (0x33D1, "ln"), (0x33D2, "log"), (0x33D3, "lx"),
  (0x33D4, "mb"), (0x33D5, "mil"), (0x33D6, "mol"), (0x33D7, "ph"), (0x33D9, "ppm"), (0x33DA, "pr"),
  (0x33DB, "sr"), (0x33DC, "sv"), (0x33DD, "wb"), (0x33DE, "v\u2215m"), (0x33DF, "a\u2215m"),
  (0x33E0, "1日"), (0x33E1, "2日"), (0x33E2, "3日"), (0x33E3, "4日"), (0x33E4, "5日"), (0x33E5, "6日"),
  (0x33E6, "7日"), (0x33E7, "8日"), (0x33E8, "9日"), (0x33E9, "10日"), (0x33EA, "11日"), (0x33EB, "12日"),
  (0x33EC, "13日"), (0x33ED, "14日"), (0x33EE, "15日"), (0x33EF, "16日"), (0x33F0, "17日"),
  (0x33F1, "18日"), (0x33F2, "19日"), (0x33F3, "20日"), (0x33F4, "21日"), (0x33F5, "22日"),
  (0x33F6, "23日"), (0x33F7, "24日"), (0x33F8, "25日"), (0x33F9, "26日"), (0x33FA, "27日"),
  (0x33FB, "28日"), (0x33FC, "29日"), (0x33FD, "30日"), (0x33FE, "31日"), (0x33FF, "gal"),
  (0xFB00, "ff"), (0xFB01, "fi"), (0xFB02, "fl"), (0xFB03, "ffi"), (0xFB04, "ffl"), (0xFB05, "st"),
  (0xFB06, "st"), (0xFB13, "\u0574\u0576"), (0xFB14, "\u0574\u0565"), (0xFB15, "\u0574\u056b"),
  (0xFB16, "\u057e\u0576"), (0xFB17, "\u0574\u056d"), (0xFB1D, "\u05d9\u05b4"),
  (0xFB1F, "\u05f2\u05b7"), (0xFB2A, "\u05e9\u05c1"), (0xFB2B, "\u05e9\u05c2"),
  (0xFB2C, "\u05e9\u05bc\u05c1"), (0xFB2D, "\u05e9\u05bc\u05c2"), (0xFB2E, "\u05d0\u05b7"),
  (0xFB2F, "\u05d0\u05b8"), (0xFB30, "\u05d0\u05bc"), (0xFB31, "\u05d1\u05bc"),
  (0xFB32, "\u05d2\u05bc"), (0xFB33, "\u05d3\u05bc"), (0xFB34, "\u05d4\u05bc"),
  (0xFB35, "\u05d5\u05bc"), (0xFB36, "\u05d6\u05bc"), (0xFB38, "\u05d8\u05bc"),
  (0xFB39, "\u05d9\u05bc"), (0xFB3A, "\u05da\u05bc"), (0xFB3B, "\u05db\u05bc"),
  (0xFB3C, "\u05dc\u05bc"), (0xFB3E, "\u05de\u05bc"), (0xFB40, "\u05e0\u05bc"),
  (0xFB41, "\u05e1\u05bc"), (0xFB43, "\u05e3\u05bc"), (0xFB44, "\u05e4\u05bc"),
  (0xFB46, "\u05e6\u05bc"), (0xFB47, "\u05e7\u05bc"), (0xFB48, "\u05e8\u05bc"),
  (0xFB49, "\u05e9\u05bc"), (0xFB4A, "\u05ea\u05bc"), (0xFB4B, "\u05d5\u05b9"),
  (0xFB4C, "\u05d1\u05bf"), (0xFB4D, "\u05db\u05bf"), (0xFB4E, "\u05e4\u05bf"),
  (0xFB4F, "\u05d0\u05dc"), (0xFBDD, "\u06c7\u0674"), (0xFBEA, "\u0626\u0627"),
  (0xFBEB, "\u0626\u0627"), (0xFBEC, "\u0626\u06d5"), (0xFBED, "\u0626\u06d5"),
  (0xFBEE, "\u0626\u0648"), (0xFBEF, "\u0626\u0648"), (0xFBF0, "\u0626\u06c7"),
  (0xFBF1, "\u0626\u06c7"), (0xFBF2, "\u0626\u06c6"), (0xFBF3, "\u0626\u06c6"),
  (0xFBF4, "\u0626\u06c8"), (0xFBF5, "\u0626\u06c8"), (0xFBF6, "\u0626\u06d0"),
  (0xFBF7, "\u0626\u06d0"), (0xFBF8, "\u0626\u06d0"), (0xFBF9, "\u0626\u0649"),
  (0xFBFA, "\u0626\u0649"), (0xFBFB, "\u0626\u0649"), (0xFC00, "\u0626\u062c"),
  (0xFC01, "\u0626\u062d"), (0xFC02, "\u0626\u0645"), (0xFC03, "\u0626\u0649"),
  (0xFC04, "\u0626\u064a"), (0xFC05, "\u0628\u062c"), (0xFC06, "\u0628\u062d"),
  (0xFC07, "\u0628\u062e"), (0xFC08, "\u0628\u0645"), (0xFC09, "\u0628\u0649"),
  (0xFC0A, "\u0628\u064a"), (0xFC0B, "\u062a\u062c"), (0xFC0C, "\u062a\u062d"),
  (0xFC0D, "\u062a\u062e"), (0xFC0E, "\u062a\u0645"), (0xFC0F, "\u062a\u0649"),
  (0xFC10, "\u062a\u064a"), (0xFC11, "\u062b\u062c"), (0xFC12, "\u062b\u0645"),
  (0xFC13, "\u062b\u0649"), (0xFC14, "\u062b\u064a"), (0xFC15, "\u062c\u062d"),
  (0xFC16, "\u062c\u0645"), (0xFC17, "\u062d\u062c"), (0xFC18, "\u062d\u0645"),
  (0xFC19, "\u062e\u062c"), (0xFC1A, "\u062e\u062d"), (0xFC1B, "\u062e\u0645"),
  (0xFC1C, "\u0633\u062c"), (0xFC1D, "\u0633\u062d"), (0xFC1E, "\u0633\u062e"),
  (0xFC1F, "\u0633\u0645"), (0xFC20, "\u0635\u062d"), (0xFC21, "\u0635\u0645"),
  (0xFC22, "\u0636\u062c"), (0xFC23, "\u0636\u062d"), (0xFC24, "\u0636\u062e"),
  (0xFC25, "\u0636\u0645"), (0xFC26, "\u0637\u062d"), (0xFC27, "\u0637\u0645"),
  (0xFC28, "\u0638\u0645"), (0xFC29, "\u0639\u062c"), (0xFC2A, "\u0639\u0645"),
  (0xFC2B, "\u063a\u062c"), (0xFC2C, "\u063a\u0645"), (0xFC2D, "\u0641\u062c"),
  (0xFC2E, "\u0641\u062d"), (0xFC2F, "\u0641\u062e"), (0xFC30, "\u0641\u0645"),
  (0xFC31, "\u0641\u0649"), (0xFC32, "\u0641\u064a"), (0xFC33, "\u0642\u062d"),
  (0xFC34, "\u0642\u0645"), (0xFC35, "\u0642\u0649"), (0xFC36, "\u0642\u064a"),
  (0xFC37, "\u0643\u0627"), (0xFC38, "\u0643\u062c"), (0xFC39, "\u0643\u062d"),
  (0xFC3A, "\u0643\u062e"), (0xFC3B, "\u0643\u0644"), (0xFC3C, "\u0643\u0645"),
  (0xFC3D, "\u0643\u0649"), (0xFC3E, "\u0643\u064a"), (0xFC3F, "\u0644\u062c"),
  (0xFC40, "\u0644\u062d"), (0xFC41, "\u0644\u062e"), (0xFC42, "\u0644\u0645"),
  (0xFC43, "\u0644\u0649"), (0xFC44, "\u0644\u064a"), (0xFC45, "\u0645\u062c"),
  (0xFC46, "\u0645\u062d"), (0xFC47, "\u0645\u062e"), (0xFC48, "\u0645\u0645"),
  (0xFC49, "\u0645\u0649"), (0xFC4A, "\u0645\u064a"), (0xFC4B, "\u0646\u062c"),
  (0xFC4C, "\u0646\u062d"), (0xFC4D, "\u0646\u062e"), (0xFC4E, "\u0646\u0645"),
  (0xFC4F, "\u0646\u0649"), (0xFC50, "\u0646\u064a"), (0xFC51, "\u0647\u062c"),
  (0xFC52, "\u0647\u0645"), (0xFC53, "\u0647\u0649"), (0xFC54, "\u0647\u064a"),
  (0xFC55, "\u064a\u062c"), (0xFC56, "\u064a\u062d"), (0xFC57, "\u064a\u062e"),
  (0xFC58, "\u064a\u0645"), (0xFC59, "\u064a\u0649"), (0xFC5A, "\u064a\u064a"),
  (0xFC5B, "\u0630\u0670"), (0xFC5C, "\u0631\u0670"), (0xFC5D, "\u0649\u0670"),
  (0xFC5E, " \u064c\u0651"), (0xFC5F, " \u064d\u0651"), (0xFC60, " \u064e\u0651"),
  (0xFC61, " \u064f\u0651"), (0xFC62, " \u0650\u0651"), (0xFC63, " \u0651\u0670"),
  (0xFC64, "\u0626\u0631"), (0xFC65, "\u0626\u0632"), (0xFC66, "\u0626\u0645"),
  (0xFC67, "\u0626\u0646"), (0xFC68, "\u0626\u0649"), (0xFC69, "\u0626\u064a"),
  (0xFC6A, "\u0628\u0631"), (0xFC6B, "\u0628\u0632"), (0xFC6C, "\u0628\u0645"),
  (0xFC6D, "\u0628\u0646"), (0xFC6E, "\u0628\u0649"), (0xFC6F, "\u0628\u064a"),
  (0xFC70, "\u062a\u0631"), (0xFC71, "\u062a\u0632"), (0xFC72, "\u062a\u0645"),
  (0xFC73, "\u062a\u0646"), (0xFC74, "\u062a\u0649"), (0xFC75, "\u062a\u064a"),
  (0xFC76, "\u062b\u0631"), (0xFC77, "\u062b\u0632"), (0xFC78, "\u062b\u0645"),
  (0xFC79, "\u062b\u0646"), (0xFC7A, "\u062b\u0649"), (0xFC7B, "\u062b\u064a"),
  (0xFC7C, "\u0641\u0649"), (0xFC7D, "\u0641\u064a"), (0xFC7E, "\u0642\u0649"),
  (0xFC7F, "\u0642\u064a"), (0xFC80, "\u0643\u0627"), (0xFC81, "\u0643\u0644"),
  (0xFC82, "\u0643\u0645"), (0xFC83, "\u0643\u0649"), (0xFC84, "\u0643\u064a"),
  (0xFC85, "\u0644\u0645"), (0xFC86, "\u0644\u0649"), (0xFC87, "\u0644\u064a"),
  (0xFC88, "\u0645\u0627"), (0xFC89, "\u0645\u0645"), (0xFC8A, "\u0646\u0631"),
  (0xFC8B, "\u0646\u0632"), (0xFC8C, "\u0646\u0645"), (0xFC8D, "\u0646\u0646"),
  (0xFC8E, "\u0646\u0649"), (0xFC8F, "\u0646\u064a"), (0xFC90, "\u0649\u0670"),
  (0xFC91, "\u064a\u0631"), (0xFC92, "\u064a\u0632"), (0xFC93, "\u064a\u0645"),
  (0xFC94, "\u064a\u0646"), (0xFC95, "\u064a\u0649"), (0xFC96, "\u064a\u064a"),
  (0xFC97, "\u0626\u062c"), (0xFC98, "\u0626\u062d"), (0xFC99, "\u0626\u062e"),
  (0xFC9A, "\u0626\u0645"), (0xFC9B, "\u0626\u0647"), (0xFC9C, "\u0628\u062c"),
  (0xFC9D, "\u0628\u062d"), (0xFC9E, "\u0628\u062e"), (0xFC9F, "\u0628\u0645"),
  (0xFCA0, "\u0628\u0647"), (0xFCA1, "\u062a\u062c"), (0xFCA2, "\u062a\u062d"),
  (0xFCA3, "\u062a\u062e"), (0xFCA4, "\u062a\u0645"), (0xFCA5, "\u062a\u0647"),
  (0xFCA6, "\u062b\u0645"), (0xFCA7, "\u062c\u062d"), (0xFCA8, "\u062c\u0645"),
  (0xFCA9, "\u062d\u062c"), (0xFCAA, "\u062d\u0645"), (0xFCAB, "\u062e\u062c"),
  (0xFCAC, "\u062e\u0645"), (0xFCAD, "\u0633\u062c"), (0xFCAE, "\u0633\u062d"),
  (0xFCAF, "\u0633\u062e"), (0xFCB0, "\u0633\u0645"), (0xFCB1, "\u0635\u062d"),
  (0xFCB2, "\u0635\u062e"), (0xFCB3, "\u0635\u0645"), (0xFCB4, "\u0636\u062c"),
  (0xFCB5, "\u0636\u062d"), (0xFCB6, "\u0636\u062e"), (0xFCB7, "\u0636\u0645"),
  (0xFCB8, "\u0637\u062d"), (0xFCB9, "\u0638\u0645"), (0xFCBA, "\u0639\u062c"),
  (0xFCBB, "\u0639\u0645"), (0xFCBC, "\u063a\u062c"), (0xFCBD, "\u063a\u0645"),
  (0xFCBE, "\u0641\u062c"), (0xFCBF, "\u0641\u062d"), (0xFCC0, "\u0641\u062e"),
  (0xFCC1, "\u0641\u0645"), (0xFCC2, "\u0642\u062d"), (0xFCC3, "\u0642\u0645"),
  (0xFCC4, "\u0643\u062c"), (0xFCC5, "\u0643\u062d"), (0xFCC6, "\u0643\u062e"),
  (0xFCC7, "\u0643\u0644"), (0xFCC8, "\u0643\u0645"), (0xFCC9, "\u0644\u062c"),
  (0xFCCA, "\u0644\u062d"), (0xFCCB, "\u0644\u062e"), (0xFCCC, "\u0644\u0645"),
  (0xFCCD, "\u0644\u0647"), (0xFCCE, "\u0645\u062c"), (0xFCCF, "\u0645\u062d"),
  (0xFCD0, "\u0645\u062e"), (0xFCD1, "\u0645\u0645"), (0xFCD2, "\u0646\u062c"),
  (0xFCD3, "\u0646\u062d"), (0xFCD4, "\u0646\u062e"), (0xFCD5, "\u0646\u0645"),
  (0xFCD6, "\u0646\u0647"), (0xFCD7, "\u0647\u062c"), (0xFCD8, "\u0647\u0645"),
  (0xFCD9, "\u0647\u0670"), (0xFCDA, "\u064a\u062c"), (0xFCDB, "\u064a\u062d"),
  (0xFCDC, "\u064a\u062e"), (0xFCDD, "\u064a\u0645"), (0xFCDE, "\u064a\u0647"),
  (0xFCDF, "\u0626\u0645"), (0xFCE0, "\u0626\u0647"), (0xFCE1, "\u0628\u0645"),
  (0xFCE2, "\u0628\u0647"), (0xFCE3, "\u062a\u0645"), (0xFCE4, "\u062a\u0647"),
  (0xFCE5, "\u062b\u0645"), (0xFCE6, "\u062b\u0647"), (0xFCE7, "\u0633\u0645"),
  (0xFCE8, "\u0633\u0647"), (0xFCE9, "\u0634\u0645"), (0xFCEA, "\u0634\u0647"),
  (0xFCEB, "\u0643\u0644"), (0xFCEC, "\u0643\u0645"), (0xFCED, "\u0644\u0645"),
  (0xFCEE, "\u0646\u0645"), (0xFCEF, "\u0646\u0647"), (0xFCF0, "\u064a\u0645"),
  (0xFCF1, "\u064a\u0647"), (0xFCF2, "\u0640\u064e\u0651"), (0xFCF3, "\u0640\u064f\u0651"),
  (0xFCF4, "\u0640\u0650\u0651"), (0xFCF5, "\u0637\u0649"), (0xFCF6, "\u0637\u064a"),
  (0xFCF7, "\u0639\u0649"), (0xFCF8, "\u0639\u064a"), (0xFCF9, "\u063a\u0649"),
  (0xFCFA, "\u063a\u064a"), (0xFCFB, "\u0633\u0649"), (0xFCFC, "\u0633\u064a"),
  (0xFCFD, "\u0634\u0649"), (0xFCFE, "\u0634\u064a"), (0xFCFF, "\u062d\u0649"),
  (0xFD00, "\u062d\u064a"), (0xFD01, "\u062c\u0649"), (0xFD02, "\u062c\u064a"),
  (0xFD03, "\u062e\u0649"), (0xFD04, "\u062e\u064a"), (0xFD05, "\u0635\u0649"),
  (0xFD06, "\u0635\u064a"), (0xFD07, "\u0636\u0649"), (0xFD08, "\u0636\u064a"),
  (0xFD09, "\u0634\u062c"), (0xFD0A, "\u0634\u062d"), (0xFD0B, "\u0634\u062e"),
  (0xFD0C, "\u0634\u0645"), (0xFD0D, "\u0634\u0631"), (0xFD0E, "\u0633\u0631"),
  (0xFD0F, "\u0635\u0631"), (0xFD10, "\u0636\u0631"), (0xFD11, "\u0637\u0649"),
  (0xFD12, "\u0637\u064a"), (0xFD13, "\u0639\u0649"), (0xFD14, "\u0639\u064a"),
  (0xFD15, "\u063a\u0649"), (0xFD16, "\u063a\u064a"), (0xFD17, "\u0633\u0649"),
  (0xFD18, "\u0633\u064a"), (0xFD19, "\u0634\u0649"), (0xFD1A, "\u0634\u064a"),
  (0xFD1B, "\u062d\u0649"), (0xFD1C, "\u062d\u064a"), (0xFD1D, "\u062c\u0649"),
  (0xFD1E, "\u062c\u064a"), (0xFD1F, "\u062e\u0649"), (0xFD20, "\u062e\u064a"),
  (0xFD21, "\u0635\u0649"), (0xFD22, "\u0635\u064a"), (0xFD23, "\u0636\u0649"),
  (0xFD24, "\u0636\u064a"), (0xFD25, "\u0634\u062c"), (0xFD26, "\u0634\u062d"),
  (0xFD27, "\u0634\u062e"), (0xFD28, "\u0634\u0645"), (0xFD29, "\u0634\u0631"),
  (0xFD2A, "\u0633\u0631"), (0xFD2B, "\u0635\u0631"), (0xFD2C, "\u0636\u0631"),
  (0xFD2D, "\u0634\u062c"), (0xFD2E, "\u0634\u062d"), (0xFD2F, "\u0634\u062e"),
  (0xFD30, "\u0634\u0645"), (0xFD31, "\u0633\u0647"), (0xFD32, "\u0634\u0647"),
  (0xFD33, "\u0637\u0645"), (0xFD34, "\u0633\u062c"), (0xFD35, "\u0633\u062d"),
  (0xFD36, "\u0633\u062e"), (0xFD37, "\u0634\u062c"), (0xFD38, "\u0634\u062d"),
  (0xFD39, "\u0634\u062e"), (0xFD3A, "\u0637\u0645"), (0xFD3B, "\u0638\u0645"),
  (0xFD3C, "\u0627\u064b"), (0xFD3D, "\u0627\u064b"), (0xFD50, "\u062a\u062c\u0645"),
  (0xFD51, "\u062a\u062d\u062c"), (0xFD52, "\u062a\u062d\u062c"), (0xFD53, "\u062a\u062d\u0645"),
  (0xFD54, "\u062a\u062e\u0645"), (0xFD55, "\u062a\u0645\u062c"), (0xFD56, "\u062a\u0645\u062d"),
  (0xFD57, "\u062a\u0645\u062e"), (0xFD58, "\u062c\u0645\u062d"), (0xFD59, "\u062c\u0645\u062d"),
  (0xFD5A, "\u062d\u0645\u064a"), (0xFD5B, "\u062d\u0645\u0649"), (0xFD5C, "\u0633\u062d\u062c"),
  (0xFD5D, "\u0633\u062c\u062d"), (0xFD5E, "\u0633\u062c\u0649"), (0xFD5F, "\u0633\u0645\u062d"),
  (0xFD60, "\u0633\u0645\u062d"), (0xFD61, "\u0633\u0645\u062c"), (0xFD62, "\u0633\u0645\u0645"),
  (0xFD63, "\u0633\u0645\u0645"), (0xFD64, "\u0635\u062d\u062d"), (0xFD65, "\u0635\u062d\u062d"),
  (0xFD66, "\u0635\u0645\u0645"), (0xFD67, "\u0634\u062d\u0645"), (0xFD68, "\u0634\u062d\u0645"),
  (0xFD69, "\u0634\u062c\u064a"), (0xFD6A, "\u0634\u0645\u062e"), (0xFD6B, "\u0634\u0645\u062e"),
  (0xFD6C, "\u0634\u0645\u0645"), (0xFD6D, "\u0634\u0645\u0645"), (0xFD6E, "\u0636\u062d\u0649"),
  (0xFD6F, "\u0636\u062e\u0645"), (0xFD70, "\u0636\u062e\u0645"), (0xFD71, "\u0637\u0645\u062d"),
  (0xFD72, "\u0637\u0645\u062d"), (0xFD73, "\u0637\u0645\u0645"), (0xFD74, "\u0637\u0645\u064a"),
  (0xFD75, "\u0639\u062c\u0645"), (0xFD76, "\u0639\u0645\u0645"), (0xFD77, "\u0639\u0645\u0645"),
  (0xFD78, "\u0639\u0645\u0649"), (0xFD79, "\u063a\u0645\u0645"), (0xFD7A, "\u063a\u0645\u064a"),
  (0xFD7B, "\u063a\u0645\u0649"), (0xFD7C, "\u0641\u062e\u0645"), (0xFD7D, "\u0641\u062e\u0645"),
  (0xFD7E, "\u0642\u0645\u062d"), (0xFD7F, "\u0642\u0645\u0645"), (0xFD80, "\u0644\u062d\u0645"),
  (0xFD81, "\u0644\u062d\u064a"), (0xFD82, "\u0644\u062d\u0649"), (0xFD83, "\u0644\u062c\u062c"),
  (0xFD84, "\u0644\u062c\u062c"), (0xFD85, "\u0644\u062e\u0645"), (0xFD86, "\u0644\u062e\u0645"),
  (0xFD87, "\u0644\u0645\u062d"), (0xFD88, "\u0644\u0645\u062d"), (0xFD89, "\u0645\u062d\u062c"),
  (0xFD8A, "\u0645\u062d\u0645"), (0xFD8B, "\u0645\u062d\u064a"), (0xFD8C, "\u0645\u062c\u062d"),
  (0xFD8D, "\u0645\u062c\u0645"), (0xFD8E, "\u0645\u062e\u062c"), (0xFD8F, "\u0645\u062e\u0645"),
  (0xFD92, "\u0645\u062c\u062e"), (0xFD93, "\u0647\u0645\u062c"), (0xFD94, "\u0647\u0645\u0645"),
  (0xFD95, "\u0646\u062d\u0645"), (0xFD96, "\u0646\u062d\u0649"), (0xFD97, "\u0646\u062c\u0645"),
  (0xFD98, "\u0646\u062c\u0645"), (0xFD99, "\u0646\u062c\u0649"), (0xFD9A, "\u0646\u0645\u064a"),
  (0xFD9B, "\u0646\u0645\u0649"), (0xFD9C, "\u064a\u0645\u0645"), (0xFD9D, "\u064a\u0645\u0645"),
  (0xFD9E, "\u0628\u062e\u064a"), (0xFD9F, "\u062a\u062c\u064a"), (0xFDA0, "\u062a\u062c\u0649"),
  (0xFDA1, "\u062a\u062e\u064a"), (0xFDA2, "\u062a\u062e\u0649"), (0xFDA3, "\u062a\u0645\u064a"),
  (0xFDA4, "\u062a\u0645\u0649"), (0xFDA5, "\u062c\u0645\u064a"), (0xFDA6, "\u062c\u062d\u0649"),
  (0xFDA7, "\u062c\u0645\u0649"), (0xFDA8, "\u0633\u062e\u0649"), (0xFDA9, "\u0635\u062d\u064a"),
  (0xFDAA, "\u0634\u062d\u064a"), (0xFDAB, "\u0636\u062d\u064a"), (0xFDAC, "\u0644\u062c\u064a"),
  (0xFDAD, "\u0644\u0645\u064a"), (0xFDAE, "\u064a\u062d\u064a"), (0xFDAF, "\u064a\u062c\u064a"),
  (0xFDB0, "\u064a\u0645\u064a"), (0xFDB1, "\u0645\u0645\u064a"), (0xFDB2, "\u0642\u0645\u064a"),
  (0xFDB3, "\u0646\u062d\u064a"), (0xFDB4, "\u0642\u0645\u062d"), (0xFDB5, "\u0644\u062d\u0645"),
  (0xFDB6, "\u0639\u0645\u064a"), (0xFDB7, "\u0643\u0645\u064a"), (0xFDB8, "\u0646\u062c\u062d"),
  (0xFDB9, "\u0645\u062e\u064a"), (0xFDBA, "\u0644\u062c\u0645"), (0xFDBB, "\u0643\u0645\u0645"),
  (0xFDBC, "\u0644\u062c\u0645"), (0xFDBD, "\u0646\u062c\u062d"), (0xFDBE, "\u062c\u062d\u064a"),
  (0xFDBF, "\u062d\u062c\u064a"), (0xFDC0, "\u0645\u062c\u064a"), (0xFDC1, "\u0641\u0645\u064a"),
  (0xFDC2, "\u0628\u062d\u064a"), (0xFDC3, "\u0643\u0645\u0645"), (0xFDC4, "\u0639\u062c\u0645"),
  (0xFDC5, "\u0635\u0645\u0645"), (0xFDC6, "\u0633\u062e\u064a"), (0xFDC7, "\u0646\u062c\u064a"),
  (0xFDF0, "\u0635\u0644\u06d2"), (0xFDF1, "\u0642\u0644\u06d2"),
  (0xFDF2, "\u0627\u0644\u0644\u0647"), (0xFDF3, "\u0627\u0643\u0628\u0631"),
  (0xFDF4, "\u0645\u062d\u0645\u062f"), (0xFDF5, "\u0635\u0644\u0639\u0645"),
  (0xFDF6, "\u0631\u0633\u0648\u0644"), (0xFDF7, "\u0639\u0644\u064a\u0647"),
  (0xFDF8, "\u0648\u0633\u0644\u0645"), (0xFDF9, "\u0635\u0644\u0649"),
  (0xFDFA, "\u0635\u0644\u0649 \u0627\u0644\u0644\u0647 \u0639\u0644\u064a\u0647 \u0648\u0633\u0644\u0645"),
  (0xFDFB, "\u062c\u0644 \u062c\u0644\u0627\u0644\u0647"), (0xFDFC, "\u0631\u06cc\u0627\u0644"),
  (0xFE49, " \u0305"), (0xFE4A, " \u0305"), (0xFE4B, " \u0305"), (0xFE4C, " \u0305"),
  (0xFE70, " \u064b"), (0xFE71, "\u0640\u064b"), (0xFE72, " \u064c"), (0xFE74, " \u064d"),
  (0xFE76, " \u064e"), (0xFE77, "\u0640\u064e"), (0xFE78, " \u064f"), (0xFE79, "\u0640\u064f"),
  (0xFE7A, " \u0650"), (0xFE7B, "\u0640\u0650"), (0xFE7C, " \u0651"), (0xFE7D, "\u0640\u0651"),
  (0xFE7E, " \u0652"), (0xFE7F, "\u0640\u0652"), (0xFEF5, "\u0644\u0622"), (0xFEF6, "\u0644\u0622"),
  (0xFEF7, "\u0644\u0623"), (0xFEF8, "\u0644\u0623"), (0xFEF9, "\u0644\u0625"),
  (0xFEFA, "\u0644\u0625"), (0xFEFB, "\u0644\u0627"), (0xFEFC, "\u0644\u0627"), (0xFFE3, " \u0304"),
  (0x1D15E, "𝅗𝅥"), (0x1D15F, "𝅘𝅥"), (0x1D160, "𝅘𝅥𝅮"), (0x1D161, "𝅘𝅥𝅯"), (0x1D162, "𝅘𝅥𝅰"),
  (0x1D163, "𝅘𝅥𝅱"), (0x1D164, "𝅘𝅥𝅲"), (0x1D1BB, "𝆹𝅥"), (0x1D1BC, "𝆺𝅥"), (0x1D1BD, "𝆹𝅥𝅮"),
  (0x1D1BE, "𝆺𝅥𝅮"), (0x1D1BF, "𝆹𝅥𝅯"), (0x1D1C0, "𝆺𝅥𝅯"), (0x1F101, "0,"), (0x1F102, "1,"),
  (0x1F103, "2,"), (0x1F104, "3,"), (0x1F105, "4,"), (0x1F106, "5,"), (0x1F107, "6,"),
  (0x1F108, "7,"), (0x1F109, "8,"), (0x1F10A, "9,"), (0x1F110, "(a)"), (0x1F111, "(b)"),
  (0x1F112, "(c)"), (0x1F113, "(d)"), (0x1F114, "(e)"), (0x1F115, "(f)"), (0x1F116, "(g)"),
  (0x1F117, "(h)"), (0x1F118, "(i)"), (0x1F119, "(j)"), (0x1F11A, "(k)"), (0x1F11B, "(l)"),
  (0x1F11C, "(m)"), (0x1F11D, "(n)"), (0x1F11E, "(o)"), (0x1F11F, "(p)"), (0x1F120, "(q)"),
  (0x1F121, "(r)"), (0x1F122, "(s)"), (0x1F123, "(t)"), (0x1F124, "(u)"), (0x1F125, "(v)"),
  (0x1F126, "(w)"), (0x1F127, "(x)"), (0x1F128, "(y)"), (0x1F129, "(z)"),
  (0x1F12A, "\u3014s\u3015"), (0x1F12D, "cd"), (0x1F12E, "wz"), (0x1F14A, "hv"), (0x1F14B, "mv"),
  (0x1F14C, "sd"), (0x1F14D, "ss"), (0x1F14E, "ppv"), (0x1F14F, "wc"), (0x1F16A, "mc"),
  (0x1F16B, "md"), (0x1F16C, "mr"), (0x1F190, "dj"), (0x1F200, "\u307b\u304b"), (0x1F201, "ココ"),
  (0x1F240, "\u3014本\u3015"), (0x1F241, "\u3014三\u3015"), (0x1F242, "\u3014二\u3015"),
  (0x1F243, "\u3014安\u3015"), (0x1F244, "\u3014点\u3015"), (0x1F245, "\u3014打\u3015"),
  (0x1F246, "\u3014盗\u3015"), (0x1F247, "\u3014勝\u3015"), (0x1F248, "\u3014敗\u3015")]

end CloudClient.Url
