/-! Characters beyond ASCII that are read as another character: capital letters, and letters, figures
and ideographs of a particular shape, width or position. -/
namespace CloudClient.Url

def foldedLetters : List (Nat × Nat) := [
  (0xA0, 0x20), (0xAA, 0x61), (0xB2, 0x32), (0xB3, 0x33), (0xB5, 0x3BC), (0xB9, 0x31), (0xBA, 0x6F),
  (0x134, 0x135), (0x136, 0x137), (0x178, 0xFF), (0x17F, 0x73), (0x181, 0x253), (0x182, 0x183),
  (0x184, 0x185), (0x186, 0x254), (0x187, 0x188), (0x189, 0x256), (0x18A, 0x257), (0x18B, 0x18C),
  (0x18E, 0x1DD), (0x18F, 0x259), (0x190, 0x25B), (0x191, 0x192), (0x193, 0x260), (0x194, 0x263),
  (0x196, 0x269), (0x197, 0x268), (0x198, 0x199), (0x19C, 0x26F), (0x19D, 0x272), (0x19F, 0x275),
  (0x1A6, 0x280), (0x1A7, 0x1A8), (0x1A9, 0x283), (0x1AC, 0x1AD), (0x1AE, 0x288), (0x1AF, 0x1B0),
  (0x1B1, 0x28A), (0x1B2, 0x28B), (0x1B3, 0x1B4), (0x1B5, 0x1B6), (0x1B7, 0x292), (0x1B8, 0x1B9),
  (0x1BC, 0x1BD), (0x1F4, 0x1F5), (0x1F6, 0x195), (0x1F7, 0x1BF), (0x220, 0x19E), (0x23A, 0x2C65),
  (0x23B, 0x23C), (0x23D, 0x19A), (0x23E, 0x2C66), (0x241, 0x242), (0x243, 0x180), (0x244, 0x289),
  (0x245, 0x28C), (0x2B0, 0x68), (0x2B1, 0x266), (0x2B2, 0x6A), (0x2B3, 0x72), (0x2B4, 0x279),
  (0x2B5, 0x27B), (0x2B6, 0x281), (0x2B7, 0x77), (0x2B8, 0x79), (0x2E0, 0x263), (0x2E1, 0x6C),
  (0x2E2, 0x73), (0x2E3, 0x78), (0x2E4, 0x295), (0x340, 0x300), (0x341, 0x301), (0x343, 0x313),
  (0x345, 0x3B9), (0x370, 0x371), (0x372, 0x373), (0x374, 0x2B9), (0x376, 0x377), (0x37E, 0x3B),
  (0x37F, 0x3F3), (0x386, 0x3AC), (0x387, 0xB7), (0x38C, 0x3CC), (0x38E, 0x3CD), (0x38F, 0x3CE),
  (0x3CF, 0x3D7), (0x3D0, 0x3B2), (0x3D1, 0x3B8), (0x3D2, 0x3C5), (0x3D3, 0x3CD), (0x3D4, 0x3CB),
  (0x3D5, 0x3C6), (0x3D6, 0x3C0), (0x3F0, 0x3BA), (0x3F1, 0x3C1), (0x3F2, 0x3C3), (0x3F4, 0x3B8),
  (0x3F5, 0x3B5), (0x3F7, 0x3F8), (0x3F9, 0x3C3), (0x3FA, 0x3FB), (0x4C0, 0x4CF), (0x558, 0x588),
  (0xF0C, 0xF0B), (0x10C7, 0x2D27), (0x10CD, 0x2D2D), (0x10FC, 0x10DC), (0x1C80, 0x432),
  (0x1C81, 0x434), (0x1C82, 0x43E), (0x1C83, 0x441), (0x1C84, 0x442), (0x1C85, 0x442),
  (0x1C86, 0x44A), (0x1C87, 0x463), (0x1C88, 0xA64B), (0x1C89, 0x1C8A), (0x1D2C, 0x61),
  (0x1D2D, 0xE6), (0x1D2E, 0x62), (0x1D30, 0x64), (0x1D32, 0x1DD), (0x1D3C, 0x6F), (0x1D3D, 0x223),
  (0x1D41, 0x75), (0x1D42, 0x77), (0x1D43, 0x61), (0x1D44, 0x250), (0x1D45, 0x251),
  (0x1D46, 0x1D02), (0x1D47, 0x62), (0x1D48, 0x64), (0x1D49, 0x65), (0x1D4A, 0x259),
  (0x1D4B, 0x25B), (0x1D4C, 0x25C), (0x1D4D, 0x67), (0x1D4F, 0x6B), (0x1D50, 0x6D), (0x1D51, 0x14B),
  (0x1D52, 0x6F), (0x1D53, 0x254), (0x1D54, 0x1D16), (0x1D55, 0x1D17), (0x1D56, 0x70),
  (0x1D57, 0x74), (0x1D58, 0x75), (0x1D59, 0x1D1D), (0x1D5A, 0x26F), (0x1D5B, 0x76),
  (0x1D5C, 0x1D25), (0x1D60, 0x3C6), (0x1D61, 0x3C7), (0x1D62, 0x69), (0x1D63, 0x72),
  (0x1D64, 0x75), (0x1D65, 0x76), (0x1D66, 0x3B2), (0x1D67, 0x3B3), (0x1D68, 0x3C1),
  (0x1D69, 0x3C6), (0x1D6A, 0x3C7), (0x1D78, 0x43D), (0x1D9B, 0x252), (0x1D9C, 0x63),
  (0x1D9D, 0x255), (0x1D9E, 0xF0), (0x1D9F, 0x25C), (0x1DA0, 0x66), (0x1DA1, 0x25F),
  (0x1DA2, 0x261), (0x1DA3, 0x265), (0x1DA7, 0x1D7B), (0x1DA8, 0x29D), (0x1DA9, 0x26D),
  (0x1DAA, 0x1D85), (0x1DAB, 0x29F), (0x1DAC, 0x271), (0x1DAD, 0x270), (0x1DB2, 0x278),
  (0x1DB3, 0x282), (0x1DB4, 0x283), (0x1DB5, 0x1AB), (0x1DB6, 0x289), (0x1DB7, 0x28A),
  (0x1DB8, 0x1D1C), (0x1DB9, 0x28B), (0x1DBA, 0x28C), (0x1DBB, 0x7A), (0x1DBF, 0x3B8),
  (0x1E9B, 0x1E61), (0x1E9E, 0xDF), (0x1FB8, 0x1FB0), (0x1FB9, 0x1FB1), (0x1FBA, 0x1F70),
  (0x1FBB, 0x3AC), (0x1FBE, 0x3B9), (0x1FC8, 0x1F72), (0x1FC9, 0x3AD), (0x1FCA, 0x1F74),
  (0x1FCB, 0x3AE), (0x1FD3, 0x390), (0x1FD8, 0x1FD0), (0x1FD9, 0x1FD1), (0x1FDA, 0x1F76),
  (0x1FDB, 0x3AF), (0x1FE3, 0x3B0), (0x1FE8, 0x1FE0), (0x1FE9, 0x1FE1), (0x1FEA, 0x1F7A),
  (0x1FEB, 0x3CD), (0x1FEC, 0x1FE5), (0x1FEF, 0x60), (0x1FF8, 0x1F78), (0x1FF9, 0x3CC),
  (0x1FFA, 0x1F7C), (0x1FFB, 0x3CE), (0x2011, 0x2010), (0x202F, 0x20), (0x205F, 0x20),
  (0x2070, 0x30), (0x2071, 0x69), (0x207A, 0x2B), (0x207B, 0x2212), (0x207C, 0x3D), (0x207D, 0x28),
  (0x207E, 0x29), (0x207F, 0x6E), (0x208A, 0x2B), (0x208B, 0x2212), (0x208C, 0x3D), (0x208D, 0x28),
  (0x208E, 0x29), (0x2090, 0x61), (0x2091, 0x65), (0x2092, 0x6F), (0x2093, 0x78), (0x2094, 0x259),
  (0x2095, 0x68), (0x209A, 0x70), (0x209B, 0x73), (0x209C, 0x74), (0x209D, 0x77), (0x209E, 0x79),
  (0x209F, 0x7A), (0x2102, 0x63), (0x2107, 0x25B), (0x210A, 0x67), (0x210F, 0x127), (0x2110, 0x69),
  (0x2111, 0x69), (0x2112, 0x6C), (0x2113, 0x6C), (0x2115, 0x6E), (0x211C, 0x72), (0x211D, 0x72),
  (0x2124, 0x7A), (0x2126, 0x3C9), (0x2128, 0x7A), (0x212A, 0x6B), (0x212B, 0xE5), (0x212C, 0x62),
  (0x212D, 0x63), (0x212F, 0x65), (0x2130, 0x65), (0x2131, 0x66), (0x2132, 0x214E), (0x2133, 0x6D),
  (0x2134, 0x6F), (0x2139, 0x69), (0x213C, 0x3C0), (0x213D, 0x3B3), (0x213E, 0x3B3),
  (0x213F, 0x3C0), (0x2140, 0x2211), (0x2145, 0x64), (0x2146, 0x64), (0x2147, 0x65), (0x2148, 0x69),
  (0x2149, 0x6A), (0x2160, 0x69), (0x2164, 0x76), (0x2169, 0x78), (0x216C, 0x6C), (0x216D, 0x63),
  (0x216E, 0x64), (0x216F, 0x6D), (0x2170, 0x69), (0x2174, 0x76), (0x2179, 0x78), (0x217C, 0x6C),
  (0x217D, 0x63), (0x217E, 0x64), (0x217F, 0x6D), (0x2183, 0x2184), (0x2329, 0x3008),
  (0x232A, 0x3009), (0x24EA, 0x30), (0x2C60, 0x2C61), (0x2C62, 0x26B), (0x2C63, 0x1D7D),
  (0x2C64, 0x27D), (0x2C6D, 0x251), (0x2C6E, 0x271), (0x2C6F, 0x250), (0x2C70, 0x252),
  (0x2C72, 0x2C73), (0x2C75, 0x2C76), (0x2C7C, 0x6A), (0x2C7D, 0x76), (0x2C7E, 0x23F),
  (0x2C7F, 0x240), (0x2CEB, 0x2CEC), (0x2CED, 0x2CEE), (0x2CF2, 0x2CF3), (0x2D6F, 0x2D61),
  (0x2E9F, 0x6BCD), (0x2EF3, 0x9F9F), (0x3000, 0x20), (0x3002, 0x2E), (0x3036, 0x3012),
  (0x3131, 0x1100), (0x3132, 0x1101), (0x3133, 0x11AA), (0x3134, 0x1102), (0x3135, 0x11AC),
  (0x3136, 0x11AD), (0x3140, 0x111A), (0x3144, 0x1121), (0x3165, 0x1114), (0x3166, 0x1115),
  (0x3167, 0x11C7), (0x3168, 0x11C8), (0x3169, 0x11CC), (0x316A, 0x11CE), (0x316B, 0x11D3),
  (0x316C, 0x11D7), (0x316D, 0x11D9), (0x316E, 0x111C), (0x316F, 0x11DD), (0x3170, 0x11DF),
  (0x3171, 0x111D), (0x3175, 0x1123), (0x317D, 0x1132), (0x317E, 0x1136), (0x317F, 0x1140),
  (0x3180, 0x1147), (0x3181, 0x114C), (0x3182, 0x11F1), (0x3183, 0x11F2), (0x3187, 0x1184),
  (0x3188, 0x1185), (0x3189, 0x1188), (0x318A, 0x1191), (0x318B, 0x1192), (0x318C, 0x1194),
  (0x318D, 0x119E), (0x318E, 0x11A1), (0x3260, 0x1100), (0x3261, 0x1102), (0x3262, 0x1103),
  (0x3266, 0x1109), (0x3267, 0x110B), (0x3268, 0x110C), (0x326E, 0xAC00), (0x326F, 0xB098),
  (0x3270, 0xB2E4), (0x3271, 0xB77C), (0x3272, 0xB9C8), (0x3273, 0xBC14), (0x3274, 0xC0AC),
  (0x3275, 0xC544), (0x3276, 0xC790), (0x3277, 0xCC28), (0x3278, 0xCE74), (0x3279, 0xD0C0),
  (0x327A, 0xD30C), (0x327B, 0xD558), (0x327E, 0xC6B0), (0xA69C, 0x44A), (0xA69D, 0x44C),
  (0xA770, 0xA76F), (0xA779, 0xA77A), (0xA77B, 0xA77C), (0xA77D, 0x1D79), (0xA78B, 0xA78C),
  (0xA78D, 0x265), (0xA790, 0xA791), (0xA792, 0xA793), (0xA7AA, 0x266), (0xA7AB, 0x25C),
  (0xA7AC, 0x261), (0xA7AD, 0x26C), (0xA7AE, 0x26A), (0xA7B0, 0x29E), (0xA7B1, 0x287),
  (0xA7B2, 0x29D), (0xA7B3, 0xAB53), (0xA7C4, 0xA794), (0xA7C5, 0x282), (0xA7C6, 0x1D8E),
  (0xA7C7, 0xA7C8), (0xA7C9, 0xA7CA), (0xA7CB, 0x264), (0xA7DC, 0x19B), (0xA7F1, 0x73),
  (0xA7F2, 0x63), (0xA7F3, 0x66), (0xA7F4, 0x71), (0xA7F5, 0xA7F6), (0xA7F8, 0x127),
  (0xA7F9, 0x153), (0xAB5C, 0xA727), (0xAB5D, 0xAB37), (0xAB5E, 0x26B), (0xAB5F, 0xAB52),
  (0xAB69, 0x28D), (0xFB20, 0x5E2), (0xFB21, 0x5D0), (0xFB22, 0x5D3), (0xFB23, 0x5D4),
  (0xFB27, 0x5E8), (0xFB28, 0x5EA), (0xFB29, 0x2B), (0xFB50, 0x671), (0xFB51, 0x671),
  (0xFB82, 0x68D), (0xFB83, 0x68D), (0xFB84, 0x68C), (0xFB85, 0x68C), (0xFB86, 0x68E),
  (0xFB87, 0x68E), (0xFB88, 0x688), (0xFB89, 0x688), (0xFB8A, 0x698), (0xFB8B, 0x698),
  (0xFB8C, 0x691), (0xFB8D, 0x691), (0xFB9E, 0x6BA), (0xFB9F, 0x6BA), (0xFBA4, 0x6C0),
  (0xFBA5, 0x6C0), (0xFBAE, 0x6D2), (0xFBAF, 0x6D2), (0xFBB0, 0x6D3), (0xFBB1, 0x6D3),
  (0xFBD7, 0x6C7), (0xFBD8, 0x6C7), (0xFBD9, 0x6C6), (0xFBDA, 0x6C6), (0xFBDB, 0x6C8),
  (0xFBDC, 0x6C8), (0xFBDE, 0x6CB), (0xFBDF, 0x6CB), (0xFBE0, 0x6C5), (0xFBE1, 0x6C5),
  (0xFBE2, 0x6C9), (0xFBE3, 0x6C9), (0xFBE8, 0x649), (0xFBE9, 0x649), (0xFE10, 0x2C),
  (0xFE11, 0x3001), (0xFE13, 0x3A), (0xFE14, 0x3B), (0xFE15, 0x21), (0xFE16, 0x3F),
  (0xFE17, 0x3016), (0xFE18, 0x3017), (0xFE31, 0x2014), (0xFE32, 0x2013), (0xFE33, 0x5F),
  (0xFE34, 0x5F), (0xFE35, 0x28), (0xFE36, 0x29), (0xFE37, 0x7B), (0xFE38, 0x7D), (0xFE39, 0x3014),
  (0xFE3A, 0x3015), (0xFE3B, 0x3010), (0xFE3C, 0x3011), (0xFE3D, 0x300A), (0xFE3E, 0x300B),
  (0xFE3F, 0x3008), (0xFE40, 0x3009), (0xFE47, 0x5B), (0xFE48, 0x5D), (0xFE50, 0x2C),
  (0xFE51, 0x3001), (0xFE54, 0x3B), (0xFE55, 0x3A), (0xFE56, 0x3F), (0xFE57, 0x21),
  (0xFE58, 0x2014), (0xFE59, 0x28), (0xFE5A, 0x29), (0xFE5B, 0x7B), (0xFE5C, 0x7D),
  (0xFE5D, 0x3014), (0xFE5E, 0x3015), (0xFE5F, 0x23), (0xFE60, 0x26), (0xFE61, 0x2A),
  (0xFE62, 0x2B), (0xFE63, 0x2D), (0xFE64, 0x3C), (0xFE65, 0x3E), (0xFE66, 0x3D), (0xFE68, 0x5C),
  (0xFE69, 0x24), (0xFE6A, 0x25), (0xFE6B, 0x40), (0xFE97, 0x62A), (0xFE98, 0x62A), (0xFEB3, 0x633),
  (0xFEB4, 0x633), (0xFEF3, 0x64A), (0xFEF4, 0x64A), (0xFF5F, 0x2985), (0xFF60, 0x2986),
  (0xFF61, 0x2E), (0xFF62, 0x300C), (0xFF63, 0x300D), (0xFF64, 0x3001), (0xFF9E, 0x3099),
  (0xFF9F, 0x309A), (0xFFA1, 0x1100), (0xFFA2, 0x1101), (0xFFA3, 0x11AA), (0xFFA4, 0x1102),
  (0xFFA5, 0x11AC), (0xFFA6, 0x11AD), (0xFFB0, 0x111A), (0xFFB4, 0x1121), (0xFFE0, 0xA2),
  (0xFFE1, 0xA3), (0xFFE2, 0xAC), (0xFFE4, 0xA6), (0xFFE5, 0xA5), (0xFFE6, 0x20A9),
  (0xFFE8, 0x2502), (0xFFED, 0x25A0), (0xFFEE, 0x25CB), (0x10595, 0x105BC), (0x10781, 0x2D0),
  (0x10782, 0x2D1), (0x10783, 0xE6), (0x10784, 0x299), (0x10785, 0x253), (0x10787, 0x2A3),
  (0x10788, 0xAB66), (0x10789, 0x2A5), (0x1078A, 0x2A4), (0x1078B, 0x256), (0x1078C, 0x257),
  (0x1078D, 0x1D91), (0x1078E, 0x258), (0x1078F, 0x25E), (0x10790, 0x2A9), (0x10791, 0x264),
  (0x10792, 0x262), (0x10793, 0x260), (0x10794, 0x29B), (0x10795, 0x127), (0x10796, 0x29C),
  (0x10797, 0x267), (0x10798, 0x284), (0x10799, 0x2AA), (0x1079A, 0x2AB), (0x1079B, 0x26C),
  (0x1079C, 0x1DF04), (0x1079D, 0xA78E), (0x1079E, 0x26E), (0x1079F, 0x1DF05), (0x107A0, 0x28E),
  (0x107A1, 0x1DF06), (0x107A2, 0xF8), (0x107A3, 0x276), (0x107A4, 0x277), (0x107A5, 0x71),
  (0x107A6, 0x27A), (0x107A7, 0x1DF08), (0x107A8, 0x27D), (0x107A9, 0x27E), (0x107AA, 0x280),
  (0x107AB, 0x2A8), (0x107AC, 0x2A6), (0x107AD, 0xAB67), (0x107AE, 0x2A7), (0x107AF, 0x288),
  (0x107B0, 0x2C71), (0x107B2, 0x28F), (0x107B3, 0x2A1), (0x107B4, 0x2A2), (0x107B5, 0x298),
  (0x107B9, 0x1DF0A), (0x107BA, 0x1DF1E), (0x1D49C, 0x61), (0x1D49E, 0x63), (0x1D49F, 0x64),
  (0x1D4A2, 0x67), (0x1D4A5, 0x6A), (0x1D4A6, 0x6B), (0x1D504, 0x61), (0x1D508, 0x65),
  (0x1D50A, 0x67), (0x1D538, 0x61), (0x1D541, 0x6A), (0x1D543, 0x6C), (0x1D6A4, 0x131),
  (0x1D6A5, 0x237), (0x1D6B9, 0x3B8), (0x1D6C1, 0x2207), (0x1D6D3, 0x3C3), (0x1D6DB, 0x2202),
  (0x1D6DC, 0x3B5), (0x1D6DD, 0x3B8), (0x1D6DE, 0x3BA), (0x1D6DF, 0x3C6), (0x1D6E0, 0x3C1),
  (0x1D6E1, 0x3C0), (0x1D6F3, 0x3B8), (0x1D6FB, 0x2207), (0x1D70D, 0x3C3), (0x1D715, 0x2202),
  (0x1D716, 0x3B5), (0x1D717, 0x3B8), (0x1D718, 0x3BA), (0x1D719, 0x3C6), (0x1D71A, 0x3C1),
  (0x1D71B, 0x3C0), (0x1D72D, 0x3B8), (0x1D735, 0x2207), (0x1D747, 0x3C3), (0x1D74F, 0x2202),
  (0x1D750, 0x3B5), (0x1D751, 0x3B8), (0x1D752, 0x3BA), (0x1D753, 0x3C6), (0x1D754, 0x3C1),
  (0x1D755, 0x3C0), (0x1D767, 0x3B8), (0x1D76F, 0x2207), (0x1D781, 0x3C3), (0x1D789, 0x2202),
  (0x1D78A, 0x3B5), (0x1D78B, 0x3B8), (0x1D78C, 0x3BA), (0x1D78D, 0x3C6), (0x1D78E, 0x3C1),
  (0x1D78F, 0x3C0), (0x1D7A1, 0x3B8), (0x1D7A9, 0x2207), (0x1D7BB, 0x3C3), (0x1D7C3, 0x2202),
  (0x1D7C4, 0x3B5), (0x1D7C5, 0x3B8), (0x1D7C6, 0x3BA), (0x1D7C7, 0x3C6), (0x1D7C8, 0x3C1),
  (0x1D7C9, 0x3C0), (0x1D7CA, 0x3DD), (0x1D7CB, 0x3DD), (0x1E047, 0x44B), (0x1E048, 0x44D),
  (0x1E049, 0x44E), (0x1E04A, 0xA689), (0x1E04B, 0x4D9), (0x1E04C, 0x456), (0x1E04D, 0x458),
  (0x1E04E, 0x4E9), (0x1E04F, 0x4AF), (0x1E050, 0x4CF), (0x1E05A, 0x43A), (0x1E05B, 0x43B),
  (0x1E05C, 0x43E), (0x1E065, 0x44A), (0x1E066, 0x44B), (0x1E067, 0x491), (0x1E068, 0x456),
  (0x1E069, 0x455), (0x1E06A, 0x45F), (0x1E06B, 0x4AB), (0x1E06C, 0xA651), (0x1E06D, 0x4B1),
  (0x1EE00, 0x627), (0x1EE01, 0x628), (0x1EE02, 0x62C), (0x1EE03, 0x62F), (0x1EE05, 0x648),
  (0x1EE06, 0x632), (0x1EE07, 0x62D), (0x1EE08, 0x637), (0x1EE09, 0x64A), (0x1EE0E, 0x633),
  (0x1EE0F, 0x639), (0x1EE10, 0x641), (0x1EE11, 0x635), (0x1EE12, 0x642), (0x1EE13, 0x631),
  (0x1EE14, 0x634), (0x1EE15, 0x62A), (0x1EE16, 0x62B), (0x1EE17, 0x62E), (0x1EE18, 0x630),
  (0x1EE1C, 0x66E), (0x1EE1D, 0x6BA), (0x1EE1E, 0x6A1), (0x1EE1F, 0x66F), (0x1EE21, 0x628),
  (0x1EE22, 0x62C), (0x1EE24, 0x647), (0x1EE27, 0x62D), (0x1EE29, 0x64A), (0x1EE2E, 0x633),
  (0x1EE2F, 0x639), (0x1EE30, 0x641), (0x1EE31, 0x635), (0x1EE32, 0x642), (0x1EE34, 0x634),
  (0x1EE35, 0x62A), (0x1EE36, 0x62B), (0x1EE37, 0x62E), (0x1EE39, 0x636), (0x1EE3B, 0x63A),
  (0x1EE42, 0x62C), (0x1EE47, 0x62D), (0x1EE49, 0x64A), (0x1EE4B, 0x644), (0x1EE4D, 0x646),
  (0x1EE4E, 0x633), (0x1EE4F, 0x639), (0x1EE51, 0x635), (0x1EE52, 0x642), (0x1EE54, 0x634),
  (0x1EE57, 0x62E), (0x1EE59, 0x636), (0x1EE5B, 0x63A), (0x1EE5D, 0x6BA), (0x1EE5F, 0x66F),
  (0x1EE61, 0x628), (0x1EE62, 0x62C), (0x1EE64, 0x647), (0x1EE67, 0x62D), (0x1EE68, 0x637),
  (0x1EE69, 0x64A), (0x1EE6A, 0x643), (0x1EE6C, 0x645), (0x1EE6D, 0x646), (0x1EE6E, 0x633),
  (0x1EE6F, 0x639), (0x1EE70, 0x641), (0x1EE71, 0x635), (0x1EE72, 0x642), (0x1EE74, 0x634),
  (0x1EE75, 0x62A), (0x1EE76, 0x62B), (0x1EE77, 0x62E), (0x1EE7C, 0x66E), (0x1EE7E, 0x6A1),
  (0x1EE80, 0x627), (0x1EE81, 0x628), (0x1EE82, 0x62C), (0x1EE83, 0x62F), (0x1EE84, 0x647),
  (0x1EE85, 0x648), (0x1EE86, 0x632), (0x1EE87, 0x62D), (0x1EE88, 0x637), (0x1EE89, 0x64A),
  (0x1EE8E, 0x633), (0x1EE8F, 0x639), (0x1EE90, 0x641), (0x1EE91, 0x635), (0x1EE92, 0x642),
  (0x1EE93, 0x631), (0x1EE94, 0x634), (0x1EE95, 0x62A), (0x1EE96, 0x62B), (0x1EE97, 0x62E),
  (0x1EE98, 0x630), (0x1EEA1, 0x628), (0x1EEA2, 0x62C), (0x1EEA3, 0x62F), (0x1EEA5, 0x648),
  (0x1EEA6, 0x632), (0x1EEA7, 0x62D), (0x1EEA8, 0x637), (0x1EEA9, 0x64A), (0x1EEAE, 0x633),
  (0x1EEAF, 0x639), (0x1EEB0, 0x641), (0x1EEB1, 0x635), (0x1EEB2, 0x642), (0x1EEB3, 0x631),
  (0x1EEB4, 0x634), (0x1EEB5, 0x62A), (0x1EEB6, 0x62B), (0x1EEB7, 0x62E), (0x1EEB8, 0x630),
  (0x1F12B, 0x63), (0x1F12C, 0x72), (0x1F202, 0x30B5)]

/-- First and last character of a run, the step to the next, what the first is read as, and the step
to what the next is read as. -/
def foldedRuns : List (Nat × Nat × Nat × Nat × Nat) := [
  (0xC0, 0xD6, 1, 0xE0, 1), (0xD8, 0xDE, 1, 0xF8, 1), (0x100, 0x12E, 2, 0x101, 2),
  (0x139, 0x13D, 2, 0x13A, 2), (0x141, 0x147, 2, 0x142, 2), (0x14A, 0x176, 2, 0x14B, 2),
  (0x179, 0x17D, 2, 0x17A, 2), (0x1A0, 0x1A4, 2, 0x1A1, 2), (0x1CD, 0x1DB, 2, 0x1CE, 2),
  (0x1DE, 0x1EE, 2, 0x1DF, 2), (0x1F8, 0x21E, 2, 0x1F9, 2), (0x222, 0x232, 2, 0x223, 2),
  (0x246, 0x24E, 2, 0x247, 2), (0x388, 0x38A, 1, 0x3AD, 1), (0x391, 0x3A1, 1, 0x3B1, 1),
  (0x3A3, 0x3AB, 1, 0x3C3, 1), (0x3D8, 0x3EE, 2, 0x3D9, 2), (0x3FD, 0x3FF, 1, 0x37B, 1),
  (0x400, 0x40F, 1, 0x450, 1), (0x410, 0x42F, 1, 0x430, 1), (0x460, 0x480, 2, 0x461, 2),
  (0x48A, 0x4BE, 2, 0x48B, 2), (0x4C1, 0x4CD, 2, 0x4C2, 2), (0x4D0, 0x52E, 2, 0x4D1, 2),
  (0x531, 0x556, 1, 0x561, 1), (0x10A0, 0x10C5, 1, 0x2D00, 1), (0x13F8, 0x13FD, 1, 0x13F0, 1),
  (0x1C90, 0x1CBA, 1, 0x10D0, 1), (0x1CBD, 0x1CBF, 1, 0x10FD, 1), (0x1D31, 0x1D39, 2, 0x65, 2),
  (0x1D34, 0x1D3A, 2, 0x68, 2), (0x1D3E, 0x1D40, 1, 0x70, 2), (0x1D5D, 0x1D5F, 1, 0x3B2, 1),
  (0x1DA4, 0x1DA6, 1, 0x268, 1), (0x1DAE, 0x1DB1, 1, 0x272, 1), (0x1DBC, 0x1DBE, 1, 0x290, 1),
  (0x1E00, 0x1E94, 2, 0x1E01, 2), (0x1EA0, 0x1EFE, 2, 0x1EA1, 2), (0x1F08, 0x1F0F, 1, 0x1F00, 1),
  (0x1F18, 0x1F1D, 1, 0x1F10, 1), (0x1F28, 0x1F2F, 1, 0x1F20, 1), (0x1F38, 0x1F3F, 1, 0x1F30, 1),
  (0x1F48, 0x1F4D, 1, 0x1F40, 1), (0x1F59, 0x1F5F, 2, 0x1F51, 2), (0x1F68, 0x1F6F, 1, 0x1F60, 1),
  (0x1F71, 0x1F77, 2, 0x3AC, 1), (0x1F79, 0x1F7D, 2, 0x3CC, 1), (0x2000, 0x200A, 1, 0x20, 0),
  (0x2074, 0x2079, 1, 0x34, 1), (0x2080, 0x2089, 1, 0x30, 1), (0x2096, 0x2099, 1, 0x6B, 1),
  (0x210B, 0x210E, 1, 0x68, 0), (0x2119, 0x211B, 1, 0x70, 1), (0x2135, 0x2138, 1, 0x5D0, 1),
  (0x2460, 0x2468, 1, 0x31, 1), (0x24B6, 0x24CF, 1, 0x61, 1), (0x24D0, 0x24E9, 1, 0x61, 1),
  (0x2C00, 0x2C2F, 1, 0x2C30, 1), (0x2C67, 0x2C6B, 2, 0x2C68, 2), (0x2C80, 0x2CE2, 2, 0x2C81, 2),
  (0x3137, 0x3139, 1, 0x1103, 1), (0x313A, 0x313F, 1, 0x11B0, 1), (0x3141, 0x3143, 1, 0x1106, 1),
  (0x3145, 0x314E, 1, 0x1109, 1), (0x314F, 0x3163, 1, 0x1161, 1), (0x3172, 0x3174, 1, 0x111E, 2),
  (0x3176, 0x3178, 1, 0x1127, 2), (0x3179, 0x317C, 1, 0x112C, 1), (0x3184, 0x3186, 1, 0x1157, 1),
  (0x3263, 0x3265, 1, 0x1105, 1), (0x3269, 0x326D, 1, 0x110E, 1), (0xA640, 0xA66C, 2, 0xA641, 2),
  (0xA680, 0xA69A, 2, 0xA681, 2), (0xA722, 0xA72E, 2, 0xA723, 2), (0xA732, 0xA76E, 2, 0xA733, 2),
  (0xA77E, 0xA786, 2, 0xA77F, 2), (0xA796, 0xA7A8, 2, 0xA797, 2), (0xA7B4, 0xA7C2, 2, 0xA7B5, 2),
  (0xA7CC, 0xA7DA, 2, 0xA7CD, 2), (0xAB70, 0xABBF, 1, 0x13A0, 1), (0xFB24, 0xFB26, 1, 0x5DB, 1),
  (0xFB52, 0xFB55, 1, 0x67B, 0), (0xFB56, 0xFB59, 1, 0x67E, 0), (0xFB5A, 0xFB5D, 1, 0x680, 0),
  (0xFB5E, 0xFB61, 1, 0x67A, 0), (0xFB62, 0xFB65, 1, 0x67F, 0), (0xFB66, 0xFB69, 1, 0x679, 0),
  (0xFB6A, 0xFB6D, 1, 0x6A4, 0), (0xFB6E, 0xFB71, 1, 0x6A6, 0), (0xFB72, 0xFB75, 1, 0x684, 0),
  (0xFB76, 0xFB79, 1, 0x683, 0), (0xFB7A, 0xFB7D, 1, 0x686, 0), (0xFB7E, 0xFB81, 1, 0x687, 0),
  (0xFB8E, 0xFB91, 1, 0x6A9, 0), (0xFB92, 0xFB95, 1, 0x6AF, 0), (0xFB96, 0xFB99, 1, 0x6B3, 0),
  (0xFB9A, 0xFB9D, 1, 0x6B1, 0), (0xFBA0, 0xFBA3, 1, 0x6BB, 0), (0xFBA6, 0xFBA9, 1, 0x6C1, 0),
  (0xFBAA, 0xFBAD, 1, 0x6BE, 0), (0xFBD3, 0xFBD6, 1, 0x6AD, 0), (0xFBE4, 0xFBE7, 1, 0x6D0, 0),
  (0xFBFC, 0xFBFF, 1, 0x6CC, 0), (0xFE41, 0xFE44, 1, 0x300C, 1), (0xFE4D, 0xFE4F, 1, 0x5F, 0),
  (0xFE80, 0xFE8A, 2, 0x621, 1), (0xFE81, 0xFE89, 2, 0x622, 1), (0xFE8B, 0xFE8F, 2, 0x626, 1),
  (0xFE8C, 0xFE90, 2, 0x626, 1), (0xFE91, 0xFE95, 2, 0x628, 1), (0xFE92, 0xFE96, 2, 0x628, 1),
  (0xFE99, 0xFE9C, 1, 0x62B, 0), (0xFE9D, 0xFEA0, 1, 0x62C, 0), (0xFEA1, 0xFEA4, 1, 0x62D, 0),
  (0xFEA5, 0xFEA8, 1, 0x62E, 0), (0xFEA9, 0xFEB1, 2, 0x62F, 1), (0xFEAA, 0xFEB2, 2, 0x62F, 1),
  (0xFEB5, 0xFEB8, 1, 0x634, 0), (0xFEB9, 0xFEBC, 1, 0x635, 0), (0xFEBD, 0xFEC0, 1, 0x636, 0),
  (0xFEC1, 0xFEC4, 1, 0x637, 0), (0xFEC5, 0xFEC8, 1, 0x638, 0), (0xFEC9, 0xFECC, 1, 0x639, 0),
  (0xFECD, 0xFED0, 1, 0x63A, 0), (0xFED1, 0xFED4, 1, 0x641, 0), (0xFED5, 0xFED8, 1, 0x642, 0),
  (0xFED9, 0xFEDC, 1, 0x643, 0), (0xFEDD, 0xFEE0, 1, 0x644, 0), (0xFEE1, 0xFEE4, 1, 0x645, 0),
  (0xFEE5, 0xFEE8, 1, 0x646, 0), (0xFEE9, 0xFEEC, 1, 0x647, 0), (0xFEED, 0xFEF1, 2, 0x648, 1),
  (0xFEEE, 0xFEF2, 2, 0x648, 1), (0xFF01, 0xFF20, 1, 0x21, 1), (0xFF21, 0xFF3A, 1, 0x61, 1),
  (0xFF3B, 0xFF5E, 1, 0x5B, 1), (0xFFA7, 0xFFA9, 1, 0x1103, 1), (0xFFAA, 0xFFAF, 1, 0x11B0, 1),
  (0xFFB1, 0xFFB3, 1, 0x1106, 1), (0xFFB5, 0xFFBE, 1, 0x1109, 1), (0xFFC2, 0xFFC7, 1, 0x1161, 1),
  (0xFFCA, 0xFFCF, 1, 0x1167, 1), (0xFFD2, 0xFFD7, 1, 0x116D, 1), (0xFFDA, 0xFFDC, 1, 0x1173, 1),
  (0xFFE9, 0xFFEC, 1, 0x2190, 1), (0x10400, 0x10427, 1, 0x10428, 1),
  (0x104B0, 0x104D3, 1, 0x104D8, 1), (0x10570, 0x10594, 2, 0x10597, 2),
  (0x10571, 0x10579, 2, 0x10598, 2), (0x1057D, 0x10589, 2, 0x105A4, 2),
  (0x1058D, 0x10591, 2, 0x105B4, 2), (0x107B6, 0x107B8, 1, 0x1C0, 1),
  (0x10C80, 0x10CB2, 1, 0x10CC0, 1), (0x10D50, 0x10D65, 1, 0x10D70, 1),
  (0x118A0, 0x118BF, 1, 0x118C0, 1), (0x16E40, 0x16E5F, 1, 0x16E60, 1),
  (0x16EA0, 0x16EB8, 1, 0x16EBB, 1), (0x1CCD6, 0x1CCEF, 1, 0x61, 1), (0x1CCF0, 0x1CCF9, 1, 0x30, 1),
  (0x1D400, 0x1D419, 1, 0x61, 1), (0x1D41A, 0x1D433, 1, 0x61, 1), (0x1D434, 0x1D44D, 1, 0x61, 1),
  (0x1D44E, 0x1D466, 2, 0x61, 2), (0x1D44F, 0x1D453, 2, 0x62, 2), (0x1D457, 0x1D467, 2, 0x6A, 2),
  (0x1D468, 0x1D481, 1, 0x61, 1), (0x1D482, 0x1D49B, 1, 0x61, 1), (0x1D4A9, 0x1D4AC, 1, 0x6E, 1),
  (0x1D4AE, 0x1D4B5, 1, 0x73, 1), (0x1D4B6, 0x1D4B9, 1, 0x61, 1), (0x1D4BB, 0x1D4CF, 2, 0x66, 2),
  (0x1D4BE, 0x1D4C2, 2, 0x69, 2), (0x1D4C6, 0x1D4CE, 2, 0x71, 2), (0x1D4D0, 0x1D4E9, 1, 0x61, 1),
  (0x1D4EA, 0x1D503, 1, 0x61, 1), (0x1D505, 0x1D509, 2, 0x62, 2), (0x1D50D, 0x1D514, 1, 0x6A, 1),
  (0x1D516, 0x1D51C, 1, 0x73, 1), (0x1D51E, 0x1D537, 1, 0x61, 1), (0x1D539, 0x1D53D, 2, 0x62, 2),
  (0x1D53C, 0x1D546, 2, 0x65, 2), (0x1D54A, 0x1D550, 1, 0x73, 1), (0x1D552, 0x1D56B, 1, 0x61, 1),
  (0x1D56C, 0x1D585, 1, 0x61, 1), (0x1D586, 0x1D59F, 1, 0x61, 1), (0x1D5A0, 0x1D5B9, 1, 0x61, 1),
  (0x1D5BA, 0x1D5D3, 1, 0x61, 1), (0x1D5D4, 0x1D5ED, 1, 0x61, 1), (0x1D5EE, 0x1D607, 1, 0x61, 1),
  (0x1D608, 0x1D621, 1, 0x61, 1), (0x1D622, 0x1D63B, 1, 0x61, 1), (0x1D63C, 0x1D655, 1, 0x61, 1),
  (0x1D656, 0x1D66F, 1, 0x61, 1), (0x1D670, 0x1D689, 1, 0x61, 1), (0x1D68A, 0x1D6A3, 1, 0x61, 1),
  (0x1D6A8, 0x1D6B8, 1, 0x3B1, 1), (0x1D6BA, 0x1D6C0, 1, 0x3C3, 1), (0x1D6C2, 0x1D6D2, 1, 0x3B1, 1),
  (0x1D6D4, 0x1D6DA, 1, 0x3C3, 1), (0x1D6E2, 0x1D6F2, 1, 0x3B1, 1), (0x1D6F4, 0x1D6FA, 1, 0x3C3, 1),
  (0x1D6FC, 0x1D70C, 1, 0x3B1, 1), (0x1D70E, 0x1D714, 1, 0x3C3, 1), (0x1D71C, 0x1D72C, 1, 0x3B1, 1),
  (0x1D72E, 0x1D734, 1, 0x3C3, 1), (0x1D736, 0x1D746, 1, 0x3B1, 1), (0x1D748, 0x1D74E, 1, 0x3C3, 1),
  (0x1D756, 0x1D766, 1, 0x3B1, 1), (0x1D768, 0x1D76E, 1, 0x3C3, 1), (0x1D770, 0x1D780, 1, 0x3B1, 1),
  (0x1D782, 0x1D788, 1, 0x3C3, 1), (0x1D790, 0x1D7A0, 1, 0x3B1, 1), (0x1D7A2, 0x1D7A8, 1, 0x3C3, 1),
  (0x1D7AA, 0x1D7BA, 1, 0x3B1, 1), (0x1D7BC, 0x1D7C2, 1, 0x3C3, 1), (0x1D7CE, 0x1D7D7, 1, 0x30, 1),
  (0x1D7D8, 0x1D7E1, 1, 0x30, 1), (0x1D7E2, 0x1D7EB, 1, 0x30, 1), (0x1D7EC, 0x1D7F5, 1, 0x30, 1),
  (0x1D7F6, 0x1D7FF, 1, 0x30, 1), (0x1E030, 0x1E038, 1, 0x430, 1), (0x1E039, 0x1E03B, 1, 0x43A, 1),
  (0x1E03C, 0x1E046, 1, 0x43E, 1), (0x1E051, 0x1E059, 1, 0x430, 1), (0x1E05D, 0x1E05F, 1, 0x43F, 2),
  (0x1E060, 0x1E064, 1, 0x444, 1), (0x1E900, 0x1E921, 1, 0x1E922, 1),
  (0x1EE0A, 0x1EE0D, 1, 0x643, 1), (0x1EE19, 0x1EE1B, 1, 0x636, 2), (0x1EE2A, 0x1EE2D, 1, 0x643, 1),
  (0x1EE79, 0x1EE7B, 1, 0x636, 2), (0x1EE8B, 0x1EE8D, 1, 0x644, 1), (0x1EE99, 0x1EE9B, 1, 0x636, 2),
  (0x1EEAB, 0x1EEAD, 1, 0x644, 1), (0x1EEB9, 0x1EEBB, 1, 0x636, 2), (0x1F130, 0x1F149, 1, 0x61, 1),
  (0x1FBF0, 0x1FBF9, 1, 0x30, 1)]

/-- First characters of blocks, and what the characters from there on are read as. -/
def foldedBlocks : List (Nat × String) := [
  (0x2F00, "一丨丶丿乙亅二亠人儿入八冂冖冫几凵刀力勹匕匚匸十卜卩厂厶又口囗土"), (0x2F20, "士夂夊夕大女子宀寸小尢尸屮山巛工己巾干幺广廴廾弋弓彐彡彳心戈戶手"),
  (0x2F40, "支攴文斗斤方无日曰月木欠止歹殳毋比毛氏气水火爪父爻爿片牙牛犬玄玉"), (0x2F60, "瓜瓦甘生用田疋疒癶白皮皿目矛矢石示禸禾穴立竹米糸缶网羊羽老而耒耳"),
  (0x2F80, "聿肉臣自至臼舌舛舟艮色艸虍虫血行衣襾見角言谷豆豕豸貝赤走足身車辛"), (0x2FA0, "辰辵邑酉釆里金長門阜隶隹雨靑非面革韋韭音頁風飛食首香馬骨高髟鬥鬯"),
  (0x2FC0, "鬲鬼魚鳥鹵鹿麥麻黃黍黑黹黽鼎鼓鼠鼻齊齒龍龜龠"), (0x3038, "十卄卅"), (0x3192, "一二三四上中下甲乙丙丁天地人"), (0x3244, "問幼文箏"),
  (0x3280, "一二三四五六七八九十月火水木金土日株有社名特財祝労秘男女適優印注"), (0x32A0, "項休写正上中下左右医宗学監企資協夜"),
  (0x32D0, "アイウエオカキクケコサシスセソタチツテトナニヌネノハヒフヘホマミ"), (0x32F0, "ムメモヤユヨラリルレロワヰヱヲ"),
  (0xF900, "豈更車賈滑串句龜龜契金喇奈懶癩羅蘿螺裸邏樂洛烙珞落酪駱亂卵欄爛蘭"), (0xF920, "鸞嵐濫藍襤拉臘蠟廊朗浪狼郎來冷勞擄櫓爐盧老蘆虜路露魯鷺碌祿綠菉錄"),
  (0xF940, "鹿論壟弄籠聾牢磊賂雷壘屢樓淚漏累縷陋勒肋凜凌稜綾菱陵讀拏樂諾丹寧"), (0xF960, "怒率異北磻便復不泌數索參塞省葉說殺辰沈拾若掠略亮兩凉梁糧良諒量勵"),
  (0xF980, "呂女廬旅濾礪閭驪麗黎力曆歷轢年憐戀撚漣煉璉秊練聯輦蓮連鍊列劣咽烈"), (0xF9A0, "裂說廉念捻殮簾獵令囹寧嶺怜玲瑩羚聆鈴零靈領例禮醴隸惡了僚寮尿料樂"),
  (0xF9C0, "燎療蓼遼龍暈阮劉杻柳流溜琉留硫紐類六戮陸倫崙淪輪律慄栗率隆利吏履"), (0xF9E0, "易李梨泥理痢罹裏裡里離匿溺吝燐璘藺隣鱗麟林淋臨立笠粒狀炙識什茶刺"),
  (0xFA00, "切度拓糖宅洞暴輻行降見廓兀嗀"), (0xFA10, "塚﨑晴"), (0xFA15, "凞猪益礼神祥福靖精羽﨟蘒﨡諸"), (0xFA25, "逸都"),
  (0xFA2A, "飯飼館鶴郞隷侮僧免勉勤卑喝嘆器塀墨層屮悔慨憎懲敏既暑梅海渚漢煮爫"), (0xFA4A, "琢碑社祉祈祐祖祝禍禎穀突節練縉繁署者臭艹艹著褐視謁謹賓贈辶逸難響"),
  (0xFA6A, "頻恵𤋮舘"), (0xFA70, "並况全侀充冀勇勺喝啕喙嗢塚墳奄奔婢嬨廒廙彩徭惘慎愈憎慠懲戴揄搜摒"),
  (0xFA90, "敖晴朗望杖歹殺流滛滋漢瀞煮瞧爵犯猪瑱甆画瘝瘟益盛直睊着磌窱節类絛"), (0xFAB0, "練缾者荒華蝹襁覆視調諸請謁諾諭謹變贈輸遲醙鉶陼難靖韛響頋頻鬒龜𢡊"),
  (0xFAD0, "𢡄𣏕㮝䀘䀹𥉉𥳐𧻓齃龎"), (0xFF65, "・ヲァィゥェォャュョッーアイウエオカキクケコサシスセソタチツテト"),
  (0xFF85, "ナニヌネノハヒフヘホマミムメモヤユヨラリルレロワン"), (0x1F210, "手字双デ二多解天交映無料前後再新初終生販声吹演投捕一三遊左中右指"),
  (0x1F230, "走打禁空合満有月申割営配"), (0x1F250, "得可"), (0x2F800, "丽丸乁𠄢你侮侻倂偺備僧像㒞𠘺免兔兤具𠔜㒹內再𠕋冗冤仌冬况𩇟凵刃㓟"),
  (0x2F820, "刻剆割剷㔕勇勉勤勺包匆北卉卑博即卽卿卿卿𠨬灰及叟𠭣叫叱吆咞吸呈周"), (0x2F840, "咢哶唐啓啣善善喙喫喳嗂圖嘆圗噑噴切壮城埴堍型堲報墬𡓤売壷夆多夢奢"),
  (0x2F860, "𡚨𡛪姬娛娧姘婦㛮㛼嬈嬾嬾𡧈寃寘寧寳𡬘寿将当尢㞁屠屮峀岍𡷤嵃𡷦嵮嵫"), (0x2F880, "嵼巡巢㠯巽帨帽幩㡢𢆃㡼庰庳庶廊𪎒廾𢌱𢌱舁弢弢㣇𣊸𦇚形彫㣣徚忍志忹"),
  (0x2F8A0, "悁㤺㤜悔𢛔惇慈慌慎慌慺憎憲憤憯懞懲懶成戛扝抱拔捐𢬌挽拼捨掃揤𢯱搢"), (0x2F8C0, "揅掩㨮摩摾撝摷㩬敏敬𣀊旣書晉㬙暑㬈㫤冒冕最暜肭䏙朗望朡杞杓𣏃㭉柺"),
  (0x2F8E0, "枅桒梅𣑭梎栟椔㮝楂榣槪檨𣚣櫛㰘次𣢧歔㱎歲殟殺殻𣪍𡴋𣫺汎𣲼沿泍汧洖"), (0x2F900, "派海流浩浸涅𣴞洴港湮㴳滋滇𣻑淹潮𣽞𣾎濆瀹瀞瀛㶖灊災灷炭𠔥煅𤉣熜𤎫"),
  (0x2F920, "爨爵牐𤘈犀犕𤜵𤠔獺王㺬玥㺸㺸瑇瑜瑱璅瓊㼛甤𤰶甾𤲒異𢆟瘐𤾡𤾸𥁄㿼䀈"), (0x2F940, "直𥃳𥃲𥄙𥄳眞真真睊䀹瞋䁆䂖𥐝硎碌磌䃣𥘦祖𥚚𥛅福秫䄯穀穊穏𥥼𥪧𥪧竮"),
  (0x2F960, "䈂𥮫篆築䈧𥲀糒䊠糨糣紀𥾆絣䌁緇縂繅䌴𦈨𦉇䍙𦋙罺𦌾羕翺者𦓚𦔣聠𦖨聰"), (0x2F980, "𣍟䏕育脃䐋脾媵𦞧𦞵𣎓𣎜舁舄辞䑫芑芋芝劳花芳芽苦𦬼若茝荣莭茣莽菧著"),
  (0x2F9A0, "荓菊菌菜𦰶𦵫𦳕䔫蓱蓳蔖𧏊蕤𦼬䕝䕡𦾱𧃒䕫虐虜虧虩蚩蚈蜎蛢蝹蜨蝫螆䗗"), (0x2F9C0, "蟡蠁䗹衠衣𧙧裗裞䘵裺㒻𧢮𧥦䚾䛇誠諭變豕𧲨貫賁贛起𧼯𠠄跋趼跰𠣞軔輸"),
  (0x2F9E0, "𨗒𨗭邔郱鄑𨜮鄛鈸鋗鋘鉼鏹鐕𨯺開䦕閷𨵷䧦雃嶲霣𩅅𩈚䩮䩶韠𩐊䪲𩒖頋頋"), (0x2FA00, "頩𩖶飢䬳餩馧駂駾䯎𩬰鬒鱀鳽䳎䳭鵧𪃎䳸𪄅𪈎𪊑麻䵖黹黾鼅鼏鼖鼻𪘀")]

end CloudClient.Url
