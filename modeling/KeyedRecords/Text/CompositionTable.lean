/-!
Code points that make up one character together with the one in front of them: each with the ranges
of code points, first and last, that it does so with, in ascending order.
-/

namespace KeyedRecords.Text

def compositions : List (Nat × List (Nat × Nat)) :=
  [(0x300, [(0x41, 0x41), (0x45, 0x45), (0x49, 0x49), (0x4E, 0x4F), (0x55, 0x55), (0x57, 0x57),
    (0x59, 0x59), (0x61, 0x61), (0x65, 0x65), (0x69, 0x69), (0x6E, 0x6F), (0x75, 0x75),
    (0x77, 0x77), (0x79, 0x79), (0xA8, 0xA8), (0xC2, 0xC2), (0xCA, 0xCA), (0xD4, 0xD4),
    (0xDC, 0xDC), (0xE2, 0xE2), (0xEA, 0xEA), (0xF4, 0xF4), (0xFC, 0xFC), (0x102, 0x103),
    (0x112, 0x113), (0x14C, 0x14D), (0x1A0, 0x1A1), (0x1AF, 0x1B0), (0x391, 0x391), (0x395, 0x395),
    (0x397, 0x397), (0x399, 0x399), (0x39F, 0x39F), (0x3A5, 0x3A5), (0x3A9, 0x3A9), (0x3B1, 0x3B1),
    (0x3B5, 0x3B5), (0x3B7, 0x3B7), (0x3B9, 0x3B9), (0x3BF, 0x3BF), (0x3C5, 0x3C5), (0x3C9, 0x3CB),
    (0x415, 0x415), (0x418, 0x418), (0x435, 0x435), (0x438, 0x438), (0x1F00, 0x1F01),
    (0x1F08, 0x1F09), (0x1F10, 0x1F11), (0x1F18, 0x1F19), (0x1F20, 0x1F21), (0x1F28, 0x1F29),
    (0x1F30, 0x1F31), (0x1F38, 0x1F39), (0x1F40, 0x1F41), (0x1F48, 0x1F49), (0x1F50, 0x1F51),
    (0x1F59, 0x1F59), (0x1F60, 0x1F61), (0x1F68, 0x1F69), (0x1FBF, 0x1FBF), (0x1FFE, 0x1FFE)]),
   (0x301, [(0x41, 0x41), (0x43, 0x43), (0x45, 0x45), (0x47, 0x47), (0x49, 0x49), (0x4B, 0x50),
    (0x52, 0x53), (0x55, 0x55), (0x57, 0x57), (0x59, 0x5A), (0x61, 0x61), (0x63, 0x63),
    (0x65, 0x65), (0x67, 0x67), (0x69, 0x69), (0x6B, 0x70), (0x72, 0x73), (0x75, 0x75),
    (0x77, 0x77), (0x79, 0x7A), (0xA8, 0xA8), (0xC2, 0xC2), (0xC5, 0xC7), (0xCA, 0xCA),
    (0xCF, 0xCF), (0xD4, 0xD5), (0xD8, 0xD8), (0xDC, 0xDC), (0xE2, 0xE2), (0xE5, 0xE7),
    (0xEA, 0xEA), (0xEF, 0xEF), (0xF4, 0xF5), (0xF8, 0xF8), (0xFC, 0xFC), (0x102, 0x103),
    (0x112, 0x113), (0x14C, 0x14D), (0x168, 0x169), (0x1A0, 0x1A1), (0x1AF, 0x1B0), (0x391, 0x391),
    (0x395, 0x395), (0x397, 0x397), (0x399, 0x399), (0x39F, 0x39F), (0x3A5, 0x3A5), (0x3A9, 0x3A9),
    (0x3B1, 0x3B1), (0x3B5, 0x3B5), (0x3B7, 0x3B7), (0x3B9, 0x3B9), (0x3BF, 0x3BF), (0x3C5, 0x3C5),
    (0x3C9, 0x3CB), (0x3D2, 0x3D2), (0x413, 0x413), (0x41A, 0x41A), (0x433, 0x433), (0x43A, 0x43A),
    (0x1F00, 0x1F01), (0x1F08, 0x1F09), (0x1F10, 0x1F11), (0x1F18, 0x1F19), (0x1F20, 0x1F21),
    (0x1F28, 0x1F29), (0x1F30, 0x1F31), (0x1F38, 0x1F39), (0x1F40, 0x1F41), (0x1F48, 0x1F49),
    (0x1F50, 0x1F51), (0x1F59, 0x1F59), (0x1F60, 0x1F61), (0x1F68, 0x1F69), (0x1FBF, 0x1FBF),
    (0x1FFE, 0x1FFE)]),
   (0x302, [(0x41, 0x41), (0x43, 0x43), (0x45, 0x45), (0x47, 0x4A), (0x4F, 0x4F), (0x53, 0x53),
    (0x55, 0x55), (0x57, 0x57), (0x59, 0x5A), (0x61, 0x61), (0x63, 0x63), (0x65, 0x65),
    (0x67, 0x6A), (0x6F, 0x6F), (0x73, 0x73), (0x75, 0x75), (0x77, 0x77), (0x79, 0x7A),
    (0x1EA0, 0x1EA1), (0x1EB8, 0x1EB9), (0x1ECC, 0x1ECD)]),
   (0x303, [(0x41, 0x41), (0x45, 0x45), (0x49, 0x49), (0x4E, 0x4F), (0x55, 0x56), (0x59, 0x59),
    (0x61, 0x61), (0x65, 0x65), (0x69, 0x69), (0x6E, 0x6F), (0x75, 0x76), (0x79, 0x79),
    (0xC2, 0xC2), (0xCA, 0xCA), (0xD4, 0xD4), (0xE2, 0xE2), (0xEA, 0xEA), (0xF4, 0xF4),
    (0x102, 0x103), (0x1A0, 0x1A1), (0x1AF, 0x1B0)]),
   (0x304, [(0x41, 0x41), (0x45, 0x45), (0x47, 0x47), (0x49, 0x49), (0x4F, 0x4F), (0x55, 0x55),
    (0x59, 0x59), (0x61, 0x61), (0x65, 0x65), (0x67, 0x67), (0x69, 0x69), (0x6F, 0x6F),
    (0x75, 0x75), (0x79, 0x79), (0xC4, 0xC4), (0xC6, 0xC6), (0xD5, 0xD6), (0xDC, 0xDC),
    (0xE4, 0xE4), (0xE6, 0xE6), (0xF5, 0xF6), (0xFC, 0xFC), (0x1EA, 0x1EB), (0x226, 0x227),
    (0x22E, 0x22F), (0x391, 0x391), (0x399, 0x399), (0x3A5, 0x3A5), (0x3B1, 0x3B1), (0x3B9, 0x3B9),
    (0x3C5, 0x3C5), (0x418, 0x418), (0x423, 0x423), (0x438, 0x438), (0x443, 0x443),
    (0x1E36, 0x1E37), (0x1E5A, 0x1E5B)]),
   (0x306, [(0x41, 0x41), (0x45, 0x45), (0x47, 0x47), (0x49, 0x49), (0x4F, 0x4F), (0x55, 0x55),
    (0x61, 0x61), (0x65, 0x65), (0x67, 0x67), (0x69, 0x69), (0x6F, 0x6F), (0x75, 0x75),
    (0x228, 0x229), (0x391, 0x391), (0x399, 0x399), (0x3A5, 0x3A5), (0x3B1, 0x3B1), (0x3B9, 0x3B9),
    (0x3C5, 0x3C5), (0x410, 0x410), (0x415, 0x416), (0x418, 0x418), (0x423, 0x423), (0x430, 0x430),
    (0x435, 0x436), (0x438, 0x438), (0x443, 0x443), (0x1EA0, 0x1EA1)]),
   (0x307, [(0x41, 0x49), (0x4D, 0x50), (0x52, 0x54), (0x57, 0x5A), (0x61, 0x68), (0x6D, 0x70),
    (0x72, 0x74), (0x77, 0x7A), (0x15A, 0x15B), (0x160, 0x161), (0x17F, 0x17F), (0x1E62, 0x1E63),
    (0x105D2, 0x105D2), (0x105DA, 0x105DA)]),
   (0x308, [(0x41, 0x41), (0x45, 0x45), (0x48, 0x49), (0x4F, 0x4F), (0x55, 0x55), (0x57, 0x59),
    (0x61, 0x61), (0x65, 0x65), (0x68, 0x69), (0x6F, 0x6F), (0x74, 0x75), (0x77, 0x79),
    (0xD5, 0xD5), (0xF5, 0xF5), (0x16A, 0x16B), (0x399, 0x399), (0x3A5, 0x3A5), (0x3B9, 0x3B9),
    (0x3C5, 0x3C5), (0x3D2, 0x3D2), (0x406, 0x406), (0x410, 0x410), (0x415, 0x418), (0x41E, 0x41E),
    (0x423, 0x423), (0x427, 0x427), (0x42B, 0x42B), (0x42D, 0x42D), (0x430, 0x430), (0x435, 0x438),
    (0x43E, 0x43E), (0x443, 0x443), (0x447, 0x447), (0x44B, 0x44B), (0x44D, 0x44D), (0x456, 0x456),
    (0x4D8, 0x4D9), (0x4E8, 0x4E9)]),
   (0x309, [(0x41, 0x41), (0x45, 0x45), (0x49, 0x49), (0x4F, 0x4F), (0x55, 0x55), (0x59, 0x59),
    (0x61, 0x61), (0x65, 0x65), (0x69, 0x69), (0x6F, 0x6F), (0x75, 0x75), (0x79, 0x79),
    (0xC2, 0xC2), (0xCA, 0xCA), (0xD4, 0xD4), (0xE2, 0xE2), (0xEA, 0xEA), (0xF4, 0xF4),
    (0x102, 0x103), (0x1A0, 0x1A1), (0x1AF, 0x1B0)]),
   (0x30A, [(0x41, 0x41), (0x55, 0x55), (0x61, 0x61), (0x75, 0x75), (0x77, 0x77), (0x79, 0x79)]),
   (0x30B, [(0x4F, 0x4F), (0x55, 0x55), (0x6F, 0x6F), (0x75, 0x75), (0x423, 0x423),
    (0x443, 0x443)]),
   (0x30C, [(0x41, 0x41), (0x43, 0x45), (0x47, 0x49), (0x4B, 0x4C), (0x4E, 0x4F), (0x52, 0x55),
    (0x5A, 0x5A), (0x61, 0x61), (0x63, 0x65), (0x67, 0x6C), (0x6E, 0x6F), (0x72, 0x75),
    (0x7A, 0x7A), (0xDC, 0xDC), (0xFC, 0xFC), (0x1B7, 0x1B7), (0x292, 0x292)]),
   (0x30F, [(0x41, 0x41), (0x45, 0x45), (0x49, 0x49), (0x4F, 0x4F), (0x52, 0x52), (0x55, 0x55),
    (0x61, 0x61), (0x65, 0x65), (0x69, 0x69), (0x6F, 0x6F), (0x72, 0x72), (0x75, 0x75),
    (0x474, 0x475)]),
   (0x311, [(0x41, 0x41), (0x45, 0x45), (0x49, 0x49), (0x4F, 0x4F), (0x52, 0x52), (0x55, 0x55),
    (0x61, 0x61), (0x65, 0x65), (0x69, 0x69), (0x6F, 0x6F), (0x72, 0x72), (0x75, 0x75)]),
   (0x313, [(0x391, 0x391), (0x395, 0x395), (0x397, 0x397), (0x399, 0x399), (0x39F, 0x39F),
    (0x3A9, 0x3A9), (0x3B1, 0x3B1), (0x3B5, 0x3B5), (0x3B7, 0x3B7), (0x3B9, 0x3B9), (0x3BF, 0x3BF),
    (0x3C1, 0x3C1), (0x3C5, 0x3C5), (0x3C9, 0x3C9)]),
   (0x314, [(0x391, 0x391), (0x395, 0x395), (0x397, 0x397), (0x399, 0x399), (0x39F, 0x39F),
    (0x3A1, 0x3A1), (0x3A5, 0x3A5), (0x3A9, 0x3A9), (0x3B1, 0x3B1), (0x3B5, 0x3B5), (0x3B7, 0x3B7),
    (0x3B9, 0x3B9), (0x3BF, 0x3BF), (0x3C1, 0x3C1), (0x3C5, 0x3C5), (0x3C9, 0x3C9)]),
   (0x31B, [(0x4F, 0x4F), (0x55, 0x55), (0x6F, 0x6F), (0x75, 0x75)]),
   (0x323, [(0x41, 0x42), (0x44, 0x45), (0x48, 0x49), (0x4B, 0x4F), (0x52, 0x57), (0x59, 0x5A),
    (0x61, 0x62), (0x64, 0x65), (0x68, 0x69), (0x6B, 0x6F), (0x72, 0x77), (0x79, 0x7A),
    (0x1A0, 0x1A1), (0x1AF, 0x1B0)]), (0x324, [(0x55, 0x55), (0x75, 0x75)]),
   (0x325, [(0x41, 0x41), (0x61, 0x61)]), (0x326, [(0x53, 0x54), (0x73, 0x74)]),
   (0x327, [(0x43, 0x45), (0x47, 0x48), (0x4B, 0x4C), (0x4E, 0x4E), (0x52, 0x54), (0x63, 0x65),
    (0x67, 0x68), (0x6B, 0x6C), (0x6E, 0x6E), (0x72, 0x74)]),
   (0x328, [(0x41, 0x41), (0x45, 0x45), (0x49, 0x49), (0x4F, 0x4F), (0x55, 0x55), (0x61, 0x61),
    (0x65, 0x65), (0x69, 0x69), (0x6F, 0x6F), (0x75, 0x75)]),
   (0x32D, [(0x44, 0x45), (0x4C, 0x4C), (0x4E, 0x4E), (0x54, 0x55), (0x64, 0x65), (0x6C, 0x6C),
    (0x6E, 0x6E), (0x74, 0x75)]), (0x32E, [(0x48, 0x48), (0x68, 0x68)]),
   (0x330, [(0x45, 0x45), (0x49, 0x49), (0x55, 0x55), (0x65, 0x65), (0x69, 0x69), (0x75, 0x75)]),
   (0x331, [(0x42, 0x42), (0x44, 0x44), (0x4B, 0x4C), (0x4E, 0x4E), (0x52, 0x52), (0x54, 0x54),
    (0x5A, 0x5A), (0x62, 0x62), (0x64, 0x64), (0x68, 0x68), (0x6B, 0x6C), (0x6E, 0x6E),
    (0x72, 0x72), (0x74, 0x74), (0x7A, 0x7A)]),
   (0x338, [(0x3C, 0x3E), (0x2190, 0x2190), (0x2192, 0x2192), (0x2194, 0x2194), (0x21D0, 0x21D0),
    (0x21D2, 0x21D2), (0x21D4, 0x21D4), (0x2203, 0x2203), (0x2208, 0x2208), (0x220B, 0x220B),
    (0x2223, 0x2223), (0x2225, 0x2225), (0x223C, 0x223C), (0x2243, 0x2243), (0x2245, 0x2245),
    (0x2248, 0x2248), (0x224D, 0x224D), (0x2261, 0x2261), (0x2264, 0x2265), (0x2272, 0x2273),
    (0x2276, 0x2277), (0x227A, 0x227D), (0x2282, 0x2283), (0x2286, 0x2287), (0x2291, 0x2292),
    (0x22A2, 0x22A2), (0x22A8, 0x22A9), (0x22AB, 0x22AB), (0x22B2, 0x22B5)]),
   (0x342, [(0xA8, 0xA8), (0x3B1, 0x3B1), (0x3B7, 0x3B7), (0x3B9, 0x3B9), (0x3C5, 0x3C5),
    (0x3C9, 0x3CB), (0x1F00, 0x1F01), (0x1F08, 0x1F09), (0x1F20, 0x1F21), (0x1F28, 0x1F29),
    (0x1F30, 0x1F31), (0x1F38, 0x1F39), (0x1F50, 0x1F51), (0x1F59, 0x1F59), (0x1F60, 0x1F61),
    (0x1F68, 0x1F69), (0x1FBF, 0x1FBF), (0x1FFE, 0x1FFE)]),
   (0x345, [(0x391, 0x391), (0x397, 0x397), (0x3A9, 0x3A9), (0x3AC, 0x3AC), (0x3AE, 0x3AE),
    (0x3B1, 0x3B1), (0x3B7, 0x3B7), (0x3C9, 0x3C9), (0x3CE, 0x3CE), (0x1F00, 0x1F0F),
    (0x1F20, 0x1F2F), (0x1F60, 0x1F70), (0x1F74, 0x1F74), (0x1F7C, 0x1F7C), (0x1FB6, 0x1FB6),
    (0x1FC6, 0x1FC6), (0x1FF6, 0x1FF6)]), (0x653, [(0x627, 0x627)]),
   (0x654, [(0x627, 0x627), (0x648, 0x648), (0x64A, 0x64A), (0x6C1, 0x6C1), (0x6D2, 0x6D2),
    (0x6D5, 0x6D5)]), (0x655, [(0x627, 0x627)]),
   (0x93C, [(0x928, 0x928), (0x930, 0x930), (0x933, 0x933)]), (0x9BE, [(0x9C7, 0x9C7)]),
   (0x9D7, [(0x9C7, 0x9C7)]), (0xB3E, [(0xB47, 0xB47)]), (0xB56, [(0xB47, 0xB47)]),
   (0xB57, [(0xB47, 0xB47)]), (0xBBE, [(0xBC6, 0xBC7)]), (0xBD7, [(0xB92, 0xB92), (0xBC6, 0xBC6)]),
   (0xC56, [(0xC46, 0xC46)]), (0xCC2, [(0xCC6, 0xCC6)]),
   (0xCD5, [(0xCBF, 0xCBF), (0xCC6, 0xCC6), (0xCCA, 0xCCA)]), (0xCD6, [(0xCC6, 0xCC6)]),
   (0xD3E, [(0xD46, 0xD47)]), (0xD57, [(0xD46, 0xD46)]), (0xDCA, [(0xDD9, 0xDD9), (0xDDC, 0xDDC)]),
   (0xDCF, [(0xDD9, 0xDD9)]), (0xDDF, [(0xDD9, 0xDD9)]), (0x102E, [(0x1025, 0x1025)]),
   (0x1B35, [(0x1B05, 0x1B05), (0x1B07, 0x1B07), (0x1B09, 0x1B09), (0x1B0B, 0x1B0B),
    (0x1B0D, 0x1B0D), (0x1B11, 0x1B11), (0x1B3A, 0x1B3A), (0x1B3C, 0x1B3C), (0x1B3E, 0x1B3F),
    (0x1B42, 0x1B42)]),
   (0x3099, [(0x3046, 0x3046), (0x304B, 0x304B), (0x304D, 0x304D), (0x304F, 0x304F),
    (0x3051, 0x3051), (0x3053, 0x3053), (0x3055, 0x3055), (0x3057, 0x3057), (0x3059, 0x3059),
    (0x305B, 0x305B), (0x305D, 0x305D), (0x305F, 0x305F), (0x3061, 0x3061), (0x3064, 0x3064),
    (0x3066, 0x3066), (0x3068, 0x3068), (0x306F, 0x306F), (0x3072, 0x3072), (0x3075, 0x3075),
    (0x3078, 0x3078), (0x307B, 0x307B), (0x309D, 0x309D), (0x30A6, 0x30A6), (0x30AB, 0x30AB),
    (0x30AD, 0x30AD), (0x30AF, 0x30AF), (0x30B1, 0x30B1), (0x30B3, 0x30B3), (0x30B5, 0x30B5),
    (0x30B7, 0x30B7), (0x30B9, 0x30B9), (0x30BB, 0x30BB), (0x30BD, 0x30BD), (0x30BF, 0x30BF),
    (0x30C1, 0x30C1), (0x30C4, 0x30C4), (0x30C6, 0x30C6), (0x30C8, 0x30C8), (0x30CF, 0x30CF),
    (0x30D2, 0x30D2), (0x30D5, 0x30D5), (0x30D8, 0x30D8), (0x30DB, 0x30DB), (0x30EF, 0x30F2),
    (0x30FD, 0x30FD)]),
   (0x309A, [(0x306F, 0x306F), (0x3072, 0x3072), (0x3075, 0x3075), (0x3078, 0x3078),
    (0x307B, 0x307B), (0x30CF, 0x30CF), (0x30D2, 0x30D2), (0x30D5, 0x30D5), (0x30D8, 0x30D8),
    (0x30DB, 0x30DB)]), (0x110BA, [(0x11099, 0x11099), (0x1109B, 0x1109B), (0x110A5, 0x110A5)]),
   (0x11127, [(0x11131, 0x11132)]), (0x1133E, [(0x11347, 0x11347)]),
   (0x11357, [(0x11347, 0x11347)]), (0x113B8, [(0x113C2, 0x113C2)]),
   (0x113BB, [(0x11384, 0x11384)]), (0x113C2, [(0x1138B, 0x1138B), (0x113C2, 0x113C2)]),
   (0x113C9, [(0x11382, 0x11382), (0x11390, 0x11390), (0x113C2, 0x113C2)]),
   (0x114B0, [(0x114B9, 0x114B9)]), (0x114BA, [(0x114B9, 0x114B9)]),
   (0x114BD, [(0x114B9, 0x114B9)]), (0x115AF, [(0x115B8, 0x115B9)]),
   (0x11930, [(0x11935, 0x11935)]), (0x1611E, [(0x1611E, 0x1611E)]),
   (0x1611F, [(0x1611E, 0x1611E), (0x16121, 0x16122), (0x16129, 0x16129)]),
   (0x16120, [(0x1611E, 0x1611E), (0x16121, 0x16121)]), (0x16129, [(0x1611E, 0x1611E)]),
   (0x16D67, [(0x16D63, 0x16D63), (0x16D67, 0x16D67), (0x16D69, 0x16D69)])]

end KeyedRecords.Text
