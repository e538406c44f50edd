/-!
Encodings with one byte for each character. Bytes below 128 are ASCII; a table gives the
characters of the other bytes as runs `(byte, character, length)` of neighbours.
-/

set_option autoImplicit false
set_option relaxedAutoImplicit false

namespace ContentTree.Xml

/-- An encoding by its names in capitals and the runs of its upper half. -/
structure ByteEncoding where
  names : List String
  runs : List (Nat × Nat × Nat)

/-- The code point that a byte stands for. -/
def ByteEncoding.code? (encoding : ByteEncoding) (byte : Nat) : Option Nat :=
  if byte < 128 then some byte
  else
    (encoding.runs.find? fun (first, _, length) => first ≤ byte && byte < first + length).map
      fun (first, code, _) => code + (byte - first)

/-- The encodings known by name. -/
def byteEncodings : List ByteEncoding :=
  [⟨["US-ASCII", "ASCII", "ANSI_X3.4-1968", "ISO646-US"], []⟩,
    ⟨["ISO-8859-1", "ISO_8859-1", "ISO-LATIN-1", "LATIN1", "L1"], [(128, 128, 128)]⟩,
    ⟨["ISO-8859-2", "ISO_8859-2", "ISO8859-2", "LATIN2", "L2"],
      [(128, 128, 33), (161, 260, 1), (162, 728, 1), (163, 321, 1), (164, 164, 1), (165, 317, 1),
        (166, 346, 1), (167, 167, 2), (169, 352, 1), (170, 350, 1), (171, 356, 1), (172, 377, 1),
        (173, 173, 1), (174, 381, 1), (175, 379, 1), (176, 176, 1), (177, 261, 1), (178, 731, 1),
        (179, 322, 1), (180, 180, 1), (181, 318, 1), (182, 347, 1), (183, 711, 1), (184, 184, 1),
        (185, 353, 1), (186, 351, 1), (187, 357, 1), (188, 378, 1), (189, 733, 1), (190, 382, 1),
        (191, 380, 1), (192, 340, 1), (193, 193, 2), (195, 258, 1), (196, 196, 1), (197, 313, 1),
        (198, 262, 1), (199, 199, 1), (200, 268, 1), (201, 201, 1), (202, 280, 1), (203, 203, 1),
        (204, 282, 1), (205, 205, 2), (207, 270, 1), (208, 272, 1), (209, 323, 1), (210, 327, 1),
        (211, 211, 2), (213, 336, 1), (214, 214, 2), (216, 344, 1), (217, 366, 1), (218, 218, 1),
        (219, 368, 1), (220, 220, 2), (222, 354, 1), (223, 223, 1), (224, 341, 1), (225, 225, 2),
        (227, 259, 1), (228, 228, 1), (229, 314, 1), (230, 263, 1), (231, 231, 1), (232, 269, 1),
        (233, 233, 1), (234, 281, 1), (235, 235, 1), (236, 283, 1), (237, 237, 2), (239, 271, 1),
        (240, 273, 1), (241, 324, 1), (242, 328, 1), (243, 243, 2), (245, 337, 1), (246, 246, 2),
        (248, 345, 1), (249, 367, 1), (250, 250, 1), (251, 369, 1), (252, 252, 2), (254, 355, 1),
        (255, 729, 1)]⟩,
    ⟨["ISO-8859-3", "ISO_8859-3", "LATIN3"],
      [(128, 128, 33), (161, 294, 1), (162, 728, 1), (163, 163, 2), (166, 292, 1), (167, 167, 2),
        (169, 304, 1), (170, 350, 1), (171, 286, 1), (172, 308, 1), (173, 173, 1), (175, 379, 1),
        (176, 176, 1), (177, 295, 1), (178, 178, 4), (182, 293, 1), (183, 183, 2), (185, 305, 1),
        (186, 351, 1), (187, 287, 1), (188, 309, 1), (189, 189, 1), (191, 380, 1), (192, 192, 3),
        (196, 196, 1), (197, 266, 1), (198, 264, 1), (199, 199, 9), (209, 209, 4), (213, 288, 1),
        (214, 214, 2), (216, 284, 1), (217, 217, 4), (221, 364, 1), (222, 348, 1), (223, 223, 4),
        (228, 228, 1), (229, 267, 1), (230, 265, 1), (231, 231, 9), (241, 241, 4), (245, 289, 1),
        (246, 246, 2), (248, 285, 1), (249, 249, 4), (253, 365, 1), (254, 349, 1), (255, 729, 1)]⟩,
    ⟨["ISO-8859-4", "ISO_8859-4", "LATIN4"],
      [(128, 128, 33), (161, 260, 1), (162, 312, 1), (163, 342, 1), (164, 164, 1), (165, 296, 1),
        (166, 315, 1), (167, 167, 2), (169, 352, 1), (170, 274, 1), (171, 290, 1), (172, 358, 1),
        (173, 173, 1), (174, 381, 1), (175, 175, 2), (177, 261, 1), (178, 731, 1), (179, 343, 1),
        (180, 180, 1), (181, 297, 1), (182, 316, 1), (183, 711, 1), (184, 184, 1), (185, 353, 1),
        (186, 275, 1), (187, 291, 1), (188, 359, 1), (189, 330, 1), (190, 382, 1), (191, 331, 1),
        (192, 256, 1), (193, 193, 6), (199, 302, 1), (200, 268, 1), (201, 201, 1), (202, 280, 1),
        (203, 203, 1), (204, 278, 1), (205, 205, 2), (207, 298, 1), (208, 272, 1), (209, 325, 1),
        (210, 332, 1), (211, 310, 1), (212, 212, 5), (217, 370, 1), (218, 218, 3), (221, 360, 1),
        (222, 362, 1), (223, 223, 1), (224, 257, 1), (225, 225, 6), (231, 303, 1), (232, 269, 1),
        (233, 233, 1), (234, 281, 1), (235, 235, 1), (236, 279, 1), (237, 237, 2), (239, 299, 1),
        (240, 273, 1), (241, 326, 1), (242, 333, 1), (243, 311, 1), (244, 244, 5), (249, 371, 1),
        (250, 250, 3), (253, 361, 1), (254, 363, 1), (255, 729, 1)]⟩,
    ⟨["ISO-8859-5", "ISO_8859-5", "CYRILLIC"],
      [(128, 128, 33), (161, 1025, 12), (173, 173, 1), (174, 1038, 66), (240, 8470, 1), (241,
        1105, 12), (253, 167, 1), (254, 1118, 2)]⟩,
    ⟨["ISO-8859-7", "ISO_8859-7", "GREEK"],
      [(128, 128, 33), (161, 8216, 2), (163, 163, 1), (164, 8364, 1), (165, 8367, 1), (166, 166,
        4), (170, 890, 1), (171, 171, 3), (175, 8213, 1), (176, 176, 4), (180, 900, 3), (183, 183,
        1), (184, 904, 3), (187, 187, 1), (188, 908, 1), (189, 189, 1), (190, 910, 20), (211, 931,
        44)]⟩,
    ⟨["ISO-8859-9", "ISO_8859-9", "LATIN5"],
      [(128, 128, 80), (208, 286, 1), (209, 209, 12), (221, 304, 1), (222, 350, 1), (223, 223,
        17), (240, 287, 1), (241, 241, 12), (253, 305, 1), (254, 351, 1), (255, 255, 1)]⟩,
    ⟨["ISO-8859-15", "ISO_8859-15", "LATIN-9"],
      [(128, 128, 36), (164, 8364, 1), (165, 165, 1), (166, 352, 1), (167, 167, 1), (168, 353,
        1), (169, 169, 11), (180, 381, 1), (181, 181, 3), (184, 382, 1), (185, 185, 3), (188, 338,
        2), (190, 376, 1), (191, 191, 65)]⟩,
    ⟨["WINDOWS-1250", "CP1250"],
      [(128, 8364, 1), (130, 8218, 1), (132, 8222, 1), (133, 8230, 1), (134, 8224, 2), (137,
        8240, 1), (138, 352, 1), (139, 8249, 1), (140, 346, 1), (141, 356, 1), (142, 381, 1),
        (143, 377, 1), (145, 8216, 2), (147, 8220, 2), (149, 8226, 1), (150, 8211, 2), (153, 8482,
        1), (154, 353, 1), (155, 8250, 1), (156, 347, 1), (157, 357, 1), (158, 382, 1), (159, 378,
        1), (160, 160, 1), (161, 711, 1), (162, 728, 1), (163, 321, 1), (164, 164, 1), (165, 260,
        1), (166, 166, 4), (170, 350, 1), (171, 171, 4), (175, 379, 1), (176, 176, 2), (178, 731,
        1), (179, 322, 1), (180, 180, 5), (185, 261, 1), (186, 351, 1), (187, 187, 1), (188, 317,
        1), (189, 733, 1), (190, 318, 1), (191, 380, 1), (192, 340, 1), (193, 193, 2), (195, 258,
        1), (196, 196, 1), (197, 313, 1), (198, 262, 1), (199, 199, 1), (200, 268, 1), (201, 201,
        1), (202, 280, 1), (203, 203, 1), (204, 282, 1), (205, 205, 2), (207, 270, 1), (208, 272,
        1), (209, 323, 1), (210, 327, 1), (211, 211, 2), (213, 336, 1), (214, 214, 2), (216, 344,
        1), (217, 366, 1), (218, 218, 1), (219, 368, 1), (220, 220, 2), (222, 354, 1), (223, 223,
        1), (224, 341, 1), (225, 225, 2), (227, 259, 1), (228, 228, 1), (229, 314, 1), (230, 263,
        1), (231, 231, 1), (232, 269, 1), (233, 233, 1), (234, 281, 1), (235, 235, 1), (236, 283,
        1), (237, 237, 2), (239, 271, 1), (240, 273, 1), (241, 324, 1), (242, 328, 1), (243, 243,
        2), (245, 337, 1), (246, 246, 2), (248, 345, 1), (249, 367, 1), (250, 250, 1), (251, 369,
        1), (252, 252, 2), (254, 355, 1), (255, 729, 1)]⟩,
    ⟨["WINDOWS-1251", "CP1251"],
      [(128, 1026, 2), (130, 8218, 1), (131, 1107, 1), (132, 8222, 1), (133, 8230, 1), (134,
        8224, 2), (136, 8364, 1), (137, 8240, 1), (138, 1033, 1), (139, 8249, 1), (140, 1034, 1),
        (141, 1036, 1), (142, 1035, 1), (143, 1039, 1), (144, 1106, 1), (145, 8216, 2), (147,
        8220, 2), (149, 8226, 1), (150, 8211, 2), (153, 8482, 1), (154, 1113, 1), (155, 8250, 1),
        (156, 1114, 1), (157, 1116, 1), (158, 1115, 1), (159, 1119, 1), (160, 160, 1), (161, 1038,
        1), (162, 1118, 1), (163, 1032, 1), (164, 164, 1), (165, 1168, 1), (166, 166, 2), (168,
        1025, 1), (169, 169, 1), (170, 1028, 1), (171, 171, 4), (175, 1031, 1), (176, 176, 2),
        (178, 1030, 1), (179, 1110, 1), (180, 1169, 1), (181, 181, 3), (184, 1105, 1), (185, 8470,
        1), (186, 1108, 1), (187, 187, 1), (188, 1112, 1), (189, 1029, 1), (190, 1109, 1), (191,
        1111, 1), (192, 1040, 64)]⟩,
    ⟨["WINDOWS-1252", "CP1252"],
      [(128, 8364, 1), (130, 8218, 1), (131, 402, 1), (132, 8222, 1), (133, 8230, 1), (134, 8224,
        2), (136, 710, 1), (137, 8240, 1), (138, 352, 1), (139, 8249, 1), (140, 338, 1), (142,
        381, 1), (145, 8216, 2), (147, 8220, 2), (149, 8226, 1), (150, 8211, 2), (152, 732, 1),
        (153, 8482, 1), (154, 353, 1), (155, 8250, 1), (156, 339, 1), (158, 382, 1), (159, 376,
        1), (160, 160, 96)]⟩,
    ⟨["WINDOWS-1253", "CP1253"],
      [(128, 8364, 1), (130, 8218, 1), (131, 402, 1), (132, 8222, 1), (133, 8230, 1), (134, 8224,
        2), (137, 8240, 1), (139, 8249, 1), (145, 8216, 2), (147, 8220, 2), (149, 8226, 1), (150,
        8211, 2), (153, 8482, 1), (155, 8250, 1), (160, 160, 1), (161, 901, 2), (163, 163, 7),
        (171, 171, 4), (175, 8213, 1), (176, 176, 4), (180, 900, 1), (181, 181, 3), (184, 904, 3),
        (187, 187, 1), (188, 908, 1), (189, 189, 1), (190, 910, 20), (211, 931, 44)]⟩,
    ⟨["WINDOWS-1254", "CP1254"],
      [(128, 8364, 1), (130, 8218, 1), (131, 402, 1), (132, 8222, 1), (133, 8230, 1), (134, 8224,
        2), (136, 710, 1), (137, 8240, 1), (138, 352, 1), (139, 8249, 1), (140, 338, 1), (145,
        8216, 2), (147, 8220, 2), (149, 8226, 1), (150, 8211, 2), (152, 732, 1), (153, 8482, 1),
        (154, 353, 1), (155, 8250, 1), (156, 339, 1), (159, 376, 1), (160, 160, 48), (208, 286,
        1), (209, 209, 12), (221, 304, 1), (222, 350, 1), (223, 223, 17), (240, 287, 1), (241,
        241, 12), (253, 305, 1), (254, 351, 1), (255, 255, 1)]⟩,
    ⟨["WINDOWS-1257", "CP1257"],
      [(128, 8364, 1), (130, 8218, 1), (132, 8222, 1), (133, 8230, 1), (134, 8224, 2), (137,
        8240, 1), (139, 8249, 1), (141, 168, 1), (142, 711, 1), (143, 184, 1), (145, 8216, 2),
        (147, 8220, 2), (149, 8226, 1), (150, 8211, 2), (153, 8482, 1), (155, 8250, 1), (157, 175,
        1), (158, 731, 1), (160, 160, 1), (162, 162, 3), (166, 166, 2), (168, 216, 1), (169, 169,
        1), (170, 342, 1), (171, 171, 4), (175, 198, 1), (176, 176, 8), (184, 248, 1), (185, 185,
        1), (186, 343, 1), (187, 187, 4), (191, 230, 1), (192, 260, 1), (193, 302, 1), (194, 256,
        1), (195, 262, 1), (196, 196, 2), (198, 280, 1), (199, 274, 1), (200, 268, 1), (201, 201,
        1), (202, 377, 1), (203, 278, 1), (204, 290, 1), (205, 310, 1), (206, 298, 1), (207, 315,
        1), (208, 352, 1), (209, 323, 1), (210, 325, 1), (211, 211, 1), (212, 332, 1), (213, 213,
        3), (216, 370, 1), (217, 321, 1), (218, 346, 1), (219, 362, 1), (220, 220, 1), (221, 379,
        1), (222, 381, 1), (223, 223, 1), (224, 261, 1), (225, 303, 1), (226, 257, 1), (227, 263,
        1), (228, 228, 2), (230, 281, 1), (231, 275, 1), (232, 269, 1), (233, 233, 1), (234, 378,
        1), (235, 279, 1), (236, 291, 1), (237, 311, 1), (238, 299, 1), (239, 316, 1), (240, 353,
        1), (241, 324, 1), (242, 326, 1), (243, 243, 1), (244, 333, 1), (245, 245, 3), (248, 371,
        1), (249, 322, 1), (250, 347, 1), (251, 363, 1), (252, 252, 1), (253, 380, 1), (254, 382,
        1), (255, 729, 1)]⟩,
    ⟨["KOI8-R"],
      [(128, 9472, 1), (129, 9474, 1), (130, 9484, 1), (131, 9488, 1), (132, 9492, 1), (133,
        9496, 1), (134, 9500, 1), (135, 9508, 1), (136, 9516, 1), (137, 9524, 1), (138, 9532, 1),
        (139, 9600, 1), (140, 9604, 1), (141, 9608, 1), (142, 9612, 1), (143, 9616, 4), (147,
        8992, 1), (148, 9632, 1), (149, 8729, 2), (151, 8776, 1), (152, 8804, 2), (154, 160, 1),
        (155, 8993, 1), (156, 176, 1), (157, 178, 1), (158, 183, 1), (159, 247, 1), (160, 9552,
        3), (163, 1105, 1), (164, 9555, 15), (179, 1025, 1), (180, 9570, 11), (191, 169, 1), (192,
        1102, 1), (193, 1072, 2), (195, 1094, 1), (196, 1076, 2), (198, 1092, 1), (199, 1075, 1),
        (200, 1093, 1), (201, 1080, 8), (209, 1103, 1), (210, 1088, 4), (214, 1078, 1), (215,
        1074, 1), (216, 1100, 1), (217, 1099, 1), (218, 1079, 1), (219, 1096, 1), (220, 1101, 1),
        (221, 1097, 1), (222, 1095, 1), (223, 1098, 1), (224, 1070, 1), (225, 1040, 2), (227,
        1062, 1), (228, 1044, 2), (230, 1060, 1), (231, 1043, 1), (232, 1061, 1), (233, 1048, 8),
        (241, 1071, 1), (242, 1056, 4), (246, 1046, 1), (247, 1042, 1), (248, 1068, 1), (249,
        1067, 1), (250, 1047, 1), (251, 1064, 1), (252, 1069, 1), (253, 1065, 1), (254, 1063, 1),
        (255, 1066, 1)]⟩]

end ContentTree.Xml
