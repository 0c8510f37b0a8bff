import SeriesQuery.Text.Script.Table

/-!
# Characters that several scripts share

Some characters are used with a few scripts, which are named by their codes of four letters.
-/

namespace SeriesQuery.Script

/-- Each row has the scripts that use its characters. -/
def shared : List Script :=
  [
    ⟨["avst", "cari", "copt", "dupl", "elba", "geor", "glag", "goth", "grek", "gong", "hani",
      "latn", "lydi", "mahj", "perm", "shaw"],
      #[(0xb7, 0xb7)]⟩,
    ⟨["beng", "cyrl", "deva", "latn", "lisu", "thai", "toto"], #[(0x2bc, 0x2bc)]⟩,
    ⟨["bopo", "latn"], #[(0x2c7, 0x2c7), (0x2c9, 0x2cb), (0x2d9, 0x2d9)]⟩,
    ⟨["latn", "lisu"], #[(0x2cd, 0x2cd)]⟩,
    ⟨["latn", "thai"], #[(0x2d7, 0x2d7)]⟩,
    ⟨["cher", "copt", "cyrl", "grek", "latn", "perm", "sunu", "tale"], #[(0x300, 0x300)]⟩,
    ⟨["cher", "cyrl", "grek", "latn", "osge", "sunu", "tale", "todr"], #[(0x301, 0x301)]⟩,
    ⟨["cher", "cyrl", "latn", "tfng"], #[(0x302, 0x302)]⟩,
    ⟨["glag", "latn", "sunu", "syrc", "thai"], #[(0x303, 0x303)]⟩,
    ⟨["aghb", "cher", "copt", "cyrl", "goth", "grek", "latn", "osge", "syrc", "tfng", "todr"],
      #[(0x304, 0x304)]⟩,
    ⟨["copt", "elba", "glag", "goth", "kana", "latn"], #[(0x305, 0x305)]⟩,
    ⟨["cyrl", "grek", "latn", "perm", "tfng"], #[(0x306, 0x306)]⟩,
    ⟨["copt", "dupl", "hebr", "latn", "perm", "syrc", "tale", "tfng", "todr"], #[(0x307, 0x307)]⟩,
    ⟨["armn", "cyrl", "dupl", "goth", "grek", "hebr", "latn", "perm", "syrc", "tale", "tfng"],
      #[(0x308, 0x308)]⟩,
    ⟨["latn", "tfng"], #[(0x309, 0x309)]⟩,
    ⟨["dupl", "latn", "syrc"], #[(0x30a, 0x30a)]⟩,
    ⟨["cher", "cyrl", "latn", "osge"], #[(0x30b, 0x30b)]⟩,
    ⟨["cher", "latn", "tale"], #[(0x30c, 0x30c)]⟩,
    ⟨["latn", "sunu"], #[(0x30d, 0x30d), (0x310, 0x310)]⟩,
    ⟨["ethi", "latn"], #[(0x30e, 0x30e)]⟩,
    ⟨["cyrl", "latn", "todr"], #[(0x311, 0x311)]⟩,
    ⟨["grek", "latn", "perm", "todr"], #[(0x313, 0x313)]⟩,
    ⟨["cher", "dupl", "kana", "latn", "syrc", "tfng"], #[(0x323, 0x323)]⟩,
    ⟨["cher", "dupl", "latn", "syrc"], #[(0x324, 0x324)]⟩,
    ⟨["latn", "syrc"], #[(0x325, 0x325), (0x32e, 0x32e)]⟩,
    ⟨["latn", "sunu", "syrc"], #[(0x32d, 0x32d)]⟩,
    ⟨["cher", "latn", "syrc"], #[(0x330, 0x330)]⟩,
    ⟨["aghb", "cher", "goth", "latn", "sunu", "syrc", "thai"], #[(0x331, 0x331)]⟩,
    ⟨["grek"], #[(0x342, 0x342), (0x345, 0x345), (0x1dc0, 0x1dc1)]⟩,
    ⟨["latn", "osge"], #[(0x358, 0x358)]⟩,
    ⟨["aghb", "latn", "todr"], #[(0x35e, 0x35e)]⟩,
    ⟨["latn"], #[(0x363, 0x36f)]⟩,
    ⟨["copt", "grek"], #[(0x374, 0x375)]⟩,
    ⟨["cyrl", "perm"], #[(0x483, 0x483)]⟩,
    ⟨["cyrl", "glag"], #[(0x484, 0x484), (0x487, 0x487), (0x2e43, 0x2e43), (0xa66f, 0xa66f)]⟩,
    ⟨["cyrl", "latn"], #[(0x485, 0x486)]⟩,
    ⟨["armn", "geor", "glag"], #[(0x589, 0x589)]⟩,
    ⟨["arab", "gara", "rohg", "nkoo", "syrc", "thaa", "yezi"], #[(0x60c, 0x60c), (0x61b, 0x61b)]⟩,
    ⟨["arab", "syrc", "thaa"], #[(0x61c, 0x61c)]⟩,
    ⟨["adlm", "arab", "gara", "rohg", "nkoo", "syrc", "thaa", "yezi"], #[(0x61f, 0x61f)]⟩,
    ⟨["adlm", "arab", "rohg", "mand", "mani", "ougr", "phlp", "sogd", "syrc"], #[(0x640, 0x640)]⟩,
    ⟨["arab", "syrc"], #[(0x64b, 0x655), (0x670, 0x670)]⟩,
    ⟨["arab", "thaa", "yezi"], #[(0x660, 0x669)]⟩,
    ⟨["arab", "rohg"], #[(0x6d4, 0x6d4)]⟩,
    ⟨["beng", "deva", "gran", "gujr", "guru", "knda", "latn", "mlym", "nand", "newa", "orya",
      "shrd", "taml", "telu", "tirh"],
      #[(0x951, 0x951)]⟩,
    ⟨["beng", "deva", "gran", "gujr", "guru", "knda", "latn", "mlym", "newa", "orya", "taml",
      "telu", "tirh"],
      #[(0x952, 0x952)]⟩,
    ⟨["beng", "deva", "dogr", "gran", "gujr", "gong", "guru", "knda", "sind", "mahj", "mlym",
      "gonm", "nand", "onao", "orya", "sinh", "sylo", "takr", "taml", "telu", "tirh"],
      #[(0x964, 0x964)]⟩,
    ⟨["beng", "deva", "dogr", "gran", "gujr", "gong", "guru", "gukh", "knda", "sind", "limb",
      "mahj", "mlym", "gonm", "nand", "onao", "orya", "sinh", "sylo", "takr", "taml", "telu",
      "tirh"],
      #[(0x965, 0x965)]⟩,
    ⟨["deva", "dogr", "kthi", "mahj"], #[(0x966, 0x96f)]⟩,
    ⟨["beng", "cakm", "sylo"], #[(0x9e6, 0x9ef)]⟩,
    ⟨["guru", "mult"], #[(0xa66, 0xa6f)]⟩,
    ⟨["gujr", "khoj"], #[(0xae6, 0xaef)]⟩,
    ⟨["gran", "taml"],
      #[
        (0xbe6, 0xbf3), (0x11301, 0x11301), (0x11303, 0x11303), (0x1133b, 0x1133c),
        (0x11fd0, 0x11fd1), (0x11fd3, 0x11fd3)]⟩,
    ⟨["knda", "nand", "tutg"], #[(0xce6, 0xcef)]⟩,
    ⟨["cakm", "mymr", "tale"], #[(0x1040, 0x1049)]⟩,
    ⟨["geor", "glag", "latn"], #[(0x10fb, 0x10fb)]⟩,
    ⟨["runr"], #[(0x16eb, 0x16ed)]⟩,
    ⟨["buhd", "hano", "tglg", "tagb"], #[(0x1735, 0x1736)]⟩,
    ⟨["mong", "phag"], #[(0x1802, 0x1803), (0x1805, 0x1805)]⟩,
    ⟨["beng", "deva", "gran", "knda"], #[(0x1cd0, 0x1cd0), (0x1cd2, 0x1cd2)]⟩,
    ⟨["deva"],
      #[
        (0x1cd1, 0x1cd1), (0x1cd4, 0x1cd4), (0x1cdb, 0x1cdb), (0x1cde, 0x1cdf), (0x1ce3, 0x1ce8),
        (0x1cec, 0x1cec), (0x1cee, 0x1cf1)]⟩,
    ⟨["deva", "gran", "knda"], #[(0x1cd3, 0x1cd3)]⟩,
    ⟨["beng", "deva", "newa", "telu", "tirh"], #[(0x1cd5, 0x1cd5)]⟩,
    ⟨["beng", "deva", "telu"], #[(0x1cd6, 0x1cd6)]⟩,
    ⟨["deva", "newa", "shrd"], #[(0x1cd7, 0x1cd7)]⟩,
    ⟨["beng", "deva", "newa", "telu"], #[(0x1cd8, 0x1cd8)]⟩,
    ⟨["deva", "shrd"], #[(0x1cd9, 0x1cd9), (0x1cdc, 0x1cdd), (0x1ce0, 0x1ce0)]⟩,
    ⟨["deva", "knda", "mlym", "orya", "taml", "telu"], #[(0x1cda, 0x1cda)]⟩,
    ⟨["beng", "deva"], #[(0x1ce1, 0x1ce1), (0x1cf5, 0x1cf6)]⟩,
    ⟨["deva", "newa", "tirh"], #[(0x1ce2, 0x1ce2)]⟩,
    ⟨["deva", "nand", "newa"], #[(0x1ce9, 0x1ce9)]⟩,
    ⟨["beng", "deva", "shrd"], #[(0x1cea, 0x1cea)]⟩,
    ⟨["deva", "newa"], #[(0x1ceb, 0x1ceb)]⟩,
    ⟨["beng", "deva", "newa", "shrd"], #[(0x1ced, 0x1ced)]⟩,
    ⟨["beng", "deva", "gran", "knda", "mlym", "nand", "orya", "sinh", "telu", "tirh", "tutg"],
      #[(0x1cf2, 0x1cf2)]⟩,
    ⟨["deva", "gran"], #[(0x1cf3, 0x1cf3), (0x1cf8, 0x1cf9)]⟩,
    ⟨["deva", "gran", "knda", "tutg"], #[(0x1cf4, 0x1cf4)]⟩,
    ⟨["beng"], #[(0x1cf7, 0x1cf7)]⟩,
    ⟨["nand"], #[(0x1cfa, 0x1cfa)]⟩,
    ⟨["cyrl", "latn", "syrc"], #[(0x1df8, 0x1df8)]⟩,
    ⟨["syrc"], #[(0x1dfa, 0x1dfa)]⟩,
    ⟨["latn", "mong", "phag"], #[(0x202f, 0x202f)]⟩,
    ⟨["adlm", "arab"], #[(0x204f, 0x204f)]⟩,
    ⟨["cari", "geor", "glag", "lyci", "hung", "orkh"], #[(0x205a, 0x205a)]⟩,
    ⟨["cari", "grek", "mero", "hung"], #[(0x205d, 0x205d)]⟩,
    ⟨["deva", "gran", "latn"], #[(0x20f0, 0x20f0)]⟩,
    ⟨["copt", "latn"], #[(0x2e17, 0x2e17)]⟩,
    ⟨["avst", "orkh"], #[(0x2e30, 0x2e30)]⟩,
    ⟨["avst", "cari", "geor", "kthi", "lydi", "hung", "samr"], #[(0x2e31, 0x2e31)]⟩,
    ⟨["dupl"], #[(0x2e3c, 0x2e3c), (0x1bca0, 0x1bca3)]⟩,
    ⟨["adlm", "arab", "hung"], #[(0x2e41, 0x2e41)]⟩,
    ⟨["hani", "tang"], #[(0x2ff0, 0x2fff), (0x31ef, 0x31ef)]⟩,
    ⟨["bopo", "hani", "hang", "hira", "kana", "mong", "yiii"], #[(0x3001, 0x3001)]⟩,
    ⟨["bopo", "hani", "hang", "hira", "kana", "mong", "phag", "yiii"], #[(0x3002, 0x3002)]⟩,
    ⟨["bopo", "hani", "hang", "hira", "kana"],
      #[
        (0x3003, 0x3003), (0x3013, 0x3013), (0x301c, 0x301f), (0x3030, 0x3030), (0x3037, 0x3037),
        (0xfe45, 0xfe46)]⟩,
    ⟨["hani"],
      #[
        (0x3006, 0x3006), (0x303e, 0x303f), (0x3190, 0x319f), (0x31c0, 0x31e5), (0x3220, 0x3247),
        (0x3280, 0x32b0), (0x32c0, 0x32cb), (0x32ff, 0x32ff), (0x3358, 0x3370), (0x337b, 0x337f),
        (0x33e0, 0x33fe), (0x1d360, 0x1d371), (0x1f250, 0x1f251)]⟩,
    ⟨["bopo", "hani", "hang", "hira", "kana", "mong", "tibt", "yiii"], #[(0x3008, 0x3009)]⟩,
    ⟨["bopo", "hani", "hang", "hira", "kana", "lisu", "mong", "tibt", "yiii"], #[(0x300a, 0x300b)]⟩,
    ⟨["bopo", "hani", "hang", "hira", "kana", "yiii"],
      #[(0x300c, 0x3011), (0x3014, 0x301b), (0x30fb, 0x30fb), (0xff61, 0xff65)]⟩,
    ⟨["bopo", "hani"], #[(0x302a, 0x302d)]⟩,
    ⟨["hira", "kana"],
      #[
        (0x3031, 0x3035), (0x3099, 0x309c), (0x30a0, 0x30a0), (0x30fc, 0x30fc), (0xff70, 0xff70),
        (0xff9e, 0xff9f)]⟩,
    ⟨["hani", "hira", "kana"], #[(0x303c, 0x303d)]⟩,
    ⟨["hani", "latn"], #[(0xa700, 0xa707)]⟩,
    ⟨["deva", "dogr", "gujr", "guru", "kthi", "knda", "khoj", "sind", "mahj", "mlym", "modi",
      "nand", "shrd", "takr", "tirh", "tutg"],
      #[(0xa830, 0xa832)]⟩,
    ⟨["deva", "dogr", "gujr", "guru", "kthi", "knda", "khoj", "sind", "mahj", "modi", "nand",
      "shrd", "takr", "tirh", "tutg"],
      #[(0xa833, 0xa835)]⟩,
    ⟨["deva", "dogr", "gujr", "guru", "kthi", "khoj", "sind", "mahj", "modi", "takr", "tirh"],
      #[(0xa836, 0xa837), (0xa839, 0xa839)]⟩,
    ⟨["deva", "dogr", "gujr", "guru", "kthi", "khoj", "sind", "mahj", "modi", "shrd", "takr",
      "tirh"],
      #[(0xa838, 0xa838)]⟩,
    ⟨["beng", "deva", "tutg"], #[(0xa8f1, 0xa8f1)]⟩,
    ⟨["deva", "taml"], #[(0xa8f3, 0xa8f3)]⟩,
    ⟨["kali", "latn", "mymr"], #[(0xa92e, 0xa92e)]⟩,
    ⟨["bugi", "java"], #[(0xa9cf, 0xa9cf)]⟩,
    ⟨["arab", "nkoo"], #[(0xfd3e, 0xfd3f)]⟩,
    ⟨["arab", "thaa"], #[(0xfdf2, 0xfdf2), (0xfdfd, 0xfdfd)]⟩,
    ⟨["cprt", "cpmn", "linb"], #[(0x10100, 0x10101)]⟩,
    ⟨["cprt", "linb"], #[(0x10102, 0x10102), (0x10137, 0x1013f)]⟩,
    ⟨["cprt", "lina", "linb"], #[(0x10107, 0x10133)]⟩,
    ⟨["arab", "copt"], #[(0x102e0, 0x102fb)]⟩,
    ⟨["mani", "ougr"], #[(0x10af2, 0x10af2)]⟩]

end SeriesQuery.Script
