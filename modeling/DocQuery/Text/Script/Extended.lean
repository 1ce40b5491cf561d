import DocQuery.Text.Script.Basic
import DocQuery.Text.Script.East
import DocQuery.Text.Script.India
import DocQuery.Text.Script.NearEast
import DocQuery.Text.Script.West

/-!
# Characters of several scripts

Some characters are used in several scripts, whichever script they belong to.
Each entry lists the codes of the scripts, and the characters that these scripts
and no others use.
-/

namespace DocQuery
namespace Text

structure SharedRanges where
  codes : List String
  ranges : Array (Nat × Nat)
  deriving Repr

def sharedRanges : List SharedRanges :=
  [⟨["Avst", "Cari", "Copt", "Dupl", "Elba", "Geor", "Glag", "Gong", "Goth", "Grek", "Hani",
      "Latn", "Lydi", "Mahj", "Perm", "Shaw"],
      #[(0xb7, 0xb7)]⟩,
    ⟨["Beng", "Cyrl", "Deva", "Latn", "Lisu", "Thai", "Toto"], #[(0x2bc, 0x2bc)]⟩,
    ⟨["Bopo", "Latn"], #[(0x2c7, 0x2c7), (0x2c9, 0x2cb), (0x2d9, 0x2d9)]⟩,
    ⟨["Latn", "Lisu"], #[(0x2cd, 0x2cd)]⟩,
    ⟨["Latn", "Thai"], #[(0x2d7, 0x2d7)]⟩,
    ⟨["Cher", "Copt", "Cyrl", "Grek", "Latn", "Perm", "Sunu", "Tale"], #[(0x300, 0x300)]⟩,
    ⟨["Cher", "Cyrl", "Grek", "Latn", "Osge", "Sunu", "Tale", "Todr"], #[(0x301, 0x301)]⟩,
    ⟨["Cher", "Cyrl", "Latn", "Tfng"], #[(0x302, 0x302)]⟩,
    ⟨["Glag", "Latn", "Sunu", "Syrc", "Thai"], #[(0x303, 0x303)]⟩,
    ⟨["Aghb", "Cher", "Copt", "Cyrl", "Goth", "Grek", "Latn", "Osge", "Syrc", "Tfng", "Todr"],
      #[(0x304, 0x304)]⟩,
    ⟨["Copt", "Elba", "Glag", "Goth", "Kana", "Latn"], #[(0x305, 0x305)]⟩,
    ⟨["Cyrl", "Grek", "Latn", "Perm", "Tfng"], #[(0x306, 0x306)]⟩,
    ⟨["Copt", "Dupl", "Hebr", "Latn", "Perm", "Syrc", "Tale", "Tfng", "Todr"], #[(0x307, 0x307)]⟩,
    ⟨["Armn", "Cyrl", "Dupl", "Goth", "Grek", "Hebr", "Latn", "Perm", "Syrc", "Tale", "Tfng"],
      #[(0x308, 0x308)]⟩,
    ⟨["Latn", "Tfng"], #[(0x309, 0x309)]⟩,
    ⟨["Dupl", "Latn", "Syrc"], #[(0x30a, 0x30a)]⟩,
    ⟨["Cher", "Cyrl", "Latn", "Osge"], #[(0x30b, 0x30b)]⟩,
    ⟨["Cher", "Latn", "Tale"], #[(0x30c, 0x30c)]⟩,
    ⟨["Latn", "Sunu"], #[(0x30d, 0x30d), (0x310, 0x310)]⟩,
    ⟨["Ethi", "Latn"], #[(0x30e, 0x30e)]⟩,
    ⟨["Cyrl", "Latn", "Todr"], #[(0x311, 0x311)]⟩,
    ⟨["Grek", "Latn", "Perm", "Todr"], #[(0x313, 0x313)]⟩,
    ⟨["Cher", "Dupl", "Kana", "Latn", "Syrc", "Tfng"], #[(0x323, 0x323)]⟩,
    ⟨["Cher", "Dupl", "Latn", "Syrc"], #[(0x324, 0x324)]⟩,
    ⟨["Latn", "Syrc"], #[(0x325, 0x325), (0x32e, 0x32e)]⟩,
    ⟨["Latn", "Sunu", "Syrc"], #[(0x32d, 0x32d)]⟩,
    ⟨["Cher", "Latn", "Syrc"], #[(0x330, 0x330)]⟩,
    ⟨["Aghb", "Cher", "Goth", "Latn", "Sunu", "Syrc", "Thai"], #[(0x331, 0x331)]⟩,
    ⟨["Grek"], #[(0x342, 0x342), (0x345, 0x345), (0x1dc0, 0x1dc1)]⟩,
    ⟨["Latn", "Osge"], #[(0x358, 0x358)]⟩,
    ⟨["Aghb", "Latn", "Todr"], #[(0x35e, 0x35e)]⟩,
    ⟨["Latn"], #[(0x363, 0x36f)]⟩,
    ⟨["Copt", "Grek"], #[(0x374, 0x375)]⟩,
    ⟨["Cyrl", "Perm"], #[(0x483, 0x483)]⟩,
    ⟨["Cyrl", "Glag"], #[(0x484, 0x484), (0x487, 0x487), (0x2e43, 0x2e43), (0xa66f, 0xa66f)]⟩,
    ⟨["Cyrl", "Latn"], #[(0x485, 0x486)]⟩,
    ⟨["Armn", "Geor", "Glag"], #[(0x589, 0x589)]⟩,
    ⟨["Arab", "Gara", "Nkoo", "Rohg", "Syrc", "Thaa", "Yezi"], #[(0x60c, 0x60c), (0x61b, 0x61b)]⟩,
    ⟨["Arab", "Syrc", "Thaa"], #[(0x61c, 0x61c)]⟩,
    ⟨["Adlm", "Arab", "Gara", "Nkoo", "Rohg", "Syrc", "Thaa", "Yezi"], #[(0x61f, 0x61f)]⟩,
    ⟨["Adlm", "Arab", "Mand", "Mani", "Ougr", "Phlp", "Rohg", "Sogd", "Syrc"], #[(0x640, 0x640)]⟩,
    ⟨["Arab", "Syrc"], #[(0x64b, 0x655), (0x670, 0x670)]⟩,
    ⟨["Arab", "Thaa", "Yezi"], #[(0x660, 0x669)]⟩,
    ⟨["Arab", "Rohg"], #[(0x6d4, 0x6d4)]⟩,
    ⟨["Beng", "Deva", "Gran", "Gujr", "Guru", "Knda", "Latn", "Mlym", "Nand", "Newa", "Orya",
      "Shrd", "Taml", "Telu", "Tirh"],
      #[(0x951, 0x951)]⟩,
    ⟨["Beng", "Deva", "Gran", "Gujr", "Guru", "Knda", "Latn", "Mlym", "Newa", "Orya", "Taml",
      "Telu", "Tirh"],
      #[(0x952, 0x952)]⟩,
    ⟨["Beng", "Deva", "Dogr", "Gong", "Gonm", "Gran", "Gujr", "Guru", "Knda", "Mahj", "Mlym",
      "Nand", "Onao", "Orya", "Sind", "Sinh", "Sylo", "Takr", "Taml", "Telu", "Tirh"],
      #[(0x964, 0x964)]⟩,
    ⟨["Beng", "Deva", "Dogr", "Gong", "Gonm", "Gran", "Gujr", "Gukh", "Guru", "Knda", "Limb",
      "Mahj", "Mlym", "Nand", "Onao", "Orya", "Sind", "Sinh", "Sylo", "Takr", "Taml", "Telu",
      "Tirh"],
      #[(0x965, 0x965)]⟩,
    ⟨["Deva", "Dogr", "Kthi", "Mahj"], #[(0x966, 0x96f)]⟩,
    ⟨["Beng", "Cakm", "Sylo"], #[(0x9e6, 0x9ef)]⟩,
    ⟨["Guru", "Mult"], #[(0xa66, 0xa6f)]⟩,
    ⟨["Gujr", "Khoj"], #[(0xae6, 0xaef)]⟩,
    ⟨["Gran", "Taml"],
      #[
        (0xbe6, 0xbf3), (0x11301, 0x11301), (0x11303, 0x11303), (0x1133b, 0x1133c),
        (0x11fd0, 0x11fd1), (0x11fd3, 0x11fd3)]⟩,
    ⟨["Knda", "Nand", "Tutg"], #[(0xce6, 0xcef)]⟩,
    ⟨["Cakm", "Mymr", "Tale"], #[(0x1040, 0x1049)]⟩,
    ⟨["Geor", "Glag", "Latn"], #[(0x10fb, 0x10fb)]⟩,
    ⟨["Runr"], #[(0x16eb, 0x16ed)]⟩,
    ⟨["Buhd", "Hano", "Tagb", "Tglg"], #[(0x1735, 0x1736)]⟩,
    ⟨["Mong", "Phag"], #[(0x1802, 0x1803), (0x1805, 0x1805)]⟩,
    ⟨["Beng", "Deva", "Gran", "Knda"], #[(0x1cd0, 0x1cd0), (0x1cd2, 0x1cd2)]⟩,
    ⟨["Deva"],
      #[
        (0x1cd1, 0x1cd1), (0x1cd4, 0x1cd4), (0x1cdb, 0x1cdb), (0x1cde, 0x1cdf), (0x1ce3, 0x1ce8),
        (0x1cec, 0x1cec), (0x1cee, 0x1cf1)]⟩,
    ⟨["Deva", "Gran", "Knda"], #[(0x1cd3, 0x1cd3)]⟩,
    ⟨["Beng", "Deva", "Newa", "Telu", "Tirh"], #[(0x1cd5, 0x1cd5)]⟩,
    ⟨["Beng", "Deva", "Telu"], #[(0x1cd6, 0x1cd6)]⟩,
    ⟨["Deva", "Newa", "Shrd"], #[(0x1cd7, 0x1cd7)]⟩,
    ⟨["Beng", "Deva", "Newa", "Telu"], #[(0x1cd8, 0x1cd8)]⟩,
    ⟨["Deva", "Shrd"], #[(0x1cd9, 0x1cd9), (0x1cdc, 0x1cdd), (0x1ce0, 0x1ce0)]⟩,
    ⟨["Deva", "Knda", "Mlym", "Orya", "Taml", "Telu"], #[(0x1cda, 0x1cda)]⟩,
    ⟨["Beng", "Deva"], #[(0x1ce1, 0x1ce1), (0x1cf5, 0x1cf6)]⟩,
    ⟨["Deva", "Newa", "Tirh"], #[(0x1ce2, 0x1ce2)]⟩,
    ⟨["Deva", "Nand", "Newa"], #[(0x1ce9, 0x1ce9)]⟩,
    ⟨["Beng", "Deva", "Shrd"], #[(0x1cea, 0x1cea)]⟩,
    ⟨["Deva", "Newa"], #[(0x1ceb, 0x1ceb)]⟩,
    ⟨["Beng", "Deva", "Newa", "Shrd"], #[(0x1ced, 0x1ced)]⟩,
    ⟨["Beng", "Deva", "Gran", "Knda", "Mlym", "Nand", "Orya", "Sinh", "Telu", "Tirh", "Tutg"],
      #[(0x1cf2, 0x1cf2)]⟩,
    ⟨["Deva", "Gran"], #[(0x1cf3, 0x1cf3), (0x1cf8, 0x1cf9)]⟩,
    ⟨["Deva", "Gran", "Knda", "Tutg"], #[(0x1cf4, 0x1cf4)]⟩,
    ⟨["Beng"], #[(0x1cf7, 0x1cf7)]⟩,
    ⟨["Nand"], #[(0x1cfa, 0x1cfa)]⟩,
    ⟨["Cyrl", "Latn", "Syrc"], #[(0x1df8, 0x1df8)]⟩,
    ⟨["Syrc"], #[(0x1dfa, 0x1dfa)]⟩,
    ⟨["Latn", "Mong", "Phag"], #[(0x202f, 0x202f)]⟩,
    ⟨["Adlm", "Arab"], #[(0x204f, 0x204f)]⟩,
    ⟨["Cari", "Geor", "Glag", "Hung", "Lyci", "Orkh"], #[(0x205a, 0x205a)]⟩,
    ⟨["Cari", "Grek", "Hung", "Mero"], #[(0x205d, 0x205d)]⟩,
    ⟨["Deva", "Gran", "Latn"], #[(0x20f0, 0x20f0)]⟩,
    ⟨["Copt", "Latn"], #[(0x2e17, 0x2e17)]⟩,
    ⟨["Avst", "Orkh"], #[(0x2e30, 0x2e30)]⟩,
    ⟨["Avst", "Cari", "Geor", "Hung", "Kthi", "Lydi", "Samr"], #[(0x2e31, 0x2e31)]⟩,
    ⟨["Dupl"], #[(0x2e3c, 0x2e3c), (0x1bca0, 0x1bca3)]⟩,
    ⟨["Adlm", "Arab", "Hung"], #[(0x2e41, 0x2e41)]⟩,
    ⟨["Hani", "Tang"], #[(0x2ff0, 0x2fff), (0x31ef, 0x31ef)]⟩,
    ⟨["Bopo", "Hang", "Hani", "Hira", "Kana", "Mong", "Yiii"], #[(0x3001, 0x3001)]⟩,
    ⟨["Bopo", "Hang", "Hani", "Hira", "Kana", "Mong", "Phag", "Yiii"], #[(0x3002, 0x3002)]⟩,
    ⟨["Bopo", "Hang", "Hani", "Hira", "Kana"],
      #[
        (0x3003, 0x3003), (0x3013, 0x3013), (0x301c, 0x301f), (0x3030, 0x3030), (0x3037, 0x3037),
        (0xfe45, 0xfe46)]⟩,
    ⟨["Hani"],
      #[
        (0x3006, 0x3006), (0x303e, 0x303f), (0x3190, 0x319f), (0x31c0, 0x31e5), (0x3220, 0x3247),
        (0x3280, 0x32b0), (0x32c0, 0x32cb), (0x32ff, 0x32ff), (0x3358, 0x3370), (0x337b, 0x337f),
        (0x33e0, 0x33fe), (0x1d360, 0x1d371), (0x1f250, 0x1f251)]⟩,
    ⟨["Bopo", "Hang", "Hani", "Hira", "Kana", "Mong", "Tibt", "Yiii"], #[(0x3008, 0x3009)]⟩,
    ⟨["Bopo", "Hang", "Hani", "Hira", "Kana", "Lisu", "Mong", "Tibt", "Yiii"], #[(0x300a, 0x300b)]⟩,
    ⟨["Bopo", "Hang", "Hani", "Hira", "Kana", "Yiii"],
      #[(0x300c, 0x3011), (0x3014, 0x301b), (0x30fb, 0x30fb), (0xff61, 0xff65)]⟩,
    ⟨["Bopo", "Hani"], #[(0x302a, 0x302d)]⟩,
    ⟨["Hira", "Kana"],
      #[
        (0x3031, 0x3035), (0x3099, 0x309c), (0x30a0, 0x30a0), (0x30fc, 0x30fc), (0xff70, 0xff70),
        (0xff9e, 0xff9f)]⟩,
    ⟨["Hani", "Hira", "Kana"], #[(0x303c, 0x303d)]⟩,
    ⟨["Hani", "Latn"], #[(0xa700, 0xa707)]⟩,
    ⟨["Deva", "Dogr", "Gujr", "Guru", "Khoj", "Knda", "Kthi", "Mahj", "Mlym", "Modi", "Nand",
      "Shrd", "Sind", "Takr", "Tirh", "Tutg"],
      #[(0xa830, 0xa832)]⟩,
    ⟨["Deva", "Dogr", "Gujr", "Guru", "Khoj", "Knda", "Kthi", "Mahj", "Modi", "Nand", "Shrd",
      "Sind", "Takr", "Tirh", "Tutg"],
      #[(0xa833, 0xa835)]⟩,
    ⟨["Deva", "Dogr", "Gujr", "Guru", "Khoj", "Kthi", "Mahj", "Modi", "Sind", "Takr", "Tirh"],
      #[(0xa836, 0xa837), (0xa839, 0xa839)]⟩,
    ⟨["Deva", "Dogr", "Gujr", "Guru", "Khoj", "Kthi", "Mahj", "Modi", "Shrd", "Sind", "Takr",
      "Tirh"],
      #[(0xa838, 0xa838)]⟩,
    ⟨["Beng", "Deva", "Tutg"], #[(0xa8f1, 0xa8f1)]⟩,
    ⟨["Deva", "Taml"], #[(0xa8f3, 0xa8f3)]⟩,
    ⟨["Kali", "Latn", "Mymr"], #[(0xa92e, 0xa92e)]⟩,
    ⟨["Bugi", "Java"], #[(0xa9cf, 0xa9cf)]⟩,
    ⟨["Arab", "Nkoo"], #[(0xfd3e, 0xfd3f)]⟩,
    ⟨["Arab", "Thaa"], #[(0xfdf2, 0xfdf2), (0xfdfd, 0xfdfd)]⟩,
    ⟨["Cpmn", "Cprt", "Linb"], #[(0x10100, 0x10101)]⟩,
    ⟨["Cprt", "Linb"], #[(0x10102, 0x10102), (0x10137, 0x1013f)]⟩,
    ⟨["Cprt", "Lina", "Linb"], #[(0x10107, 0x10133)]⟩,
    ⟨["Arab", "Copt"], #[(0x102e0, 0x102fb)]⟩,
    ⟨["Mani", "Ougr"], #[(0x10af2, 0x10af2)]⟩]

namespace Script

def all : List Script :=
  shared ++ europe ++ nearEast ++ ancient ++ africa ++ india ++ innerAsia ++ southeast ++
    eastAsia ++ america

def sharedSet : CharSet :=
  .unions (sharedRanges.map fun s => .table s.ranges)

/-- The characters that a script uses, alone or with others. -/
def extended (s : Script) : CharSet :=
  .union (.without s.set sharedSet)
    (.unions ((sharedRanges.filter fun r => r.codes.contains s.code).map fun r => .table r.ranges))

end Script
end Text
end DocQuery
