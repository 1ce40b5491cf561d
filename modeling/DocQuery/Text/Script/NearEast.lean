import DocQuery.Text.Script.Basic

/-!
# Alphabets and signs of the Near East

The scripts in which writing began, and those that took their place.
-/

namespace DocQuery
namespace Text
namespace Script

/-!
# Signs of the ancient world

Cuneiform scripts and hieroglyphs.
-/

def cuneiform : Script :=
  ⟨"Xsux", "Cuneiform", [], #[
    (0x12000, 0x12399), (0x12400, 0x1246e), (0x12470, 0x12474), (0x12480, 0x12543)]⟩

def ugaritic : Script :=
  ⟨"Ugar", "Ugaritic", [], #[(0x10380, 0x1039d), (0x1039f, 0x1039f)]⟩

def oldPersian : Script :=
  ⟨"Xpeo", "Old_Persian", [], #[(0x103a0, 0x103c3), (0x103c8, 0x103d5)]⟩

def egyptianHieroglyphs : Script :=
  ⟨"Egyp", "Egyptian_Hieroglyphs", [], #[(0x13000, 0x13455), (0x13460, 0x143fa)]⟩

def meroiticHieroglyphs : Script :=
  ⟨"Mero", "Meroitic_Hieroglyphs", [], #[(0x10980, 0x1099f)]⟩

def meroiticCursive : Script :=
  ⟨"Merc", "Meroitic_Cursive", [], #[(0x109a0, 0x109b7), (0x109bc, 0x109cf), (0x109d2, 0x109ff)]⟩

def anatolianHieroglyphs : Script :=
  ⟨"Hluw", "Anatolian_Hieroglyphs", [], #[(0x14400, 0x14646)]⟩

def ancient : List Script :=
  [cuneiform, ugaritic, oldPersian, egyptianHieroglyphs, meroiticHieroglyphs, meroiticCursive,
    anatolianHieroglyphs]

/-!
# Scripts of the Near East

The alphabets that go back to Aramaic, Hebrew and Arabic among them.
-/

def hebrew : Script :=
  ⟨"Hebr", "Hebrew", [], #[
    (0x591, 0x5c7), (0x5d0, 0x5ea), (0x5ef, 0x5f4), (0xfb1d, 0xfb36), (0xfb38, 0xfb3c),
    (0xfb3e, 0xfb3e), (0xfb40, 0xfb41), (0xfb43, 0xfb44), (0xfb46, 0xfb4f)]⟩

def arabic : Script :=
  ⟨"Arab", "Arabic", [], #[
    (0x600, 0x604), (0x606, 0x60b), (0x60d, 0x61a), (0x61c, 0x61e), (0x620, 0x63f), (0x641, 0x64a),
    (0x656, 0x66f), (0x671, 0x6dc), (0x6de, 0x6ff), (0x750, 0x77f), (0x870, 0x88e), (0x890, 0x891),
    (0x897, 0x8e1), (0x8e3, 0x8ff), (0xfb50, 0xfbc2), (0xfbd3, 0xfd3d), (0xfd40, 0xfd8f),
    (0xfd92, 0xfdc7), (0xfdcf, 0xfdcf), (0xfdf0, 0xfdff), (0xfe70, 0xfe74), (0xfe76, 0xfefc),
    (0x10e60, 0x10e7e), (0x10ec2, 0x10ec4), (0x10efc, 0x10eff), (0x1ee00, 0x1ee03),
    (0x1ee05, 0x1ee1f), (0x1ee21, 0x1ee22), (0x1ee24, 0x1ee24), (0x1ee27, 0x1ee27),
    (0x1ee29, 0x1ee32), (0x1ee34, 0x1ee37), (0x1ee39, 0x1ee39), (0x1ee3b, 0x1ee3b),
    (0x1ee42, 0x1ee42), (0x1ee47, 0x1ee47), (0x1ee49, 0x1ee49), (0x1ee4b, 0x1ee4b),
    (0x1ee4d, 0x1ee4f), (0x1ee51, 0x1ee52), (0x1ee54, 0x1ee54), (0x1ee57, 0x1ee57),
    (0x1ee59, 0x1ee59), (0x1ee5b, 0x1ee5b), (0x1ee5d, 0x1ee5d), (0x1ee5f, 0x1ee5f),
    (0x1ee61, 0x1ee62), (0x1ee64, 0x1ee64), (0x1ee67, 0x1ee6a), (0x1ee6c, 0x1ee72),
    (0x1ee74, 0x1ee77), (0x1ee79, 0x1ee7c), (0x1ee7e, 0x1ee7e), (0x1ee80, 0x1ee89),
    (0x1ee8b, 0x1ee9b), (0x1eea1, 0x1eea3), (0x1eea5, 0x1eea9), (0x1eeab, 0x1eebb),
    (0x1eef0, 0x1eef1)]⟩

def syriac : Script :=
  ⟨"Syrc", "Syriac", [], #[(0x700, 0x70d), (0x70f, 0x74a), (0x74d, 0x74f), (0x860, 0x86a)]⟩

def samaritan : Script :=
  ⟨"Samr", "Samaritan", [], #[(0x800, 0x82d), (0x830, 0x83e)]⟩

def mandaic : Script :=
  ⟨"Mand", "Mandaic", [], #[(0x840, 0x85b), (0x85e, 0x85e)]⟩

def yezidi : Script :=
  ⟨"Yezi", "Yezidi", [], #[(0x10e80, 0x10ea9), (0x10eab, 0x10ead), (0x10eb0, 0x10eb1)]⟩

def oldNorthArabian : Script :=
  ⟨"Narb", "Old_North_Arabian", [], #[(0x10a80, 0x10a9f)]⟩

def oldSouthArabian : Script :=
  ⟨"Sarb", "Old_South_Arabian", [], #[(0x10a60, 0x10a7f)]⟩

def phoenician : Script :=
  ⟨"Phnx", "Phoenician", [], #[(0x10900, 0x1091b), (0x1091f, 0x1091f)]⟩

def imperialAramaic : Script :=
  ⟨"Armi", "Imperial_Aramaic", [], #[(0x10840, 0x10855), (0x10857, 0x1085f)]⟩

def manichaean : Script :=
  ⟨"Mani", "Manichaean", [], #[(0x10ac0, 0x10ae6), (0x10aeb, 0x10af6)]⟩

def inscriptionalParthian : Script :=
  ⟨"Prti", "Inscriptional_Parthian", [], #[(0x10b40, 0x10b55), (0x10b58, 0x10b5f)]⟩

def inscriptionalPahlavi : Script :=
  ⟨"Phli", "Inscriptional_Pahlavi", [], #[(0x10b60, 0x10b72), (0x10b78, 0x10b7f)]⟩

def psalterPahlavi : Script :=
  ⟨"Phlp", "Psalter_Pahlavi", [], #[(0x10b80, 0x10b91), (0x10b99, 0x10b9c), (0x10ba9, 0x10baf)]⟩

def avestan : Script :=
  ⟨"Avst", "Avestan", [], #[(0x10b00, 0x10b35), (0x10b39, 0x10b3f)]⟩

def chorasmian : Script :=
  ⟨"Chrs", "Chorasmian", [], #[(0x10fb0, 0x10fcb)]⟩

def elymaic : Script :=
  ⟨"Elym", "Elymaic", [], #[(0x10fe0, 0x10ff6)]⟩

def nabataean : Script :=
  ⟨"Nbat", "Nabataean", [], #[(0x10880, 0x1089e), (0x108a7, 0x108af)]⟩

def palmyrene : Script :=
  ⟨"Palm", "Palmyrene", [], #[(0x10860, 0x1087f)]⟩

def hatran : Script :=
  ⟨"Hatr", "Hatran", [], #[(0x108e0, 0x108f2), (0x108f4, 0x108f5), (0x108fb, 0x108ff)]⟩

def nearEast : List Script :=
  [hebrew, arabic, syriac, samaritan, mandaic, yezidi, oldNorthArabian, oldSouthArabian,
    phoenician, imperialAramaic, manichaean, inscriptionalParthian, inscriptionalPahlavi,
    psalterPahlavi, avestan, chorasmian, elymaic, nabataean, palmyrene, hatran]

end Script
end Text
end DocQuery
