import DocQuery.Text.Script.Basic

/-!
# Scripts of the west

The scripts of Europe, Africa and the Americas.
-/

namespace DocQuery
namespace Text
namespace Script

/-!
# Scripts of Europe

The scripts that Europe writes or once wrote.
-/

def latin : Script :=
  ⟨"Latn", "Latin", [], #[
    (0x41, 0x5a), (0x61, 0x7a), (0xaa, 0xaa), (0xba, 0xba), (0xc0, 0xd6), (0xd8, 0xf6),
    (0xf8, 0x2b8), (0x2e0, 0x2e4), (0x1d00, 0x1d25), (0x1d2c, 0x1d5c), (0x1d62, 0x1d65),
    (0x1d6b, 0x1d77), (0x1d79, 0x1dbe), (0x1e00, 0x1eff), (0x2071, 0x2071), (0x207f, 0x207f),
    (0x2090, 0x209c), (0x212a, 0x212b), (0x2132, 0x2132), (0x214e, 0x214e), (0x2160, 0x2188),
    (0x2c60, 0x2c7f), (0xa722, 0xa787), (0xa78b, 0xa7cd), (0xa7d0, 0xa7d1), (0xa7d3, 0xa7d3),
    (0xa7d5, 0xa7dc), (0xa7f2, 0xa7ff), (0xab30, 0xab5a), (0xab5c, 0xab64), (0xab66, 0xab69),
    (0xfb00, 0xfb06), (0xff21, 0xff3a), (0xff41, 0xff5a), (0x10780, 0x10785), (0x10787, 0x107b0),
    (0x107b2, 0x107ba), (0x1df00, 0x1df1e), (0x1df25, 0x1df2a)]⟩

def greek : Script :=
  ⟨"Grek", "Greek", [], #[
    (0x370, 0x373), (0x375, 0x377), (0x37a, 0x37d), (0x37f, 0x37f), (0x384, 0x384), (0x386, 0x386),
    (0x388, 0x38a), (0x38c, 0x38c), (0x38e, 0x3a1), (0x3a3, 0x3e1), (0x3f0, 0x3ff),
    (0x1d26, 0x1d2a), (0x1d5d, 0x1d61), (0x1d66, 0x1d6a), (0x1dbf, 0x1dbf), (0x1f00, 0x1f15),
    (0x1f18, 0x1f1d), (0x1f20, 0x1f45), (0x1f48, 0x1f4d), (0x1f50, 0x1f57), (0x1f59, 0x1f59),
    (0x1f5b, 0x1f5b), (0x1f5d, 0x1f5d), (0x1f5f, 0x1f7d), (0x1f80, 0x1fb4), (0x1fb6, 0x1fc4),
    (0x1fc6, 0x1fd3), (0x1fd6, 0x1fdb), (0x1fdd, 0x1fef), (0x1ff2, 0x1ff4), (0x1ff6, 0x1ffe),
    (0x2126, 0x2126), (0xab65, 0xab65), (0x10140, 0x1018e), (0x101a0, 0x101a0), (0x1d200, 0x1d245)]⟩

def cyrillic : Script :=
  ⟨"Cyrl", "Cyrillic", [], #[
    (0x400, 0x484), (0x487, 0x52f), (0x1c80, 0x1c8a), (0x1d2b, 0x1d2b), (0x1d78, 0x1d78),
    (0x2de0, 0x2dff), (0xa640, 0xa69f), (0xfe2e, 0xfe2f), (0x1e030, 0x1e06d), (0x1e08f, 0x1e08f)]⟩

def armenian : Script :=
  ⟨"Armn", "Armenian", [], #[(0x531, 0x556), (0x559, 0x58a), (0x58d, 0x58f), (0xfb13, 0xfb17)]⟩

def georgian : Script :=
  ⟨"Geor", "Georgian", [], #[
    (0x10a0, 0x10c5), (0x10c7, 0x10c7), (0x10cd, 0x10cd), (0x10d0, 0x10fa), (0x10fc, 0x10ff),
    (0x1c90, 0x1cba), (0x1cbd, 0x1cbf), (0x2d00, 0x2d25), (0x2d27, 0x2d27), (0x2d2d, 0x2d2d)]⟩

def coptic : Script :=
  ⟨"Copt", "Coptic", ["Qaac"], #[(0x3e2, 0x3ef), (0x2c80, 0x2cf3), (0x2cf9, 0x2cff)]⟩

def glagolitic : Script :=
  ⟨"Glag", "Glagolitic", [], #[
    (0x2c00, 0x2c5f), (0x1e000, 0x1e006), (0x1e008, 0x1e018), (0x1e01b, 0x1e021),
    (0x1e023, 0x1e024), (0x1e026, 0x1e02a)]⟩

def oldItalic : Script :=
  ⟨"Ital", "Old_Italic", [], #[(0x10300, 0x10323), (0x1032d, 0x1032f)]⟩

def gothic : Script :=
  ⟨"Goth", "Gothic", [], #[(0x10330, 0x1034a)]⟩

def runic : Script :=
  ⟨"Runr", "Runic", [], #[(0x16a0, 0x16ea), (0x16ee, 0x16f8)]⟩

def ogham : Script :=
  ⟨"Ogam", "Ogham", [], #[(0x1680, 0x169c)]⟩

def oldHungarian : Script :=
  ⟨"Hung", "Old_Hungarian", [], #[(0x10c80, 0x10cb2), (0x10cc0, 0x10cf2), (0x10cfa, 0x10cff)]⟩

def oldPermic : Script :=
  ⟨"Perm", "Old_Permic", [], #[(0x10350, 0x1037a)]⟩

def elbasan : Script :=
  ⟨"Elba", "Elbasan", [], #[(0x10500, 0x10527)]⟩

def caucasianAlbanian : Script :=
  ⟨"Aghb", "Caucasian_Albanian", [], #[(0x10530, 0x10563), (0x1056f, 0x1056f)]⟩

def vithkuqi : Script :=
  ⟨"Vith", "Vithkuqi", [], #[
    (0x10570, 0x1057a), (0x1057c, 0x1058a), (0x1058c, 0x10592), (0x10594, 0x10595),
    (0x10597, 0x105a1), (0x105a3, 0x105b1), (0x105b3, 0x105b9), (0x105bb, 0x105bc)]⟩

def todhri : Script :=
  ⟨"Todr", "Todhri", [], #[(0x105c0, 0x105f3)]⟩

def linearA : Script :=
  ⟨"Lina", "Linear_A", [], #[(0x10600, 0x10736), (0x10740, 0x10755), (0x10760, 0x10767)]⟩

def linearB : Script :=
  ⟨"Linb", "Linear_B", [], #[
    (0x10000, 0x1000b), (0x1000d, 0x10026), (0x10028, 0x1003a), (0x1003c, 0x1003d),
    (0x1003f, 0x1004d), (0x10050, 0x1005d), (0x10080, 0x100fa)]⟩

def cypriot : Script :=
  ⟨"Cprt", "Cypriot", [], #[
    (0x10800, 0x10805), (0x10808, 0x10808), (0x1080a, 0x10835), (0x10837, 0x10838),
    (0x1083c, 0x1083c), (0x1083f, 0x1083f)]⟩

def cyproMinoan : Script :=
  ⟨"Cpmn", "Cypro_Minoan", [], #[(0x12f90, 0x12ff2)]⟩

def lycian : Script :=
  ⟨"Lyci", "Lycian", [], #[(0x10280, 0x1029c)]⟩

def carian : Script :=
  ⟨"Cari", "Carian", [], #[(0x102a0, 0x102d0)]⟩

def lydian : Script :=
  ⟨"Lydi", "Lydian", [], #[(0x10920, 0x10939), (0x1093f, 0x1093f)]⟩

def shavian : Script :=
  ⟨"Shaw", "Shavian", [], #[(0x10450, 0x1047f)]⟩

def duployan : Script :=
  ⟨"Dupl", "Duployan", [], #[
    (0x1bc00, 0x1bc6a), (0x1bc70, 0x1bc7c), (0x1bc80, 0x1bc88), (0x1bc90, 0x1bc99),
    (0x1bc9c, 0x1bc9f)]⟩

def europe : List Script :=
  [latin, greek, cyrillic, armenian, georgian, coptic, glagolitic, oldItalic, gothic, runic, ogham,
    oldHungarian, oldPermic, elbasan, caucasianAlbanian, vithkuqi, todhri, linearA, linearB,
    cypriot, cyproMinoan, lycian, carian, lydian, shavian, duployan]

/-!
# Scripts of Africa

The scripts of Africa that are not older than those of the ancient world.
-/

def ethiopic : Script :=
  ⟨"Ethi", "Ethiopic", [], #[
    (0x1200, 0x1248), (0x124a, 0x124d), (0x1250, 0x1256), (0x1258, 0x1258), (0x125a, 0x125d),
    (0x1260, 0x1288), (0x128a, 0x128d), (0x1290, 0x12b0), (0x12b2, 0x12b5), (0x12b8, 0x12be),
    (0x12c0, 0x12c0), (0x12c2, 0x12c5), (0x12c8, 0x12d6), (0x12d8, 0x1310), (0x1312, 0x1315),
    (0x1318, 0x135a), (0x135d, 0x137c), (0x1380, 0x1399), (0x2d80, 0x2d96), (0x2da0, 0x2da6),
    (0x2da8, 0x2dae), (0x2db0, 0x2db6), (0x2db8, 0x2dbe), (0x2dc0, 0x2dc6), (0x2dc8, 0x2dce),
    (0x2dd0, 0x2dd6), (0x2dd8, 0x2dde), (0xab01, 0xab06), (0xab09, 0xab0e), (0xab11, 0xab16),
    (0xab20, 0xab26), (0xab28, 0xab2e), (0x1e7e0, 0x1e7e6), (0x1e7e8, 0x1e7eb), (0x1e7ed, 0x1e7ee),
    (0x1e7f0, 0x1e7fe)]⟩

def tifinagh : Script :=
  ⟨"Tfng", "Tifinagh", [], #[(0x2d30, 0x2d67), (0x2d6f, 0x2d70), (0x2d7f, 0x2d7f)]⟩

def nko : Script :=
  ⟨"Nkoo", "Nko", [], #[(0x7c0, 0x7fa), (0x7fd, 0x7ff)]⟩

def vai : Script :=
  ⟨"Vaii", "Vai", [], #[(0xa500, 0xa62b)]⟩

def bamum : Script :=
  ⟨"Bamu", "Bamum", [], #[(0xa6a0, 0xa6f7), (0x16800, 0x16a38)]⟩

def bassaVah : Script :=
  ⟨"Bass", "Bassa_Vah", [], #[(0x16ad0, 0x16aed), (0x16af0, 0x16af5)]⟩

def mendeKikakui : Script :=
  ⟨"Mend", "Mende_Kikakui", [], #[(0x1e800, 0x1e8c4), (0x1e8c7, 0x1e8d6)]⟩

def adlam : Script :=
  ⟨"Adlm", "Adlam", [], #[(0x1e900, 0x1e94b), (0x1e950, 0x1e959), (0x1e95e, 0x1e95f)]⟩

def medefaidrin : Script :=
  ⟨"Medf", "Medefaidrin", [], #[(0x16e40, 0x16e9a)]⟩

def osmanya : Script :=
  ⟨"Osma", "Osmanya", [], #[(0x10480, 0x1049d), (0x104a0, 0x104a9)]⟩

def garay : Script :=
  ⟨"Gara", "Garay", [], #[(0x10d40, 0x10d65), (0x10d69, 0x10d85), (0x10d8e, 0x10d8f)]⟩

def africa : List Script :=
  [ethiopic, tifinagh, nko, vai, bamum, bassaVah, mendeKikakui, adlam, medefaidrin, osmanya, garay]

/-!
# Scripts of the Americas

The scripts of the Americas, and signs that are not bound to a language.
-/

def cherokee : Script :=
  ⟨"Cher", "Cherokee", [], #[(0x13a0, 0x13f5), (0x13f8, 0x13fd), (0xab70, 0xabbf)]⟩

def canadianAboriginal : Script :=
  ⟨"Cans", "Canadian_Aboriginal", [], #[(0x1400, 0x167f), (0x18b0, 0x18f5), (0x11ab0, 0x11abf)]⟩

def osage : Script :=
  ⟨"Osge", "Osage", [], #[(0x104b0, 0x104d3), (0x104d8, 0x104fb)]⟩

def deseret : Script :=
  ⟨"Dsrt", "Deseret", [], #[(0x10400, 0x1044f)]⟩

def signWriting : Script :=
  ⟨"Sgnw", "SignWriting", [], #[(0x1d800, 0x1da8b), (0x1da9b, 0x1da9f), (0x1daa1, 0x1daaf)]⟩

def braille : Script :=
  ⟨"Brai", "Braille", [], #[(0x2800, 0x28ff)]⟩

def america : List Script :=
  [cherokee, canadianAboriginal, osage, deseret, signWriting, braille]

end Script
end Text
end DocQuery
