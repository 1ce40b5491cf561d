import DocQuery.Text.Script.Basic

/-!
# Scripts of India

The scripts of the Indian plain and its neighbours, from north to south.
-/

namespace DocQuery
namespace Text
namespace Script

def devanagari : Script :=
  ⟨"Deva", "Devanagari", [], #[
    (0x900, 0x950), (0x955, 0x963), (0x966, 0x97f), (0xa8e0, 0xa8ff), (0x11b00, 0x11b09)]⟩

def bengali : Script :=
  ⟨"Beng", "Bengali", [], #[
    (0x980, 0x983), (0x985, 0x98c), (0x98f, 0x990), (0x993, 0x9a8), (0x9aa, 0x9b0), (0x9b2, 0x9b2),
    (0x9b6, 0x9b9), (0x9bc, 0x9c4), (0x9c7, 0x9c8), (0x9cb, 0x9ce), (0x9d7, 0x9d7), (0x9dc, 0x9dd),
    (0x9df, 0x9e3), (0x9e6, 0x9fe)]⟩

def gurmukhi : Script :=
  ⟨"Guru", "Gurmukhi", [], #[
    (0xa01, 0xa03), (0xa05, 0xa0a), (0xa0f, 0xa10), (0xa13, 0xa28), (0xa2a, 0xa30), (0xa32, 0xa33),
    (0xa35, 0xa36), (0xa38, 0xa39), (0xa3c, 0xa3c), (0xa3e, 0xa42), (0xa47, 0xa48), (0xa4b, 0xa4d),
    (0xa51, 0xa51), (0xa59, 0xa5c), (0xa5e, 0xa5e), (0xa66, 0xa76)]⟩

def gujarati : Script :=
  ⟨"Gujr", "Gujarati", [], #[
    (0xa81, 0xa83), (0xa85, 0xa8d), (0xa8f, 0xa91), (0xa93, 0xaa8), (0xaaa, 0xab0), (0xab2, 0xab3),
    (0xab5, 0xab9), (0xabc, 0xac5), (0xac7, 0xac9), (0xacb, 0xacd), (0xad0, 0xad0), (0xae0, 0xae3),
    (0xae6, 0xaf1), (0xaf9, 0xaff)]⟩

def oriya : Script :=
  ⟨"Orya", "Oriya", [], #[
    (0xb01, 0xb03), (0xb05, 0xb0c), (0xb0f, 0xb10), (0xb13, 0xb28), (0xb2a, 0xb30), (0xb32, 0xb33),
    (0xb35, 0xb39), (0xb3c, 0xb44), (0xb47, 0xb48), (0xb4b, 0xb4d), (0xb55, 0xb57), (0xb5c, 0xb5d),
    (0xb5f, 0xb63), (0xb66, 0xb77)]⟩

def tamil : Script :=
  ⟨"Taml", "Tamil", [], #[
    (0xb82, 0xb83), (0xb85, 0xb8a), (0xb8e, 0xb90), (0xb92, 0xb95), (0xb99, 0xb9a), (0xb9c, 0xb9c),
    (0xb9e, 0xb9f), (0xba3, 0xba4), (0xba8, 0xbaa), (0xbae, 0xbb9), (0xbbe, 0xbc2), (0xbc6, 0xbc8),
    (0xbca, 0xbcd), (0xbd0, 0xbd0), (0xbd7, 0xbd7), (0xbe6, 0xbfa), (0x11fc0, 0x11ff1),
    (0x11fff, 0x11fff)]⟩

def telugu : Script :=
  ⟨"Telu", "Telugu", [], #[
    (0xc00, 0xc0c), (0xc0e, 0xc10), (0xc12, 0xc28), (0xc2a, 0xc39), (0xc3c, 0xc44), (0xc46, 0xc48),
    (0xc4a, 0xc4d), (0xc55, 0xc56), (0xc58, 0xc5a), (0xc5d, 0xc5d), (0xc60, 0xc63), (0xc66, 0xc6f),
    (0xc77, 0xc7f)]⟩

def kannada : Script :=
  ⟨"Knda", "Kannada", [], #[
    (0xc80, 0xc8c), (0xc8e, 0xc90), (0xc92, 0xca8), (0xcaa, 0xcb3), (0xcb5, 0xcb9), (0xcbc, 0xcc4),
    (0xcc6, 0xcc8), (0xcca, 0xccd), (0xcd5, 0xcd6), (0xcdd, 0xcde), (0xce0, 0xce3), (0xce6, 0xcef),
    (0xcf1, 0xcf3)]⟩

def malayalam : Script :=
  ⟨"Mlym", "Malayalam", [], #[
    (0xd00, 0xd0c), (0xd0e, 0xd10), (0xd12, 0xd44), (0xd46, 0xd48), (0xd4a, 0xd4f), (0xd54, 0xd63),
    (0xd66, 0xd7f)]⟩

def sinhala : Script :=
  ⟨"Sinh", "Sinhala", [], #[
    (0xd81, 0xd83), (0xd85, 0xd96), (0xd9a, 0xdb1), (0xdb3, 0xdbb), (0xdbd, 0xdbd), (0xdc0, 0xdc6),
    (0xdca, 0xdca), (0xdcf, 0xdd4), (0xdd6, 0xdd6), (0xdd8, 0xddf), (0xde6, 0xdef), (0xdf2, 0xdf4),
    (0x111e1, 0x111f4)]⟩

def thaana : Script :=
  ⟨"Thaa", "Thaana", [], #[(0x780, 0x7b1)]⟩

def newa : Script :=
  ⟨"Newa", "Newa", [], #[(0x11400, 0x1145b), (0x1145d, 0x11461)]⟩

def mro : Script :=
  ⟨"Mroo", "Mro", [], #[(0x16a40, 0x16a5e), (0x16a60, 0x16a69), (0x16a6e, 0x16a6f)]⟩

def olChiki : Script :=
  ⟨"Olck", "Ol_Chiki", [], #[(0x1c50, 0x1c7f)]⟩

def limbu : Script :=
  ⟨"Limb", "Limbu", [], #[
    (0x1900, 0x191e), (0x1920, 0x192b), (0x1930, 0x193b), (0x1940, 0x1940), (0x1944, 0x194f)]⟩

def sylotiNagri : Script :=
  ⟨"Sylo", "Syloti_Nagri", [], #[(0xa800, 0xa82c)]⟩

def kaithi : Script :=
  ⟨"Kthi", "Kaithi", [], #[(0x11080, 0x110c2), (0x110cd, 0x110cd)]⟩

def saurashtra : Script :=
  ⟨"Saur", "Saurashtra", [], #[(0xa880, 0xa8c5), (0xa8ce, 0xa8d9)]⟩

def sharada : Script :=
  ⟨"Shrd", "Sharada", [], #[(0x11180, 0x111df)]⟩

def takri : Script :=
  ⟨"Takr", "Takri", [], #[(0x11680, 0x116b9), (0x116c0, 0x116c9)]⟩

def siddham : Script :=
  ⟨"Sidd", "Siddham", [], #[(0x11580, 0x115b5), (0x115b8, 0x115dd)]⟩

def mahajani : Script :=
  ⟨"Mahj", "Mahajani", [], #[(0x11150, 0x11176)]⟩

def khojki : Script :=
  ⟨"Khoj", "Khojki", [], #[(0x11200, 0x11211), (0x11213, 0x11241)]⟩

def khudawadi : Script :=
  ⟨"Sind", "Khudawadi", [], #[(0x112b0, 0x112ea), (0x112f0, 0x112f9)]⟩

def multani : Script :=
  ⟨"Mult", "Multani", [], #[
    (0x11280, 0x11286), (0x11288, 0x11288), (0x1128a, 0x1128d), (0x1128f, 0x1129d),
    (0x1129f, 0x112a9)]⟩

def tirhuta : Script :=
  ⟨"Tirh", "Tirhuta", [], #[(0x11480, 0x114c7), (0x114d0, 0x114d9)]⟩

def modi : Script :=
  ⟨"Modi", "Modi", [], #[(0x11600, 0x11644), (0x11650, 0x11659)]⟩

def nandinagari : Script :=
  ⟨"Nand", "Nandinagari", [], #[(0x119a0, 0x119a7), (0x119aa, 0x119d7), (0x119da, 0x119e4)]⟩

def grantha : Script :=
  ⟨"Gran", "Grantha", [], #[
    (0x11300, 0x11303), (0x11305, 0x1130c), (0x1130f, 0x11310), (0x11313, 0x11328),
    (0x1132a, 0x11330), (0x11332, 0x11333), (0x11335, 0x11339), (0x1133c, 0x11344),
    (0x11347, 0x11348), (0x1134b, 0x1134d), (0x11350, 0x11350), (0x11357, 0x11357),
    (0x1135d, 0x11363), (0x11366, 0x1136c), (0x11370, 0x11374)]⟩

def divesAkuru : Script :=
  ⟨"Diak", "Dives_Akuru", [], #[
    (0x11900, 0x11906), (0x11909, 0x11909), (0x1190c, 0x11913), (0x11915, 0x11916),
    (0x11918, 0x11935), (0x11937, 0x11938), (0x1193b, 0x11946), (0x11950, 0x11959)]⟩

def ahom : Script :=
  ⟨"Ahom", "Ahom", [], #[(0x11700, 0x1171a), (0x1171d, 0x1172b), (0x11730, 0x11746)]⟩

def soraSompeng : Script :=
  ⟨"Sora", "Sora_Sompeng", [], #[(0x110d0, 0x110e8), (0x110f0, 0x110f9)]⟩

def warangCiti : Script :=
  ⟨"Wara", "Warang_Citi", [], #[(0x118a0, 0x118f2), (0x118ff, 0x118ff)]⟩

def meeteiMayek : Script :=
  ⟨"Mtei", "Meetei_Mayek", [], #[(0xaae0, 0xaaf6), (0xabc0, 0xabed), (0xabf0, 0xabf9)]⟩

def dogra : Script :=
  ⟨"Dogr", "Dogra", [], #[(0x11800, 0x1183b)]⟩

def gunjalaGondi : Script :=
  ⟨"Gong", "Gunjala_Gondi", [], #[
    (0x11d60, 0x11d65), (0x11d67, 0x11d68), (0x11d6a, 0x11d8e), (0x11d90, 0x11d91),
    (0x11d93, 0x11d98), (0x11da0, 0x11da9)]⟩

def masaramGondi : Script :=
  ⟨"Gonm", "Masaram_Gondi", [], #[
    (0x11d00, 0x11d06), (0x11d08, 0x11d09), (0x11d0b, 0x11d36), (0x11d3a, 0x11d3a),
    (0x11d3c, 0x11d3d), (0x11d3f, 0x11d47), (0x11d50, 0x11d59)]⟩

def nagMundari : Script :=
  ⟨"Nagm", "Nag_Mundari", [], #[(0x1e4d0, 0x1e4f9)]⟩

def olOnal : Script :=
  ⟨"Onao", "Ol_Onal", [], #[(0x1e5d0, 0x1e5fa), (0x1e5ff, 0x1e5ff)]⟩

def tuluTigalari : Script :=
  ⟨"Tutg", "Tulu_Tigalari", [], #[
    (0x11380, 0x11389), (0x1138b, 0x1138b), (0x1138e, 0x1138e), (0x11390, 0x113b5),
    (0x113b7, 0x113c0), (0x113c2, 0x113c2), (0x113c5, 0x113c5), (0x113c7, 0x113ca),
    (0x113cc, 0x113d5), (0x113d7, 0x113d8), (0x113e1, 0x113e2)]⟩

def kharoshthi : Script :=
  ⟨"Khar", "Kharoshthi", [], #[
    (0x10a00, 0x10a03), (0x10a05, 0x10a06), (0x10a0c, 0x10a13), (0x10a15, 0x10a17),
    (0x10a19, 0x10a35), (0x10a38, 0x10a3a), (0x10a3f, 0x10a48), (0x10a50, 0x10a58)]⟩

def brahmi : Script :=
  ⟨"Brah", "Brahmi", [], #[(0x11000, 0x1104d), (0x11052, 0x11075), (0x1107f, 0x1107f)]⟩

def chakma : Script :=
  ⟨"Cakm", "Chakma", [], #[(0x11100, 0x11134), (0x11136, 0x11147)]⟩

def lepcha : Script :=
  ⟨"Lepc", "Lepcha", [], #[(0x1c00, 0x1c37), (0x1c3b, 0x1c49), (0x1c4d, 0x1c4f)]⟩

def toto : Script :=
  ⟨"Toto", "Toto", [], #[(0x1e290, 0x1e2ae)]⟩

def wancho : Script :=
  ⟨"Wcho", "Wancho", [], #[(0x1e2c0, 0x1e2f9), (0x1e2ff, 0x1e2ff)]⟩

def gurungKhema : Script :=
  ⟨"Gukh", "Gurung_Khema", [], #[(0x16100, 0x16139)]⟩

def sunuwar : Script :=
  ⟨"Sunu", "Sunuwar", [], #[(0x11bc0, 0x11be1), (0x11bf0, 0x11bf9)]⟩

def kiratRai : Script :=
  ⟨"Krai", "Kirat_Rai", [], #[(0x16d40, 0x16d79)]⟩

def tangsa : Script :=
  ⟨"Tnsa", "Tangsa", [], #[(0x16a70, 0x16abe), (0x16ac0, 0x16ac9)]⟩

def india : List Script :=
  [devanagari, bengali, gurmukhi, gujarati, oriya, tamil, telugu, kannada, malayalam, sinhala,
    thaana, newa, mro, olChiki, limbu, sylotiNagri, kaithi, saurashtra, sharada, takri, siddham,
    mahajani, khojki, khudawadi, multani, tirhuta, modi, nandinagari, grantha, divesAkuru, ahom,
    soraSompeng, warangCiti, meeteiMayek, dogra, gunjalaGondi, masaramGondi, nagMundari, olOnal,
    tuluTigalari, kharoshthi, brahmi, chakma, lepcha, toto, wancho, gurungKhema, sunuwar, kiratRai,
    tangsa]

end Script
end Text
end DocQuery
