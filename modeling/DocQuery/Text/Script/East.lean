import DocQuery.Text.Script.Basic

/-!
# Scripts of the east

The scripts of Asia beyond India.
-/

namespace DocQuery
namespace Text
namespace Script

/-!
# Scripts of Inner Asia

The scripts of Tibet, Mongolia and the lands along the roads to the west.
-/

def tibetan : Script :=
  ⟨"Tibt", "Tibetan", [], #[
    (0xf00, 0xf47), (0xf49, 0xf6c), (0xf71, 0xf97), (0xf99, 0xfbc), (0xfbe, 0xfcc), (0xfce, 0xfd4),
    (0xfd9, 0xfda)]⟩

def mongolian : Script :=
  ⟨"Mong", "Mongolian", [], #[
    (0x1800, 0x1801), (0x1804, 0x1804), (0x1806, 0x1819), (0x1820, 0x1878), (0x1880, 0x18aa),
    (0x11660, 0x1166c)]⟩

def phagsPa : Script :=
  ⟨"Phag", "Phags_Pa", [], #[(0xa840, 0xa877)]⟩

def marchen : Script :=
  ⟨"Marc", "Marchen", [], #[(0x11c70, 0x11c8f), (0x11c92, 0x11ca7), (0x11ca9, 0x11cb6)]⟩

def zanabazarSquare : Script :=
  ⟨"Zanb", "Zanabazar_Square", [], #[(0x11a00, 0x11a47)]⟩

def soyombo : Script :=
  ⟨"Soyo", "Soyombo", [], #[(0x11a50, 0x11aa2)]⟩

def bhaiksuki : Script :=
  ⟨"Bhks", "Bhaiksuki", [], #[
    (0x11c00, 0x11c08), (0x11c0a, 0x11c36), (0x11c38, 0x11c45), (0x11c50, 0x11c6c)]⟩

def sogdian : Script :=
  ⟨"Sogd", "Sogdian", [], #[(0x10f30, 0x10f59)]⟩

def oldSogdian : Script :=
  ⟨"Sogo", "Old_Sogdian", [], #[(0x10f00, 0x10f27)]⟩

def oldUyghur : Script :=
  ⟨"Ougr", "Old_Uyghur", [], #[(0x10f70, 0x10f89)]⟩

def oldTurkic : Script :=
  ⟨"Orkh", "Old_Turkic", [], #[(0x10c00, 0x10c48)]⟩

def innerAsia : List Script :=
  [tibetan, mongolian, phagsPa, marchen, zanabazarSquare, soyombo, bhaiksuki, sogdian, oldSogdian,
    oldUyghur, oldTurkic]

/-!
# Scripts of East Asia

Ideographs, and the syllabaries and alphabets used beside them.
-/

def han : Script :=
  ⟨"Hani", "Han", [], #[
    (0x2e80, 0x2e99), (0x2e9b, 0x2ef3), (0x2f00, 0x2fd5), (0x3005, 0x3005), (0x3007, 0x3007),
    (0x3021, 0x3029), (0x3038, 0x303b), (0x3400, 0x4dbf), (0x4e00, 0x9fff), (0xf900, 0xfa6d),
    (0xfa70, 0xfad9), (0x16fe2, 0x16fe3), (0x16ff0, 0x16ff1), (0x20000, 0x2a6df),
    (0x2a700, 0x2b739), (0x2b740, 0x2b81d), (0x2b820, 0x2cea1), (0x2ceb0, 0x2ebe0),
    (0x2ebf0, 0x2ee5d), (0x2f800, 0x2fa1d), (0x30000, 0x3134a), (0x31350, 0x323af)]⟩

def bopomofo : Script :=
  ⟨"Bopo", "Bopomofo", [], #[(0x2ea, 0x2eb), (0x3105, 0x312f), (0x31a0, 0x31bf)]⟩

def hiragana : Script :=
  ⟨"Hira", "Hiragana", [], #[
    (0x3041, 0x3096), (0x309d, 0x309f), (0x1b001, 0x1b11f), (0x1b132, 0x1b132), (0x1b150, 0x1b152),
    (0x1f200, 0x1f200)]⟩

def katakana : Script :=
  ⟨"Kana", "Katakana", [], #[
    (0x30a1, 0x30fa), (0x30fd, 0x30ff), (0x31f0, 0x31ff), (0x32d0, 0x32fe), (0x3300, 0x3357),
    (0xff66, 0xff6f), (0xff71, 0xff9d), (0x1aff0, 0x1aff3), (0x1aff5, 0x1affb), (0x1affd, 0x1affe),
    (0x1b000, 0x1b000), (0x1b120, 0x1b122), (0x1b155, 0x1b155), (0x1b164, 0x1b167)]⟩

def hangul : Script :=
  ⟨"Hang", "Hangul", [], #[
    (0x1100, 0x11ff), (0x302e, 0x302f), (0x3131, 0x318e), (0x3200, 0x321e), (0x3260, 0x327e),
    (0xa960, 0xa97c), (0xac00, 0xd7a3), (0xd7b0, 0xd7c6), (0xd7cb, 0xd7fb), (0xffa0, 0xffbe),
    (0xffc2, 0xffc7), (0xffca, 0xffcf), (0xffd2, 0xffd7), (0xffda, 0xffdc)]⟩

def yi : Script :=
  ⟨"Yiii", "Yi", [], #[(0xa000, 0xa48c), (0xa490, 0xa4c6)]⟩

def nushu : Script :=
  ⟨"Nshu", "Nushu", [], #[(0x16fe1, 0x16fe1), (0x1b170, 0x1b2fb)]⟩

def lisu : Script :=
  ⟨"Lisu", "Lisu", [], #[(0xa4d0, 0xa4ff), (0x11fb0, 0x11fb0)]⟩

def miao : Script :=
  ⟨"Plrd", "Miao", [], #[(0x16f00, 0x16f4a), (0x16f4f, 0x16f87), (0x16f8f, 0x16f9f)]⟩

def tangut : Script :=
  ⟨"Tang", "Tangut", [], #[
    (0x16fe0, 0x16fe0), (0x17000, 0x187f7), (0x18800, 0x18aff), (0x18d00, 0x18d08)]⟩

def khitanSmallScript : Script :=
  ⟨"Kits", "Khitan_Small_Script", [], #[(0x16fe4, 0x16fe4), (0x18b00, 0x18cd5), (0x18cff, 0x18cff)]⟩

def eastAsia : List Script :=
  [han, bopomofo, hiragana, katakana, hangul, yi, nushu, lisu, miao, tangut, khitanSmallScript]

/-!
# Scripts of Southeast Asia

The scripts of the mainland from Burma to Vietnam, and of the islands.
-/

def thai : Script :=
  ⟨"Thai", "Thai", [], #[(0xe01, 0xe3a), (0xe40, 0xe5b)]⟩

def lao : Script :=
  ⟨"Laoo", "Lao", [], #[
    (0xe81, 0xe82), (0xe84, 0xe84), (0xe86, 0xe8a), (0xe8c, 0xea3), (0xea5, 0xea5), (0xea7, 0xebd),
    (0xec0, 0xec4), (0xec6, 0xec6), (0xec8, 0xece), (0xed0, 0xed9), (0xedc, 0xedf)]⟩

def myanmar : Script :=
  ⟨"Mymr", "Myanmar", [], #[
    (0x1000, 0x109f), (0xa9e0, 0xa9fe), (0xaa60, 0xaa7f), (0x116d0, 0x116e3)]⟩

def khmer : Script :=
  ⟨"Khmr", "Khmer", [], #[(0x1780, 0x17dd), (0x17e0, 0x17e9), (0x17f0, 0x17f9), (0x19e0, 0x19ff)]⟩

def taiLe : Script :=
  ⟨"Tale", "Tai_Le", [], #[(0x1950, 0x196d), (0x1970, 0x1974)]⟩

def newTaiLue : Script :=
  ⟨"Talu", "New_Tai_Lue", [], #[
    (0x1980, 0x19ab), (0x19b0, 0x19c9), (0x19d0, 0x19da), (0x19de, 0x19df)]⟩

def taiTham : Script :=
  ⟨"Lana", "Tai_Tham", [], #[
    (0x1a20, 0x1a5e), (0x1a60, 0x1a7c), (0x1a7f, 0x1a89), (0x1a90, 0x1a99), (0x1aa0, 0x1aad)]⟩

def taiViet : Script :=
  ⟨"Tavt", "Tai_Viet", [], #[(0xaa80, 0xaac2), (0xaadb, 0xaadf)]⟩

def kayahLi : Script :=
  ⟨"Kali", "Kayah_Li", [], #[(0xa900, 0xa92d), (0xa92f, 0xa92f)]⟩

def cham : Script :=
  ⟨"Cham", "Cham", [], #[(0xaa00, 0xaa36), (0xaa40, 0xaa4d), (0xaa50, 0xaa59), (0xaa5c, 0xaa5f)]⟩

def pahawhHmong : Script :=
  ⟨"Hmng", "Pahawh_Hmong", [], #[
    (0x16b00, 0x16b45), (0x16b50, 0x16b59), (0x16b5b, 0x16b61), (0x16b63, 0x16b77),
    (0x16b7d, 0x16b8f)]⟩

def nyiakengPuachueHmong : Script :=
  ⟨"Hmnp", "Nyiakeng_Puachue_Hmong", [], #[
    (0x1e100, 0x1e12c), (0x1e130, 0x1e13d), (0x1e140, 0x1e149), (0x1e14e, 0x1e14f)]⟩

def pauCinHau : Script :=
  ⟨"Pauc", "Pau_Cin_Hau", [], #[(0x11ac0, 0x11af8)]⟩

def hanifiRohingya : Script :=
  ⟨"Rohg", "Hanifi_Rohingya", [], #[(0x10d00, 0x10d27), (0x10d30, 0x10d39)]⟩

def tagalog : Script :=
  ⟨"Tglg", "Tagalog", [], #[(0x1700, 0x1715), (0x171f, 0x171f)]⟩

def hanunoo : Script :=
  ⟨"Hano", "Hanunoo", [], #[(0x1720, 0x1734)]⟩

def buhid : Script :=
  ⟨"Buhd", "Buhid", [], #[(0x1740, 0x1753)]⟩

def tagbanwa : Script :=
  ⟨"Tagb", "Tagbanwa", [], #[(0x1760, 0x176c), (0x176e, 0x1770), (0x1772, 0x1773)]⟩

def buginese : Script :=
  ⟨"Bugi", "Buginese", [], #[(0x1a00, 0x1a1b), (0x1a1e, 0x1a1f)]⟩

def balinese : Script :=
  ⟨"Bali", "Balinese", [], #[(0x1b00, 0x1b4c), (0x1b4e, 0x1b7f)]⟩

def javanese : Script :=
  ⟨"Java", "Javanese", [], #[(0xa980, 0xa9cd), (0xa9d0, 0xa9d9), (0xa9de, 0xa9df)]⟩

def rejang : Script :=
  ⟨"Rjng", "Rejang", [], #[(0xa930, 0xa953), (0xa95f, 0xa95f)]⟩

def batak : Script :=
  ⟨"Batk", "Batak", [], #[(0x1bc0, 0x1bf3), (0x1bfc, 0x1bff)]⟩

def sundanese : Script :=
  ⟨"Sund", "Sundanese", [], #[(0x1b80, 0x1bbf), (0x1cc0, 0x1cc7)]⟩

def makasar : Script :=
  ⟨"Maka", "Makasar", [], #[(0x11ee0, 0x11ef8)]⟩

def kawi : Script :=
  ⟨"Kawi", "Kawi", [], #[(0x11f00, 0x11f10), (0x11f12, 0x11f3a), (0x11f3e, 0x11f5a)]⟩

def southeast : List Script :=
  [thai, lao, myanmar, khmer, taiLe, newTaiLue, taiTham, taiViet, kayahLi, cham, pahawhHmong,
    nyiakengPuachueHmong, pauCinHau, hanifiRohingya, tagalog, hanunoo, buhid, tagbanwa, buginese,
    balinese, javanese, rejang, batak, sundanese, makasar, kawi]

end Script
end Text
end DocQuery
