import FarmSetup.Text.Blank
import FarmSetup.Text.AsciiForm
/-!
The points a name of the literal language may hold, and the text a meta tag's parameters are
read as. Past ASCII, a table of ranges gives each point three classes: a word point of patterns
(a letter, digit or number of any script, the class that decides handler names), a point that
may start a name, and a point that may continue one.
-/

namespace FarmSetup

namespace TagLiteral

/-! ## Points of names -/

/-- The name classes of the points from 0xAA to 0x18A8. -/
def nameClassesLow : Array (Nat × Nat × Nat) := #[
  (0xAA, 0xAA, 7), (0xB2, 0xB3, 1), (0xB5, 0xB5, 7), (0xB7, 0xB7, 4), (0xB9, 0xB9, 1),
  (0xBA, 0xBA, 7), (0xBC, 0xBE, 1), (0xC0, 0xD6, 7), (0xD8, 0xF6, 7), (0xF8, 0x2C1, 7),
  (0x2C6, 0x2D1, 7), (0x2E0, 0x2E4, 7), (0x2EC, 0x2EC, 7), (0x2EE, 0x2EE, 7), (0x300, 0x36F, 4),
  (0x370, 0x374, 7), (0x376, 0x377, 7), (0x37A, 0x37A, 1), (0x37B, 0x37D, 7), (0x37F, 0x37F, 7),
  (0x386, 0x386, 7), (0x387, 0x387, 4), (0x388, 0x38A, 7), (0x38C, 0x38C, 7), (0x38E, 0x3A1, 7),
  (0x3A3, 0x3F5, 7), (0x3F7, 0x481, 7), (0x483, 0x487, 4), (0x48A, 0x52F, 7), (0x531, 0x556, 7),
  (0x559, 0x559, 7), (0x560, 0x588, 7), (0x591, 0x5BD, 4), (0x5BF, 0x5BF, 4), (0x5C1, 0x5C2, 4),
  (0x5C4, 0x5C5, 4), (0x5C7, 0x5C7, 4), (0x5D0, 0x5EA, 7), (0x5EF, 0x5F2, 7), (0x610, 0x61A, 4),
  (0x620, 0x64A, 7), (0x64B, 0x65F, 4), (0x660, 0x669, 5), (0x66E, 0x66F, 7), (0x670, 0x670, 4),
  (0x671, 0x6D3, 7), (0x6D5, 0x6D5, 7), (0x6D6, 0x6DC, 4), (0x6DF, 0x6E4, 4), (0x6E5, 0x6E6, 7),
  (0x6E7, 0x6E8, 4), (0x6EA, 0x6ED, 4), (0x6EE, 0x6EF, 7), (0x6F0, 0x6F9, 5), (0x6FA, 0x6FC, 7),
  (0x6FF, 0x6FF, 7), (0x710, 0x710, 7), (0x711, 0x711, 4), (0x712, 0x72F, 7), (0x730, 0x74A, 4),
  (0x74D, 0x7A5, 7), (0x7A6, 0x7B0, 4), (0x7B1, 0x7B1, 7), (0x7C0, 0x7C9, 5), (0x7CA, 0x7EA, 7),
  (0x7EB, 0x7F3, 4), (0x7F4, 0x7F5, 7), (0x7FA, 0x7FA, 7), (0x7FD, 0x7FD, 4), (0x800, 0x815, 7),
  (0x816, 0x819, 4), (0x81A, 0x81A, 7), (0x81B, 0x823, 4), (0x824, 0x824, 7), (0x825, 0x827, 4),
  (0x828, 0x828, 7), (0x829, 0x82D, 4), (0x840, 0x858, 7), (0x859, 0x85B, 4), (0x860, 0x86A, 7),
  (0x870, 0x887, 7), (0x889, 0x88E, 7), (0x898, 0x89F, 4), (0x8A0, 0x8C9, 7), (0x8CA, 0x8E1, 4),
  (0x8E3, 0x903, 4), (0x904, 0x939, 7), (0x93A, 0x93C, 4), (0x93D, 0x93D, 7), (0x93E, 0x94F, 4),
  (0x950, 0x950, 7), (0x951, 0x957, 4), (0x958, 0x961, 7), (0x962, 0x963, 4), (0x966, 0x96F, 5),
  (0x971, 0x980, 7), (0x981, 0x983, 4), (0x985, 0x98C, 7), (0x98F, 0x990, 7), (0x993, 0x9A8, 7),
  (0x9AA, 0x9B0, 7), (0x9B2, 0x9B2, 7), (0x9B6, 0x9B9, 7), (0x9BC, 0x9BC, 4), (0x9BD, 0x9BD, 7),
  (0x9BE, 0x9C4, 4), (0x9C7, 0x9C8, 4), (0x9CB, 0x9CD, 4), (0x9CE, 0x9CE, 7), (0x9D7, 0x9D7, 4),
  (0x9DC, 0x9DD, 7), (0x9DF, 0x9E1, 7), (0x9E2, 0x9E3, 4), (0x9E6, 0x9EF, 5), (0x9F0, 0x9F1, 7),
  (0x9F4, 0x9F9, 1), (0x9FC, 0x9FC, 7), (0x9FE, 0x9FE, 4), (0xA01, 0xA03, 4), (0xA05, 0xA0A, 7),
  (0xA0F, 0xA10, 7), (0xA13, 0xA28, 7), (0xA2A, 0xA30, 7), (0xA32, 0xA33, 7), (0xA35, 0xA36, 7),
  (0xA38, 0xA39, 7), (0xA3C, 0xA3C, 4), (0xA3E, 0xA42, 4), (0xA47, 0xA48, 4), (0xA4B, 0xA4D, 4),
  (0xA51, 0xA51, 4), (0xA59, 0xA5C, 7), (0xA5E, 0xA5E, 7), (0xA66, 0xA6F, 5), (0xA70, 0xA71, 4),
  (0xA72, 0xA74, 7), (0xA75, 0xA75, 4), (0xA81, 0xA83, 4), (0xA85, 0xA8D, 7), (0xA8F, 0xA91, 7),
  (0xA93, 0xAA8, 7), (0xAAA, 0xAB0, 7), (0xAB2, 0xAB3, 7), (0xAB5, 0xAB9, 7), (0xABC, 0xABC, 4),
  (0xABD, 0xABD, 7), (0xABE, 0xAC5, 4), (0xAC7, 0xAC9, 4), (0xACB, 0xACD, 4), (0xAD0, 0xAD0, 7),
  (0xAE0, 0xAE1, 7), (0xAE2, 0xAE3, 4), (0xAE6, 0xAEF, 5), (0xAF9, 0xAF9, 7), (0xAFA, 0xAFF, 4),
  (0xB01, 0xB03, 4), (0xB05, 0xB0C, 7), (0xB0F, 0xB10, 7), (0xB13, 0xB28, 7), (0xB2A, 0xB30, 7),
  (0xB32, 0xB33, 7), (0xB35, 0xB39, 7), (0xB3C, 0xB3C, 4), (0xB3D, 0xB3D, 7), (0xB3E, 0xB44, 4),
  (0xB47, 0xB48, 4), (0xB4B, 0xB4D, 4), (0xB55, 0xB57, 4), (0xB5C, 0xB5D, 7), (0xB5F, 0xB61, 7),
  (0xB62, 0xB63, 4), (0xB66, 0xB6F, 5), (0xB71, 0xB71, 7), (0xB72, 0xB77, 1), (0xB82, 0xB82, 4),
  (0xB83, 0xB83, 7), (0xB85, 0xB8A, 7), (0xB8E, 0xB90, 7), (0xB92, 0xB95, 7), (0xB99, 0xB9A, 7),
  (0xB9C, 0xB9C, 7), (0xB9E, 0xB9F, 7), (0xBA3, 0xBA4, 7), (0xBA8, 0xBAA, 7), (0xBAE, 0xBB9, 7),
  (0xBBE, 0xBC2, 4), (0xBC6, 0xBC8, 4), (0xBCA, 0xBCD, 4), (0xBD0, 0xBD0, 7), (0xBD7, 0xBD7, 4),
  (0xBE6, 0xBEF, 5), (0xBF0, 0xBF2, 1), (0xC00, 0xC04, 4), (0xC05, 0xC0C, 7), (0xC0E, 0xC10, 7),
  (0xC12, 0xC28, 7), (0xC2A, 0xC39, 7), (0xC3C, 0xC3C, 4), (0xC3D, 0xC3D, 7), (0xC3E, 0xC44, 4),
  (0xC46, 0xC48, 4), (0xC4A, 0xC4D, 4), (0xC55, 0xC56, 4), (0xC58, 0xC5A, 7), (0xC5D, 0xC5D, 7),
  (0xC60, 0xC61, 7), (0xC62, 0xC63, 4), (0xC66, 0xC6F, 5), (0xC78, 0xC7E, 1), (0xC80, 0xC80, 7),
  (0xC81, 0xC83, 4), (0xC85, 0xC8C, 7), (0xC8E, 0xC90, 7), (0xC92, 0xCA8, 7), (0xCAA, 0xCB3, 7),
  (0xCB5, 0xCB9, 7), (0xCBC, 0xCBC, 4), (0xCBD, 0xCBD, 7), (0xCBE, 0xCC4, 4), (0xCC6, 0xCC8, 4),
  (0xCCA, 0xCCD, 4), (0xCD5, 0xCD6, 4), (0xCDD, 0xCDE, 7), (0xCE0, 0xCE1, 7), (0xCE2, 0xCE3, 4),
  (0xCE6, 0xCEF, 5), (0xCF1, 0xCF2, 7), (0xD00, 0xD03, 4), (0xD04, 0xD0C, 7), (0xD0E, 0xD10, 7),
  (0xD12, 0xD3A, 7), (0xD3B, 0xD3C, 4), (0xD3D, 0xD3D, 7), (0xD3E, 0xD44, 4), (0xD46, 0xD48, 4),
  (0xD4A, 0xD4D, 4), (0xD4E, 0xD4E, 7), (0xD54, 0xD56, 7), (0xD57, 0xD57, 4), (0xD58, 0xD5E, 1),
  (0xD5F, 0xD61, 7), (0xD62, 0xD63, 4), (0xD66, 0xD6F, 5), (0xD70, 0xD78, 1), (0xD7A, 0xD7F, 7),
  (0xD81, 0xD83, 4), (0xD85, 0xD96, 7), (0xD9A, 0xDB1, 7), (0xDB3, 0xDBB, 7), (0xDBD, 0xDBD, 7),
  (0xDC0, 0xDC6, 7), (0xDCA, 0xDCA, 4), (0xDCF, 0xDD4, 4), (0xDD6, 0xDD6, 4), (0xDD8, 0xDDF, 4),
  (0xDE6, 0xDEF, 5), (0xDF2, 0xDF3, 4), (0xE01, 0xE30, 7), (0xE31, 0xE31, 4), (0xE32, 0xE32, 7),
  (0xE33, 0xE33, 5), (0xE34, 0xE3A, 4), (0xE40, 0xE46, 7), (0xE47, 0xE4E, 4), (0xE50, 0xE59, 5),
  (0xE81, 0xE82, 7), (0xE84, 0xE84, 7), (0xE86, 0xE8A, 7), (0xE8C, 0xEA3, 7), (0xEA5, 0xEA5, 7),
  (0xEA7, 0xEB0, 7), (0xEB1, 0xEB1, 4), (0xEB2, 0xEB2, 7), (0xEB3, 0xEB3, 5), (0xEB4, 0xEBC, 4),
  (0xEBD, 0xEBD, 7), (0xEC0, 0xEC4, 7), (0xEC6, 0xEC6, 7), (0xEC8, 0xECD, 4), (0xED0, 0xED9, 5),
  (0xEDC, 0xEDF, 7), (0xF00, 0xF00, 7), (0xF18, 0xF19, 4), (0xF20, 0xF29, 5), (0xF2A, 0xF33, 1),
  (0xF35, 0xF35, 4), (0xF37, 0xF37, 4), (0xF39, 0xF39, 4), (0xF3E, 0xF3F, 4), (0xF40, 0xF47, 7),
  (0xF49, 0xF6C, 7), (0xF71, 0xF84, 4), (0xF86, 0xF87, 4), (0xF88, 0xF8C, 7), (0xF8D, 0xF97, 4),
  (0xF99, 0xFBC, 4), (0xFC6, 0xFC6, 4), (0x1000, 0x102A, 7), (0x102B, 0x103E, 4), (0x103F, 0x103F, 7),
  (0x1040, 0x1049, 5), (0x1050, 0x1055, 7), (0x1056, 0x1059, 4), (0x105A, 0x105D, 7), (0x105E, 0x1060, 4),
  (0x1061, 0x1061, 7), (0x1062, 0x1064, 4), (0x1065, 0x1066, 7), (0x1067, 0x106D, 4), (0x106E, 0x1070, 7),
  (0x1071, 0x1074, 4), (0x1075, 0x1081, 7), (0x1082, 0x108D, 4), (0x108E, 0x108E, 7), (0x108F, 0x108F, 4),
  (0x1090, 0x1099, 5), (0x109A, 0x109D, 4), (0x10A0, 0x10C5, 7), (0x10C7, 0x10C7, 7), (0x10CD, 0x10CD, 7),
  (0x10D0, 0x10FA, 7), (0x10FC, 0x1248, 7), (0x124A, 0x124D, 7), (0x1250, 0x1256, 7), (0x1258, 0x1258, 7),
  (0x125A, 0x125D, 7), (0x1260, 0x1288, 7), (0x128A, 0x128D, 7), (0x1290, 0x12B0, 7), (0x12B2, 0x12B5, 7),
  (0x12B8, 0x12BE, 7), (0x12C0, 0x12C0, 7), (0x12C2, 0x12C5, 7), (0x12C8, 0x12D6, 7), (0x12D8, 0x1310, 7),
  (0x1312, 0x1315, 7), (0x1318, 0x135A, 7), (0x135D, 0x135F, 4), (0x1369, 0x1371, 5), (0x1372, 0x137C, 1),
  (0x1380, 0x138F, 7), (0x13A0, 0x13F5, 7), (0x13F8, 0x13FD, 7), (0x1401, 0x166C, 7), (0x166F, 0x167F, 7),
  (0x1681, 0x169A, 7), (0x16A0, 0x16EA, 7), (0x16EE, 0x16F8, 7), (0x1700, 0x1711, 7), (0x1712, 0x1715, 4),
  (0x171F, 0x1731, 7), (0x1732, 0x1734, 4), (0x1740, 0x1751, 7), (0x1752, 0x1753, 4), (0x1760, 0x176C, 7),
  (0x176E, 0x1770, 7), (0x1772, 0x1773, 4), (0x1780, 0x17B3, 7), (0x17B4, 0x17D3, 4), (0x17D7, 0x17D7, 7),
  (0x17DC, 0x17DC, 7), (0x17DD, 0x17DD, 4), (0x17E0, 0x17E9, 5), (0x17F0, 0x17F9, 1), (0x180B, 0x180D, 4),
  (0x180F, 0x180F, 4), (0x1810, 0x1819, 5), (0x1820, 0x1878, 7), (0x1880, 0x1884, 7), (0x1885, 0x1886, 6),
  (0x1887, 0x18A8, 7)]

/-- The name classes of the points from 0x18A9 to 0x10A3F. -/
def nameClassesMiddle : Array (Nat × Nat × Nat) := #[
  (0x18A9, 0x18A9, 4), (0x18AA, 0x18AA, 7), (0x18B0, 0x18F5, 7), (0x1900, 0x191E, 7), (0x1920, 0x192B, 4),
  (0x1930, 0x193B, 4), (0x1946, 0x194F, 5), (0x1950, 0x196D, 7), (0x1970, 0x1974, 7), (0x1980, 0x19AB, 7),
  (0x19B0, 0x19C9, 7), (0x19D0, 0x19DA, 5), (0x1A00, 0x1A16, 7), (0x1A17, 0x1A1B, 4), (0x1A20, 0x1A54, 7),
  (0x1A55, 0x1A5E, 4), (0x1A60, 0x1A7C, 4), (0x1A7F, 0x1A7F, 4), (0x1A80, 0x1A89, 5), (0x1A90, 0x1A99, 5),
  (0x1AA7, 0x1AA7, 7), (0x1AB0, 0x1ABD, 4), (0x1ABF, 0x1ACE, 4), (0x1B00, 0x1B04, 4), (0x1B05, 0x1B33, 7),
  (0x1B34, 0x1B44, 4), (0x1B45, 0x1B4C, 7), (0x1B50, 0x1B59, 5), (0x1B6B, 0x1B73, 4), (0x1B80, 0x1B82, 4),
  (0x1B83, 0x1BA0, 7), (0x1BA1, 0x1BAD, 4), (0x1BAE, 0x1BAF, 7), (0x1BB0, 0x1BB9, 5), (0x1BBA, 0x1BE5, 7),
  (0x1BE6, 0x1BF3, 4), (0x1C00, 0x1C23, 7), (0x1C24, 0x1C37, 4), (0x1C40, 0x1C49, 5), (0x1C4D, 0x1C4F, 7),
  (0x1C50, 0x1C59, 5), (0x1C5A, 0x1C7D, 7), (0x1C80, 0x1C88, 7), (0x1C90, 0x1CBA, 7), (0x1CBD, 0x1CBF, 7),
  (0x1CD0, 0x1CD2, 4), (0x1CD4, 0x1CE8, 4), (0x1CE9, 0x1CEC, 7), (0x1CED, 0x1CED, 4), (0x1CEE, 0x1CF3, 7),
  (0x1CF4, 0x1CF4, 4), (0x1CF5, 0x1CF6, 7), (0x1CF7, 0x1CF9, 4), (0x1CFA, 0x1CFA, 7), (0x1D00, 0x1DBF, 7),
  (0x1DC0, 0x1DFF, 4), (0x1E00, 0x1F15, 7), (0x1F18, 0x1F1D, 7), (0x1F20, 0x1F45, 7), (0x1F48, 0x1F4D, 7),
  (0x1F50, 0x1F57, 7), (0x1F59, 0x1F59, 7), (0x1F5B, 0x1F5B, 7), (0x1F5D, 0x1F5D, 7), (0x1F5F, 0x1F7D, 7),
  (0x1F80, 0x1FB4, 7), (0x1FB6, 0x1FBC, 7), (0x1FBE, 0x1FBE, 7), (0x1FC2, 0x1FC4, 7), (0x1FC6, 0x1FCC, 7),
  (0x1FD0, 0x1FD3, 7), (0x1FD6, 0x1FDB, 7), (0x1FE0, 0x1FEC, 7), (0x1FF2, 0x1FF4, 7), (0x1FF6, 0x1FFC, 7),
  (0x203F, 0x2040, 4), (0x2054, 0x2054, 4), (0x2070, 0x2070, 1), (0x2071, 0x2071, 7), (0x2074, 0x2079, 1),
  (0x207F, 0x207F, 7), (0x2080, 0x2089, 1), (0x2090, 0x209C, 7), (0x20D0, 0x20DC, 4), (0x20E1, 0x20E1, 4),
  (0x20E5, 0x20F0, 4), (0x2102, 0x2102, 7), (0x2107, 0x2107, 7), (0x210A, 0x2113, 7), (0x2115, 0x2115, 7),
  (0x2118, 0x2118, 6), (0x2119, 0x211D, 7), (0x2124, 0x2124, 7), (0x2126, 0x2126, 7), (0x2128, 0x2128, 7),
  (0x212A, 0x212D, 7), (0x212E, 0x212E, 6), (0x212F, 0x2139, 7), (0x213C, 0x213F, 7), (0x2145, 0x2149, 7),
  (0x214E, 0x214E, 7), (0x2150, 0x215F, 1), (0x2160, 0x2188, 7), (0x2189, 0x2189, 1), (0x2460, 0x249B, 1),
  (0x24EA, 0x24FF, 1), (0x2776, 0x2793, 1), (0x2C00, 0x2CE4, 7), (0x2CEB, 0x2CEE, 7), (0x2CEF, 0x2CF1, 4),
  (0x2CF2, 0x2CF3, 7), (0x2CFD, 0x2CFD, 1), (0x2D00, 0x2D25, 7), (0x2D27, 0x2D27, 7), (0x2D2D, 0x2D2D, 7),
  (0x2D30, 0x2D67, 7), (0x2D6F, 0x2D6F, 7), (0x2D7F, 0x2D7F, 4), (0x2D80, 0x2D96, 7), (0x2DA0, 0x2DA6, 7),
  (0x2DA8, 0x2DAE, 7), (0x2DB0, 0x2DB6, 7), (0x2DB8, 0x2DBE, 7), (0x2DC0, 0x2DC6, 7), (0x2DC8, 0x2DCE, 7),
  (0x2DD0, 0x2DD6, 7), (0x2DD8, 0x2DDE, 7), (0x2DE0, 0x2DFF, 4), (0x2E2F, 0x2E2F, 1), (0x3005, 0x3007, 7),
  (0x3021, 0x3029, 7), (0x302A, 0x302F, 4), (0x3031, 0x3035, 7), (0x3038, 0x303C, 7), (0x3041, 0x3096, 7),
  (0x3099, 0x309A, 4), (0x309D, 0x309F, 7), (0x30A1, 0x30FA, 7), (0x30FC, 0x30FF, 7), (0x3105, 0x312F, 7),
  (0x3131, 0x318E, 7), (0x3192, 0x3195, 1), (0x31A0, 0x31BF, 7), (0x31F0, 0x31FF, 7), (0x3220, 0x3229, 1),
  (0x3248, 0x324F, 1), (0x3251, 0x325F, 1), (0x3280, 0x3289, 1), (0x32B1, 0x32BF, 1), (0x3400, 0x4DBF, 7),
  (0x4E00, 0xA48C, 7), (0xA4D0, 0xA4FD, 7), (0xA500, 0xA60C, 7), (0xA610, 0xA61F, 7), (0xA620, 0xA629, 5),
  (0xA62A, 0xA62B, 7), (0xA640, 0xA66E, 7), (0xA66F, 0xA66F, 4), (0xA674, 0xA67D, 4), (0xA67F, 0xA69D, 7),
  (0xA69E, 0xA69F, 4), (0xA6A0, 0xA6EF, 7), (0xA6F0, 0xA6F1, 4), (0xA717, 0xA71F, 7), (0xA722, 0xA788, 7),
  (0xA78B, 0xA7CA, 7), (0xA7D0, 0xA7D1, 7), (0xA7D3, 0xA7D3, 7), (0xA7D5, 0xA7D9, 7), (0xA7F2, 0xA801, 7),
  (0xA802, 0xA802, 4), (0xA803, 0xA805, 7), (0xA806, 0xA806, 4), (0xA807, 0xA80A, 7), (0xA80B, 0xA80B, 4),
  (0xA80C, 0xA822, 7), (0xA823, 0xA827, 4), (0xA82C, 0xA82C, 4), (0xA830, 0xA835, 1), (0xA840, 0xA873, 7),
  (0xA880, 0xA881, 4), (0xA882, 0xA8B3, 7), (0xA8B4, 0xA8C5, 4), (0xA8D0, 0xA8D9, 5), (0xA8E0, 0xA8F1, 4),
  (0xA8F2, 0xA8F7, 7), (0xA8FB, 0xA8FB, 7), (0xA8FD, 0xA8FE, 7), (0xA8FF, 0xA8FF, 4), (0xA900, 0xA909, 5),
  (0xA90A, 0xA925, 7), (0xA926, 0xA92D, 4), (0xA930, 0xA946, 7), (0xA947, 0xA953, 4), (0xA960, 0xA97C, 7),
  (0xA980, 0xA983, 4), (0xA984, 0xA9B2, 7), (0xA9B3, 0xA9C0, 4), (0xA9CF, 0xA9CF, 7), (0xA9D0, 0xA9D9, 5),
  (0xA9E0, 0xA9E4, 7), (0xA9E5, 0xA9E5, 4), (0xA9E6, 0xA9EF, 7), (0xA9F0, 0xA9F9, 5), (0xA9FA, 0xA9FE, 7),
  (0xAA00, 0xAA28, 7), (0xAA29, 0xAA36, 4), (0xAA40, 0xAA42, 7), (0xAA43, 0xAA43, 4), (0xAA44, 0xAA4B, 7),
  (0xAA4C, 0xAA4D, 4), (0xAA50, 0xAA59, 5), (0xAA60, 0xAA76, 7), (0xAA7A, 0xAA7A, 7), (0xAA7B, 0xAA7D, 4),
  (0xAA7E, 0xAAAF, 7), (0xAAB0, 0xAAB0, 4), (0xAAB1, 0xAAB1, 7), (0xAAB2, 0xAAB4, 4), (0xAAB5, 0xAAB6, 7),
  (0xAAB7, 0xAAB8, 4), (0xAAB9, 0xAABD, 7), (0xAABE, 0xAABF, 4), (0xAAC0, 0xAAC0, 7), (0xAAC1, 0xAAC1, 4),
  (0xAAC2, 0xAAC2, 7), (0xAADB, 0xAADD, 7), (0xAAE0, 0xAAEA, 7), (0xAAEB, 0xAAEF, 4), (0xAAF2, 0xAAF4, 7),
  (0xAAF5, 0xAAF6, 4), (0xAB01, 0xAB06, 7), (0xAB09, 0xAB0E, 7), (0xAB11, 0xAB16, 7), (0xAB20, 0xAB26, 7),
  (0xAB28, 0xAB2E, 7), (0xAB30, 0xAB5A, 7), (0xAB5C, 0xAB69, 7), (0xAB70, 0xABE2, 7), (0xABE3, 0xABEA, 4),
  (0xABEC, 0xABED, 4), (0xABF0, 0xABF9, 5), (0xAC00, 0xD7A3, 7), (0xD7B0, 0xD7C6, 7), (0xD7CB, 0xD7FB, 7),
  (0xF900, 0xFA6D, 7), (0xFA70, 0xFAD9, 7), (0xFB00, 0xFB06, 7), (0xFB13, 0xFB17, 7), (0xFB1D, 0xFB1D, 7),
  (0xFB1E, 0xFB1E, 4), (0xFB1F, 0xFB28, 7), (0xFB2A, 0xFB36, 7), (0xFB38, 0xFB3C, 7), (0xFB3E, 0xFB3E, 7),
  (0xFB40, 0xFB41, 7), (0xFB43, 0xFB44, 7), (0xFB46, 0xFBB1, 7), (0xFBD3, 0xFC5D, 7), (0xFC5E, 0xFC63, 1),
  (0xFC64, 0xFD3D, 7), (0xFD50, 0xFD8F, 7), (0xFD92, 0xFDC7, 7), (0xFDF0, 0xFDF9, 7), (0xFDFA, 0xFDFB, 1),
  (0xFE00, 0xFE0F, 4), (0xFE20, 0xFE2F, 4), (0xFE33, 0xFE34, 4), (0xFE4D, 0xFE4F, 4), (0xFE70, 0xFE70, 1),
  (0xFE71, 0xFE71, 7), (0xFE72, 0xFE72, 1), (0xFE73, 0xFE73, 7), (0xFE74, 0xFE74, 1), (0xFE76, 0xFE76, 1),
  (0xFE77, 0xFE77, 7), (0xFE78, 0xFE78, 1), (0xFE79, 0xFE79, 7), (0xFE7A, 0xFE7A, 1), (0xFE7B, 0xFE7B, 7),
  (0xFE7C, 0xFE7C, 1), (0xFE7D, 0xFE7D, 7), (0xFE7E, 0xFE7E, 1), (0xFE7F, 0xFEFC, 7), (0xFF10, 0xFF19, 5),
  (0xFF21, 0xFF3A, 7), (0xFF3F, 0xFF3F, 4), (0xFF41, 0xFF5A, 7), (0xFF66, 0xFF9D, 7), (0xFF9E, 0xFF9F, 5),
  (0xFFA0, 0xFFBE, 7), (0xFFC2, 0xFFC7, 7), (0xFFCA, 0xFFCF, 7), (0xFFD2, 0xFFD7, 7), (0xFFDA, 0xFFDC, 7),
  (0x10000, 0x1000B, 7), (0x1000D, 0x10026, 7), (0x10028, 0x1003A, 7), (0x1003C, 0x1003D, 7), (0x1003F, 0x1004D, 7),
  (0x10050, 0x1005D, 7), (0x10080, 0x100FA, 7), (0x10107, 0x10133, 1), (0x10140, 0x10174, 7), (0x10175, 0x10178, 1),
  (0x1018A, 0x1018B, 1), (0x101FD, 0x101FD, 4), (0x10280, 0x1029C, 7), (0x102A0, 0x102D0, 7), (0x102E0, 0x102E0, 4),
  (0x102E1, 0x102FB, 1), (0x10300, 0x1031F, 7), (0x10320, 0x10323, 1), (0x1032D, 0x1034A, 7), (0x10350, 0x10375, 7),
  (0x10376, 0x1037A, 4), (0x10380, 0x1039D, 7), (0x103A0, 0x103C3, 7), (0x103C8, 0x103CF, 7), (0x103D1, 0x103D5, 7),
  (0x10400, 0x1049D, 7), (0x104A0, 0x104A9, 5), (0x104B0, 0x104D3, 7), (0x104D8, 0x104FB, 7), (0x10500, 0x10527, 7),
  (0x10530, 0x10563, 7), (0x10570, 0x1057A, 7), (0x1057C, 0x1058A, 7), (0x1058C, 0x10592, 7), (0x10594, 0x10595, 7),
  (0x10597, 0x105A1, 7), (0x105A3, 0x105B1, 7), (0x105B3, 0x105B9, 7), (0x105BB, 0x105BC, 7), (0x10600, 0x10736, 7),
  (0x10740, 0x10755, 7), (0x10760, 0x10767, 7), (0x10780, 0x10785, 7), (0x10787, 0x107B0, 7), (0x107B2, 0x107BA, 7),
  (0x10800, 0x10805, 7), (0x10808, 0x10808, 7), (0x1080A, 0x10835, 7), (0x10837, 0x10838, 7), (0x1083C, 0x1083C, 7),
  (0x1083F, 0x10855, 7), (0x10858, 0x1085F, 1), (0x10860, 0x10876, 7), (0x10879, 0x1087F, 1), (0x10880, 0x1089E, 7),
  (0x108A7, 0x108AF, 1), (0x108E0, 0x108F2, 7), (0x108F4, 0x108F5, 7), (0x108FB, 0x108FF, 1), (0x10900, 0x10915, 7),
  (0x10916, 0x1091B, 1), (0x10920, 0x10939, 7), (0x10980, 0x109B7, 7), (0x109BC, 0x109BD, 1), (0x109BE, 0x109BF, 7),
  (0x109C0, 0x109CF, 1), (0x109D2, 0x109FF, 1), (0x10A00, 0x10A00, 7), (0x10A01, 0x10A03, 4), (0x10A05, 0x10A06, 4),
  (0x10A0C, 0x10A0F, 4), (0x10A10, 0x10A13, 7), (0x10A15, 0x10A17, 7), (0x10A19, 0x10A35, 7), (0x10A38, 0x10A3A, 4),
  (0x10A3F, 0x10A3F, 4)]

/-- The name classes of the points from 0x10A40 to 0xE01EF. -/
def nameClassesHigh : Array (Nat × Nat × Nat) := #[
  (0x10A40, 0x10A48, 1), (0x10A60, 0x10A7C, 7), (0x10A7D, 0x10A7E, 1), (0x10A80, 0x10A9C, 7), (0x10A9D, 0x10A9F, 1),
  (0x10AC0, 0x10AC7, 7), (0x10AC9, 0x10AE4, 7), (0x10AE5, 0x10AE6, 4), (0x10AEB, 0x10AEF, 1), (0x10B00, 0x10B35, 7),
  (0x10B40, 0x10B55, 7), (0x10B58, 0x10B5F, 1), (0x10B60, 0x10B72, 7), (0x10B78, 0x10B7F, 1), (0x10B80, 0x10B91, 7),
  (0x10BA9, 0x10BAF, 1), (0x10C00, 0x10C48, 7), (0x10C80, 0x10CB2, 7), (0x10CC0, 0x10CF2, 7), (0x10CFA, 0x10CFF, 1),
  (0x10D00, 0x10D23, 7), (0x10D24, 0x10D27, 4), (0x10D30, 0x10D39, 5), (0x10E60, 0x10E7E, 1), (0x10E80, 0x10EA9, 7),
  (0x10EAB, 0x10EAC, 4), (0x10EB0, 0x10EB1, 7), (0x10F00, 0x10F1C, 7), (0x10F1D, 0x10F26, 1), (0x10F27, 0x10F27, 7),
  (0x10F30, 0x10F45, 7), (0x10F46, 0x10F50, 4), (0x10F51, 0x10F54, 1), (0x10F70, 0x10F81, 7), (0x10F82, 0x10F85, 4),
  (0x10FB0, 0x10FC4, 7), (0x10FC5, 0x10FCB, 1), (0x10FE0, 0x10FF6, 7), (0x11000, 0x11002, 4), (0x11003, 0x11037, 7),
  (0x11038, 0x11046, 4), (0x11052, 0x11065, 1), (0x11066, 0x1106F, 5), (0x11070, 0x11070, 4), (0x11071, 0x11072, 7),
  (0x11073, 0x11074, 4), (0x11075, 0x11075, 7), (0x1107F, 0x11082, 4), (0x11083, 0x110AF, 7), (0x110B0, 0x110BA, 4),
  (0x110C2, 0x110C2, 4), (0x110D0, 0x110E8, 7), (0x110F0, 0x110F9, 5), (0x11100, 0x11102, 4), (0x11103, 0x11126, 7),
  (0x11127, 0x11134, 4), (0x11136, 0x1113F, 5), (0x11144, 0x11144, 7), (0x11145, 0x11146, 4), (0x11147, 0x11147, 7),
  (0x11150, 0x11172, 7), (0x11173, 0x11173, 4), (0x11176, 0x11176, 7), (0x11180, 0x11182, 4), (0x11183, 0x111B2, 7),
  (0x111B3, 0x111C0, 4), (0x111C1, 0x111C4, 7), (0x111C9, 0x111CC, 4), (0x111CE, 0x111CF, 4), (0x111D0, 0x111D9, 5),
  (0x111DA, 0x111DA, 7), (0x111DC, 0x111DC, 7), (0x111E1, 0x111F4, 1), (0x11200, 0x11211, 7), (0x11213, 0x1122B, 7),
  (0x1122C, 0x11237, 4), (0x1123E, 0x1123E, 4), (0x11280, 0x11286, 7), (0x11288, 0x11288, 7), (0x1128A, 0x1128D, 7),
  (0x1128F, 0x1129D, 7), (0x1129F, 0x112A8, 7), (0x112B0, 0x112DE, 7), (0x112DF, 0x112EA, 4), (0x112F0, 0x112F9, 5),
  (0x11300, 0x11303, 4), (0x11305, 0x1130C, 7), (0x1130F, 0x11310, 7), (0x11313, 0x11328, 7), (0x1132A, 0x11330, 7),
  (0x11332, 0x11333, 7), (0x11335, 0x11339, 7), (0x1133B, 0x1133C, 4), (0x1133D, 0x1133D, 7), (0x1133E, 0x11344, 4),
  (0x11347, 0x11348, 4), (0x1134B, 0x1134D, 4), (0x11350, 0x11350, 7), (0x11357, 0x11357, 4), (0x1135D, 0x11361, 7),
  (0x11362, 0x11363, 4), (0x11366, 0x1136C, 4), (0x11370, 0x11374, 4), (0x11400, 0x11434, 7), (0x11435, 0x11446, 4),
  (0x11447, 0x1144A, 7), (0x11450, 0x11459, 5), (0x1145E, 0x1145E, 4), (0x1145F, 0x11461, 7), (0x11480, 0x114AF, 7),
  (0x114B0, 0x114C3, 4), (0x114C4, 0x114C5, 7), (0x114C7, 0x114C7, 7), (0x114D0, 0x114D9, 5), (0x11580, 0x115AE, 7),
  (0x115AF, 0x115B5, 4), (0x115B8, 0x115C0, 4), (0x115D8, 0x115DB, 7), (0x115DC, 0x115DD, 4), (0x11600, 0x1162F, 7),
  (0x11630, 0x11640, 4), (0x11644, 0x11644, 7), (0x11650, 0x11659, 5), (0x11680, 0x116AA, 7), (0x116AB, 0x116B7, 4),
  (0x116B8, 0x116B8, 7), (0x116C0, 0x116C9, 5), (0x11700, 0x1171A, 7), (0x1171D, 0x1172B, 4), (0x11730, 0x11739, 5),
  (0x1173A, 0x1173B, 1), (0x11740, 0x11746, 7), (0x11800, 0x1182B, 7), (0x1182C, 0x1183A, 4), (0x118A0, 0x118DF, 7),
  (0x118E0, 0x118E9, 5), (0x118EA, 0x118F2, 1), (0x118FF, 0x11906, 7), (0x11909, 0x11909, 7), (0x1190C, 0x11913, 7),
  (0x11915, 0x11916, 7), (0x11918, 0x1192F, 7), (0x11930, 0x11935, 4), (0x11937, 0x11938, 4), (0x1193B, 0x1193E, 4),
  (0x1193F, 0x1193F, 7), (0x11940, 0x11940, 4), (0x11941, 0x11941, 7), (0x11942, 0x11943, 4), (0x11950, 0x11959, 5),
  (0x119A0, 0x119A7, 7), (0x119AA, 0x119D0, 7), (0x119D1, 0x119D7, 4), (0x119DA, 0x119E0, 4), (0x119E1, 0x119E1, 7),
  (0x119E3, 0x119E3, 7), (0x119E4, 0x119E4, 4), (0x11A00, 0x11A00, 7), (0x11A01, 0x11A0A, 4), (0x11A0B, 0x11A32, 7),
  (0x11A33, 0x11A39, 4), (0x11A3A, 0x11A3A, 7), (0x11A3B, 0x11A3E, 4), (0x11A47, 0x11A47, 4), (0x11A50, 0x11A50, 7),
  (0x11A51, 0x11A5B, 4), (0x11A5C, 0x11A89, 7), (0x11A8A, 0x11A99, 4), (0x11A9D, 0x11A9D, 7), (0x11AB0, 0x11AF8, 7),
  (0x11C00, 0x11C08, 7), (0x11C0A, 0x11C2E, 7), (0x11C2F, 0x11C36, 4), (0x11C38, 0x11C3F, 4), (0x11C40, 0x11C40, 7),
  (0x11C50, 0x11C59, 5), (0x11C5A, 0x11C6C, 1), (0x11C72, 0x11C8F, 7), (0x11C92, 0x11CA7, 4), (0x11CA9, 0x11CB6, 4),
  (0x11D00, 0x11D06, 7), (0x11D08, 0x11D09, 7), (0x11D0B, 0x11D30, 7), (0x11D31, 0x11D36, 4), (0x11D3A, 0x11D3A, 4),
  (0x11D3C, 0x11D3D, 4), (0x11D3F, 0x11D45, 4), (0x11D46, 0x11D46, 7), (0x11D47, 0x11D47, 4), (0x11D50, 0x11D59, 5),
  (0x11D60, 0x11D65, 7), (0x11D67, 0x11D68, 7), (0x11D6A, 0x11D89, 7), (0x11D8A, 0x11D8E, 4), (0x11D90, 0x11D91, 4),
  (0x11D93, 0x11D97, 4), (0x11D98, 0x11D98, 7), (0x11DA0, 0x11DA9, 5), (0x11EE0, 0x11EF2, 7), (0x11EF3, 0x11EF6, 4),
  (0x11FB0, 0x11FB0, 7), (0x11FC0, 0x11FD4, 1), (0x12000, 0x12399, 7), (0x12400, 0x1246E, 7), (0x12480, 0x12543, 7),
  (0x12F90, 0x12FF0, 7), (0x13000, 0x1342E, 7), (0x14400, 0x14646, 7), (0x16800, 0x16A38, 7), (0x16A40, 0x16A5E, 7),
  (0x16A60, 0x16A69, 5), (0x16A70, 0x16ABE, 7), (0x16AC0, 0x16AC9, 5), (0x16AD0, 0x16AED, 7), (0x16AF0, 0x16AF4, 4),
  (0x16B00, 0x16B2F, 7), (0x16B30, 0x16B36, 4), (0x16B40, 0x16B43, 7), (0x16B50, 0x16B59, 5), (0x16B5B, 0x16B61, 1),
  (0x16B63, 0x16B77, 7), (0x16B7D, 0x16B8F, 7), (0x16E40, 0x16E7F, 7), (0x16E80, 0x16E96, 1), (0x16F00, 0x16F4A, 7),
  (0x16F4F, 0x16F4F, 4), (0x16F50, 0x16F50, 7), (0x16F51, 0x16F87, 4), (0x16F8F, 0x16F92, 4), (0x16F93, 0x16F9F, 7),
  (0x16FE0, 0x16FE1, 7), (0x16FE3, 0x16FE3, 7), (0x16FE4, 0x16FE4, 4), (0x16FF0, 0x16FF1, 4), (0x17000, 0x187F7, 7),
  (0x18800, 0x18CD5, 7), (0x18D00, 0x18D08, 7), (0x1AFF0, 0x1AFF3, 7), (0x1AFF5, 0x1AFFB, 7), (0x1AFFD, 0x1AFFE, 7),
  (0x1B000, 0x1B122, 7), (0x1B150, 0x1B152, 7), (0x1B164, 0x1B167, 7), (0x1B170, 0x1B2FB, 7), (0x1BC00, 0x1BC6A, 7),
  (0x1BC70, 0x1BC7C, 7), (0x1BC80, 0x1BC88, 7), (0x1BC90, 0x1BC99, 7), (0x1BC9D, 0x1BC9E, 4), (0x1CF00, 0x1CF2D, 4),
  (0x1CF30, 0x1CF46, 4), (0x1D165, 0x1D169, 4), (0x1D16D, 0x1D172, 4), (0x1D17B, 0x1D182, 4), (0x1D185, 0x1D18B, 4),
  (0x1D1AA, 0x1D1AD, 4), (0x1D242, 0x1D244, 4), (0x1D2E0, 0x1D2F3, 1), (0x1D360, 0x1D378, 1), (0x1D400, 0x1D454, 7),
  (0x1D456, 0x1D49C, 7), (0x1D49E, 0x1D49F, 7), (0x1D4A2, 0x1D4A2, 7), (0x1D4A5, 0x1D4A6, 7), (0x1D4A9, 0x1D4AC, 7),
  (0x1D4AE, 0x1D4B9, 7), (0x1D4BB, 0x1D4BB, 7), (0x1D4BD, 0x1D4C3, 7), (0x1D4C5, 0x1D505, 7), (0x1D507, 0x1D50A, 7),
  (0x1D50D, 0x1D514, 7), (0x1D516, 0x1D51C, 7), (0x1D51E, 0x1D539, 7), (0x1D53B, 0x1D53E, 7), (0x1D540, 0x1D544, 7),
  (0x1D546, 0x1D546, 7), (0x1D54A, 0x1D550, 7), (0x1D552, 0x1D6A5, 7), (0x1D6A8, 0x1D6C0, 7), (0x1D6C2, 0x1D6DA, 7),
  (0x1D6DC, 0x1D6FA, 7), (0x1D6FC, 0x1D714, 7), (0x1D716, 0x1D734, 7), (0x1D736, 0x1D74E, 7), (0x1D750, 0x1D76E, 7),
  (0x1D770, 0x1D788, 7), (0x1D78A, 0x1D7A8, 7), (0x1D7AA, 0x1D7C2, 7), (0x1D7C4, 0x1D7CB, 7), (0x1D7CE, 0x1D7FF, 5),
  (0x1DA00, 0x1DA36, 4), (0x1DA3B, 0x1DA6C, 4), (0x1DA75, 0x1DA75, 4), (0x1DA84, 0x1DA84, 4), (0x1DA9B, 0x1DA9F, 4),
  (0x1DAA1, 0x1DAAF, 4), (0x1DF00, 0x1DF1E, 7), (0x1E000, 0x1E006, 4), (0x1E008, 0x1E018, 4), (0x1E01B, 0x1E021, 4),
  (0x1E023, 0x1E024, 4), (0x1E026, 0x1E02A, 4), (0x1E100, 0x1E12C, 7), (0x1E130, 0x1E136, 4), (0x1E137, 0x1E13D, 7),
  (0x1E140, 0x1E149, 5), (0x1E14E, 0x1E14E, 7), (0x1E290, 0x1E2AD, 7), (0x1E2AE, 0x1E2AE, 4), (0x1E2C0, 0x1E2EB, 7),
  (0x1E2EC, 0x1E2EF, 4), (0x1E2F0, 0x1E2F9, 5), (0x1E7E0, 0x1E7E6, 7), (0x1E7E8, 0x1E7EB, 7), (0x1E7ED, 0x1E7EE, 7),
  (0x1E7F0, 0x1E7FE, 7), (0x1E800, 0x1E8C4, 7), (0x1E8C7, 0x1E8CF, 1), (0x1E8D0, 0x1E8D6, 4), (0x1E900, 0x1E943, 7),
  (0x1E944, 0x1E94A, 4), (0x1E94B, 0x1E94B, 7), (0x1E950, 0x1E959, 5), (0x1EC71, 0x1ECAB, 1), (0x1ECAD, 0x1ECAF, 1),
  (0x1ECB1, 0x1ECB4, 1), (0x1ED01, 0x1ED2D, 1), (0x1ED2F, 0x1ED3D, 1), (0x1EE00, 0x1EE03, 7), (0x1EE05, 0x1EE1F, 7),
  (0x1EE21, 0x1EE22, 7), (0x1EE24, 0x1EE24, 7), (0x1EE27, 0x1EE27, 7), (0x1EE29, 0x1EE32, 7), (0x1EE34, 0x1EE37, 7),
  (0x1EE39, 0x1EE39, 7), (0x1EE3B, 0x1EE3B, 7), (0x1EE42, 0x1EE42, 7), (0x1EE47, 0x1EE47, 7), (0x1EE49, 0x1EE49, 7),
  (0x1EE4B, 0x1EE4B, 7), (0x1EE4D, 0x1EE4F, 7), (0x1EE51, 0x1EE52, 7), (0x1EE54, 0x1EE54, 7), (0x1EE57, 0x1EE57, 7),
  (0x1EE59, 0x1EE59, 7), (0x1EE5B, 0x1EE5B, 7), (0x1EE5D, 0x1EE5D, 7), (0x1EE5F, 0x1EE5F, 7), (0x1EE61, 0x1EE62, 7),
  (0x1EE64, 0x1EE64, 7), (0x1EE67, 0x1EE6A, 7), (0x1EE6C, 0x1EE72, 7), (0x1EE74, 0x1EE77, 7), (0x1EE79, 0x1EE7C, 7),
  (0x1EE7E, 0x1EE7E, 7), (0x1EE80, 0x1EE89, 7), (0x1EE8B, 0x1EE9B, 7), (0x1EEA1, 0x1EEA3, 7), (0x1EEA5, 0x1EEA9, 7),
  (0x1EEAB, 0x1EEBB, 7), (0x1F100, 0x1F10C, 1), (0x1FBF0, 0x1FBF9, 5), (0x20000, 0x2A6DF, 7), (0x2A700, 0x2B738, 7),
  (0x2B740, 0x2B81D, 7), (0x2B820, 0x2CEA1, 7), (0x2CEB0, 0x2EBE0, 7), (0x2F800, 0x2FA1D, 7), (0x30000, 0x3134A, 7),
  (0xE0100, 0xE01EF, 4)]

/-- For points from U+0080 on, the ranges of those that a name may hold, with a mask: 1 for a
word point of patterns, 2 for a point that may start a name, 4 for one that may continue it. -/
def nameClasses : Array (Nat × Nat × Nat) := nameClassesLow ++ nameClassesMiddle ++ nameClassesHigh

/-- The mask of the range of a table holding `c`, among the ranges from `lo` below `hi`, or 0. -/
def classMask (table : Array (Nat × Nat × Nat)) (c : Nat) (lo hi : Nat) : Nat :=
  if _h : lo < hi then
    let mid := (lo + hi) / 2
    match table[mid]? with
    | some (a, b, m) =>
      if c < a then classMask table c lo mid
      else if b < c then classMask table c (mid + 1) hi
      else m
    | none => 0
  else 0
termination_by hi - lo

/-- Whether the point is the given character. -/
def is (p : Point) (c : Char) : Bool := p.code == c.toNat

/-- The name mask of a point past ASCII. -/
def mask (p : Point) : Nat := if p.code < 0x80 then 0 else classMask nameClasses p.code 0 nameClasses.size

/-- An ASCII letter. -/
def isLetter (p : Point) : Bool :=
  ('a'.toNat ≤ p.code && p.code ≤ 'z'.toNat) || ('A'.toNat ≤ p.code && p.code ≤ 'Z'.toNat)

/-- An ASCII digit. -/
def isDigit (p : Point) : Bool := '0'.toNat ≤ p.code && p.code ≤ '9'.toNat

/-- A word point of patterns: a letter, digit or number of any script, or the underscore. -/
def isWord (p : Point) : Bool := isLetter p || isDigit p || is p '_' || mask p % 2 == 1

/-- A point that may start a name. -/
def startsName (p : Point) : Bool := isLetter p || is p '_' || mask p / 2 % 2 == 1

/-- A point that may continue a name. -/
def continuesName (p : Point) : Bool := isLetter p || isDigit p || is p '_' || mask p / 4 % 2 == 1

/-- A point the scanner takes into a name before checking it: ASCII letters, digits and the
underscore, and every point past ASCII. -/
def mayName (p : Point) : Bool := isLetter p || isDigit p || is p '_' || p.code ≥ 0x80

/-- The form a name stands for, its compatibility composition. Names are only ever compared
with ASCII words, so a name without an ASCII form is kept as it is written. -/
def nameForm (n : Text) : Text := (Text.asciiForm? n).getD n

/-- Upper-case hexadecimal digits of a number, at least four. -/
def hexUpper (n : Nat) : String :=
  let ds := (Nat.toDigits 16 n).map Char.toUpper
  String.ofList (List.replicate (4 - ds.length) '0' ++ ds)

/-- The text a tag's parameters are read as: without surrounding blanks; an empty argument list
when they are only word points and dots; the parenthesized list after such a name when it runs
to the end on one line. -/
def readAs (parameters : Text) : Text :=
  let s := Text.trim parameters
  let nameish (p : Point) : Bool := isWord p || is p '.'
  if s.all nameish then Text.ofString "()"
  else
    let rest := s.dropWhile nameish
    if rest.head?.any (is · '(') && rest.getLast?.any (is · ')') && rest.length ≥ 2 &&
        !rest.any (is · '\n') then rest
    else s

end TagLiteral

end FarmSetup
