/-
**The characters that are shown as themselves.**

A graphic character is a letter, a mark, a number, punctuation or a symbol. Separators, control and
format characters, private use and unassigned code points are not graphic. Two kinds of graphic characters
are not legible on their own: marks that attach to the character before them, and letters without a glyph
that fill the place of another one.

* `isGraphic`, `isExtendingMark`, `isFiller` — the three classes;
* `isLegible` — the graphic characters that are in neither of the other two.
-/

import ProtoSwift.Unicode.Span

namespace ProtoSwift.Unicode

/-- The graphic code points from 128 on. -/
def graphicSpans : List Span := [
  ⟨0xa1, 0xac, 1⟩, ⟨0xae, 0x377, 1⟩, ⟨0x37a, 0x37f, 1⟩, ⟨0x384, 0x38a, 1⟩, ⟨0x38c, 0x38c, 1⟩,
  ⟨0x38e, 0x3a1, 1⟩, ⟨0x3a3, 0x52f, 1⟩, ⟨0x531, 0x556, 1⟩, ⟨0x559, 0x58a, 1⟩, ⟨0x58d, 0x58f, 1⟩,
  ⟨0x591, 0x5c7, 1⟩, ⟨0x5d0, 0x5ea, 1⟩, ⟨0x5ef, 0x5f4, 1⟩, ⟨0x606, 0x61b, 1⟩, ⟨0x61d, 0x6dc, 1⟩,
  ⟨0x6de, 0x70d, 1⟩, ⟨0x710, 0x74a, 1⟩, ⟨0x74d, 0x7b1, 1⟩, ⟨0x7c0, 0x7fa, 1⟩, ⟨0x7fd, 0x82d, 1⟩,
  ⟨0x830, 0x83e, 1⟩, ⟨0x840, 0x85b, 1⟩, ⟨0x85e, 0x85e, 1⟩, ⟨0x860, 0x86a, 1⟩, ⟨0x870, 0x88f, 1⟩,
  ⟨0x897, 0x8e1, 1⟩, ⟨0x8e3, 0x983, 1⟩, ⟨0x985, 0x98c, 1⟩, ⟨0x98f, 0x990, 1⟩, ⟨0x993, 0x9a8, 1⟩,
  ⟨0x9aa, 0x9b0, 1⟩, ⟨0x9b2, 0x9b2, 1⟩, ⟨0x9b6, 0x9b9, 1⟩, ⟨0x9bc, 0x9c4, 1⟩, ⟨0x9c7, 0x9c8, 1⟩,
  ⟨0x9cb, 0x9ce, 1⟩, ⟨0x9d7, 0x9d7, 1⟩, ⟨0x9dc, 0x9dd, 1⟩, ⟨0x9df, 0x9e3, 1⟩, ⟨0x9e6, 0x9fe, 1⟩,
  ⟨0xa01, 0xa03, 1⟩, ⟨0xa05, 0xa0a, 1⟩, ⟨0xa0f, 0xa10, 1⟩, ⟨0xa13, 0xa28, 1⟩, ⟨0xa2a, 0xa30, 1⟩,
  ⟨0xa32, 0xa33, 1⟩, ⟨0xa35, 0xa36, 1⟩, ⟨0xa38, 0xa39, 1⟩, ⟨0xa3c, 0xa3c, 1⟩, ⟨0xa3e, 0xa42, 1⟩,
  ⟨0xa47, 0xa48, 1⟩, ⟨0xa4b, 0xa4d, 1⟩, ⟨0xa51, 0xa51, 1⟩, ⟨0xa59, 0xa5c, 1⟩, ⟨0xa5e, 0xa5e, 1⟩,
  ⟨0xa66, 0xa76, 1⟩, ⟨0xa81, 0xa83, 1⟩, ⟨0xa85, 0xa8d, 1⟩, ⟨0xa8f, 0xa91, 1⟩, ⟨0xa93, 0xaa8, 1⟩,
  ⟨0xaaa, 0xab0, 1⟩, ⟨0xab2, 0xab3, 1⟩, ⟨0xab5, 0xab9, 1⟩, ⟨0xabc, 0xac5, 1⟩, ⟨0xac7, 0xac9, 1⟩,
  ⟨0xacb, 0xacd, 1⟩, ⟨0xad0, 0xad0, 1⟩, ⟨0xae0, 0xae3, 1⟩, ⟨0xae6, 0xaf1, 1⟩, ⟨0xaf9, 0xaff, 1⟩,
  ⟨0xb01, 0xb03, 1⟩, ⟨0xb05, 0xb0c, 1⟩, ⟨0xb0f, 0xb10, 1⟩, ⟨0xb13, 0xb28, 1⟩, ⟨0xb2a, 0xb30, 1⟩,
  ⟨0xb32, 0xb33, 1⟩, ⟨0xb35, 0xb39, 1⟩, ⟨0xb3c, 0xb44, 1⟩, ⟨0xb47, 0xb48, 1⟩, ⟨0xb4b, 0xb4d, 1⟩,
  ⟨0xb55, 0xb57, 1⟩, ⟨0xb5c, 0xb5d, 1⟩, ⟨0xb5f, 0xb63, 1⟩, ⟨0xb66, 0xb77, 1⟩, ⟨0xb82, 0xb83, 1⟩,
  ⟨0xb85, 0xb8a, 1⟩, ⟨0xb8e, 0xb90, 1⟩, ⟨0xb92, 0xb95, 1⟩, ⟨0xb99, 0xb9a, 1⟩, ⟨0xb9c, 0xb9c, 1⟩,
  ⟨0xb9e, 0xb9f, 1⟩, ⟨0xba3, 0xba4, 1⟩, ⟨0xba8, 0xbaa, 1⟩, ⟨0xbae, 0xbb9, 1⟩, ⟨0xbbe, 0xbc2, 1⟩,
  ⟨0xbc6, 0xbc8, 1⟩, ⟨0xbca, 0xbcd, 1⟩, ⟨0xbd0, 0xbd0, 1⟩, ⟨0xbd7, 0xbd7, 1⟩, ⟨0xbe6, 0xbfa, 1⟩,
  ⟨0xc00, 0xc0c, 1⟩, ⟨0xc0e, 0xc10, 1⟩, ⟨0xc12, 0xc28, 1⟩, ⟨0xc2a, 0xc39, 1⟩, ⟨0xc3c, 0xc44, 1⟩,
  ⟨0xc46, 0xc48, 1⟩, ⟨0xc4a, 0xc4d, 1⟩, ⟨0xc55, 0xc56, 1⟩, ⟨0xc58, 0xc5a, 1⟩, ⟨0xc5c, 0xc5d, 1⟩,
  ⟨0xc60, 0xc63, 1⟩, ⟨0xc66, 0xc6f, 1⟩, ⟨0xc77, 0xc8c, 1⟩, ⟨0xc8e, 0xc90, 1⟩, ⟨0xc92, 0xca8, 1⟩,
  ⟨0xcaa, 0xcb3, 1⟩, ⟨0xcb5, 0xcb9, 1⟩, ⟨0xcbc, 0xcc4, 1⟩, ⟨0xcc6, 0xcc8, 1⟩, ⟨0xcca, 0xccd, 1⟩,
  ⟨0xcd5, 0xcd6, 1⟩, ⟨0xcdc, 0xcde, 1⟩, ⟨0xce0, 0xce3, 1⟩, ⟨0xce6, 0xcef, 1⟩, ⟨0xcf1, 0xcf3, 1⟩,
  ⟨0xd00, 0xd0c, 1⟩, ⟨0xd0e, 0xd10, 1⟩, ⟨0xd12, 0xd44, 1⟩, ⟨0xd46, 0xd48, 1⟩, ⟨0xd4a, 0xd4f, 1⟩,
  ⟨0xd54, 0xd63, 1⟩, ⟨0xd66, 0xd7f, 1⟩, ⟨0xd81, 0xd83, 1⟩, ⟨0xd85, 0xd96, 1⟩, ⟨0xd9a, 0xdb1, 1⟩,
  ⟨0xdb3, 0xdbb, 1⟩, ⟨0xdbd, 0xdbd, 1⟩, ⟨0xdc0, 0xdc6, 1⟩, ⟨0xdca, 0xdca, 1⟩, ⟨0xdcf, 0xdd4, 1⟩,
  ⟨0xdd6, 0xdd6, 1⟩, ⟨0xdd8, 0xddf, 1⟩, ⟨0xde6, 0xdef, 1⟩, ⟨0xdf2, 0xdf4, 1⟩, ⟨0xe01, 0xe3a, 1⟩,
  ⟨0xe3f, 0xe5b, 1⟩, ⟨0xe81, 0xe82, 1⟩, ⟨0xe84, 0xe84, 1⟩, ⟨0xe86, 0xe8a, 1⟩, ⟨0xe8c, 0xea3, 1⟩,
  ⟨0xea5, 0xea5, 1⟩, ⟨0xea7, 0xebd, 1⟩, ⟨0xec0, 0xec4, 1⟩, ⟨0xec6, 0xec6, 1⟩, ⟨0xec8, 0xece, 1⟩,
  ⟨0xed0, 0xed9, 1⟩, ⟨0xedc, 0xedf, 1⟩, ⟨0xf00, 0xf47, 1⟩, ⟨0xf49, 0xf6c, 1⟩, ⟨0xf71, 0xf97, 1⟩,
  ⟨0xf99, 0xfbc, 1⟩, ⟨0xfbe, 0xfcc, 1⟩, ⟨0xfce, 0xfda, 1⟩, ⟨0x1000, 0x10c5, 1⟩, ⟨0x10c7, 0x10c7, 1⟩,
  ⟨0x10cd, 0x10cd, 1⟩, ⟨0x10d0, 0x1248, 1⟩, ⟨0x124a, 0x124d, 1⟩, ⟨0x1250, 0x1256, 1⟩,
  ⟨0x1258, 0x1258, 1⟩, ⟨0x125a, 0x125d, 1⟩, ⟨0x1260, 0x1288, 1⟩, ⟨0x128a, 0x128d, 1⟩,
  ⟨0x1290, 0x12b0, 1⟩, ⟨0x12b2, 0x12b5, 1⟩, ⟨0x12b8, 0x12be, 1⟩, ⟨0x12c0, 0x12c0, 1⟩,
  ⟨0x12c2, 0x12c5, 1⟩, ⟨0x12c8, 0x12d6, 1⟩, ⟨0x12d8, 0x1310, 1⟩, ⟨0x1312, 0x1315, 1⟩,
  ⟨0x1318, 0x135a, 1⟩, ⟨0x135d, 0x137c, 1⟩, ⟨0x1380, 0x1399, 1⟩, ⟨0x13a0, 0x13f5, 1⟩,
  ⟨0x13f8, 0x13fd, 1⟩, ⟨0x1400, 0x167f, 1⟩, ⟨0x1681, 0x169c, 1⟩, ⟨0x16a0, 0x16f8, 1⟩,
  ⟨0x1700, 0x1715, 1⟩, ⟨0x171f, 0x1736, 1⟩, ⟨0x1740, 0x1753, 1⟩, ⟨0x1760, 0x176c, 1⟩,
  ⟨0x176e, 0x1770, 1⟩, ⟨0x1772, 0x1773, 1⟩, ⟨0x1780, 0x17dd, 1⟩, ⟨0x17e0, 0x17e9, 1⟩,
  ⟨0x17f0, 0x17f9, 1⟩, ⟨0x1800, 0x180d, 1⟩, ⟨0x180f, 0x1819, 1⟩, ⟨0x1820, 0x1878, 1⟩,
  ⟨0x1880, 0x18aa, 1⟩, ⟨0x18b0, 0x18f5, 1⟩, ⟨0x1900, 0x191e, 1⟩, ⟨0x1920, 0x192b, 1⟩,
  ⟨0x1930, 0x193b, 1⟩, ⟨0x1940, 0x1940, 1⟩, ⟨0x1944, 0x196d, 1⟩, ⟨0x1970, 0x1974, 1⟩,
  ⟨0x1980, 0x19ab, 1⟩, ⟨0x19b0, 0x19c9, 1⟩, ⟨0x19d0, 0x19da, 1⟩, ⟨0x19de, 0x1a1b, 1⟩,
  ⟨0x1a1e, 0x1a5e, 1⟩, ⟨0x1a60, 0x1a7c, 1⟩, ⟨0x1a7f, 0x1a89, 1⟩, ⟨0x1a90, 0x1a99, 1⟩,
  ⟨0x1aa0, 0x1aad, 1⟩, ⟨0x1ab0, 0x1add, 1⟩, ⟨0x1ae0, 0x1aeb, 1⟩, ⟨0x1b00, 0x1b4c, 1⟩,
  ⟨0x1b4e, 0x1bf3, 1⟩, ⟨0x1bfc, 0x1c37, 1⟩, ⟨0x1c3b, 0x1c49, 1⟩, ⟨0x1c4d, 0x1c8a, 1⟩,
  ⟨0x1c90, 0x1cba, 1⟩, ⟨0x1cbd, 0x1cc7, 1⟩, ⟨0x1cd0, 0x1cfa, 1⟩, ⟨0x1d00, 0x1f15, 1⟩,
  ⟨0x1f18, 0x1f1d, 1⟩, ⟨0x1f20, 0x1f45, 1⟩, ⟨0x1f48, 0x1f4d, 1⟩, ⟨0x1f50, 0x1f57, 1⟩,
  ⟨0x1f59, 0x1f5d, 2⟩, ⟨0x1f5f, 0x1f7d, 1⟩, ⟨0x1f80, 0x1fb4, 1⟩, ⟨0x1fb6, 0x1fc4, 1⟩,
  ⟨0x1fc6, 0x1fd3, 1⟩, ⟨0x1fd6, 0x1fdb, 1⟩, ⟨0x1fdd, 0x1fef, 1⟩, ⟨0x1ff2, 0x1ff4, 1⟩,
  ⟨0x1ff6, 0x1ffe, 1⟩, ⟨0x2010, 0x2027, 1⟩, ⟨0x2030, 0x205e, 1⟩, ⟨0x2070, 0x2071, 1⟩,
  ⟨0x2074, 0x208e, 1⟩, ⟨0x2090, 0x209c, 1⟩, ⟨0x20a0, 0x20c1, 1⟩, ⟨0x20d0, 0x20f0, 1⟩,
  ⟨0x2100, 0x218b, 1⟩, ⟨0x2190, 0x2429, 1⟩, ⟨0x2440, 0x244a, 1⟩, ⟨0x2460, 0x2b73, 1⟩,
  ⟨0x2b76, 0x2cf3, 1⟩, ⟨0x2cf9, 0x2d25, 1⟩, ⟨0x2d27, 0x2d27, 1⟩, ⟨0x2d2d, 0x2d2d, 1⟩,
  ⟨0x2d30, 0x2d67, 1⟩, ⟨0x2d6f, 0x2d70, 1⟩, ⟨0x2d7f, 0x2d96, 1⟩, ⟨0x2da0, 0x2da6, 1⟩,
  ⟨0x2da8, 0x2dae, 1⟩, ⟨0x2db0, 0x2db6, 1⟩, ⟨0x2db8, 0x2dbe, 1⟩, ⟨0x2dc0, 0x2dc6, 1⟩,
  ⟨0x2dc8, 0x2dce, 1⟩, ⟨0x2dd0, 0x2dd6, 1⟩, ⟨0x2dd8, 0x2dde, 1⟩, ⟨0x2de0, 0x2e5d, 1⟩,
  ⟨0x2e80, 0x2e99, 1⟩, ⟨0x2e9b, 0x2ef3, 1⟩, ⟨0x2f00, 0x2fd5, 1⟩, ⟨0x2ff0, 0x2fff, 1⟩,
  ⟨0x3001, 0x303f, 1⟩, ⟨0x3041, 0x3096, 1⟩, ⟨0x3099, 0x30ff, 1⟩, ⟨0x3105, 0x312f, 1⟩,
  ⟨0x3131, 0x318e, 1⟩, ⟨0x3190, 0x31e5, 1⟩, ⟨0x31ef, 0x321e, 1⟩, ⟨0x3220, 0xa48c, 1⟩,
  ⟨0xa490, 0xa4c6, 1⟩, ⟨0xa4d0, 0xa62b, 1⟩, ⟨0xa640, 0xa6f7, 1⟩, ⟨0xa700, 0xa7dc, 1⟩,
  ⟨0xa7f1, 0xa82c, 1⟩, ⟨0xa830, 0xa839, 1⟩, ⟨0xa840, 0xa877, 1⟩, ⟨0xa880, 0xa8c5, 1⟩,
  ⟨0xa8ce, 0xa8d9, 1⟩, ⟨0xa8e0, 0xa953, 1⟩, ⟨0xa95f, 0xa97c, 1⟩, ⟨0xa980, 0xa9cd, 1⟩,
  ⟨0xa9cf, 0xa9d9, 1⟩, ⟨0xa9de, 0xa9fe, 1⟩, ⟨0xaa00, 0xaa36, 1⟩, ⟨0xaa40, 0xaa4d, 1⟩,
  ⟨0xaa50, 0xaa59, 1⟩, ⟨0xaa5c, 0xaac2, 1⟩, ⟨0xaadb, 0xaaf6, 1⟩, ⟨0xab01, 0xab06, 1⟩,
  ⟨0xab09, 0xab0e, 1⟩, ⟨0xab11, 0xab16, 1⟩, ⟨0xab20, 0xab26, 1⟩, ⟨0xab28, 0xab2e, 1⟩,
  ⟨0xab30, 0xab6b, 1⟩, ⟨0xab70, 0xabed, 1⟩, ⟨0xabf0, 0xabf9, 1⟩, ⟨0xac00, 0xd7a3, 1⟩,
  ⟨0xd7b0, 0xd7c6, 1⟩, ⟨0xd7cb, 0xd7fb, 1⟩, ⟨0xf900, 0xfa6d, 1⟩, ⟨0xfa70, 0xfad9, 1⟩,
  ⟨0xfb00, 0xfb06, 1⟩, ⟨0xfb13, 0xfb17, 1⟩, ⟨0xfb1d, 0xfb36, 1⟩, ⟨0xfb38, 0xfb3c, 1⟩,
  ⟨0xfb3e, 0xfb3e, 1⟩, ⟨0xfb40, 0xfb41, 1⟩, ⟨0xfb43, 0xfb44, 1⟩, ⟨0xfb46, 0xfdcf, 1⟩,
  ⟨0xfdf0, 0xfe19, 1⟩, ⟨0xfe20, 0xfe52, 1⟩, ⟨0xfe54, 0xfe66, 1⟩, ⟨0xfe68, 0xfe6b, 1⟩,
  ⟨0xfe70, 0xfe74, 1⟩, ⟨0xfe76, 0xfefc, 1⟩, ⟨0xff01, 0xffbe, 1⟩, ⟨0xffc2, 0xffc7, 1⟩,
  ⟨0xffca, 0xffcf, 1⟩, ⟨0xffd2, 0xffd7, 1⟩, ⟨0xffda, 0xffdc, 1⟩, ⟨0xffe0, 0xffe6, 1⟩,
  ⟨0xffe8, 0xffee, 1⟩, ⟨0xfffc, 0xfffd, 1⟩, ⟨0x10000, 0x1000b, 1⟩, ⟨0x1000d, 0x10026, 1⟩,
  ⟨0x10028, 0x1003a, 1⟩, ⟨0x1003c, 0x1003d, 1⟩, ⟨0x1003f, 0x1004d, 1⟩, ⟨0x10050, 0x1005d, 1⟩,
  ⟨0x10080, 0x100fa, 1⟩, ⟨0x10100, 0x10102, 1⟩, ⟨0x10107, 0x10133, 1⟩, ⟨0x10137, 0x1018e, 1⟩,
  ⟨0x10190, 0x1019c, 1⟩, ⟨0x101a0, 0x101a0, 1⟩, ⟨0x101d0, 0x101fd, 1⟩, ⟨0x10280, 0x1029c, 1⟩,
  ⟨0x102a0, 0x102d0, 1⟩, ⟨0x102e0, 0x102fb, 1⟩, ⟨0x10300, 0x10323, 1⟩, ⟨0x1032d, 0x1034a, 1⟩,
  ⟨0x10350, 0x1037a, 1⟩, ⟨0x10380, 0x1039d, 1⟩, ⟨0x1039f, 0x103c3, 1⟩, ⟨0x103c8, 0x103d5, 1⟩,
  ⟨0x10400, 0x1049d, 1⟩, ⟨0x104a0, 0x104a9, 1⟩, ⟨0x104b0, 0x104d3, 1⟩, ⟨0x104d8, 0x104fb, 1⟩,
  ⟨0x10500, 0x10527, 1⟩, ⟨0x10530, 0x10563, 1⟩, ⟨0x1056f, 0x1057a, 1⟩, ⟨0x1057c, 0x1058a, 1⟩,
  ⟨0x1058c, 0x10592, 1⟩, ⟨0x10594, 0x10595, 1⟩, ⟨0x10597, 0x105a1, 1⟩, ⟨0x105a3, 0x105b1, 1⟩,
  ⟨0x105b3, 0x105b9, 1⟩, ⟨0x105bb, 0x105bc, 1⟩, ⟨0x105c0, 0x105f3, 1⟩, ⟨0x10600, 0x10736, 1⟩,
  ⟨0x10740, 0x10755, 1⟩, ⟨0x10760, 0x10767, 1⟩, ⟨0x10780, 0x10785, 1⟩, ⟨0x10787, 0x107b0, 1⟩,
  ⟨0x107b2, 0x107ba, 1⟩, ⟨0x10800, 0x10805, 1⟩, ⟨0x10808, 0x10808, 1⟩, ⟨0x1080a, 0x10835, 1⟩,
  ⟨0x10837, 0x10838, 1⟩, ⟨0x1083c, 0x1083c, 1⟩, ⟨0x1083f, 0x10855, 1⟩, ⟨0x10857, 0x1089e, 1⟩,
  ⟨0x108a7, 0x108af, 1⟩, ⟨0x108e0, 0x108f2, 1⟩, ⟨0x108f4, 0x108f5, 1⟩, ⟨0x108fb, 0x1091b, 1⟩,
  ⟨0x1091f, 0x10939, 1⟩, ⟨0x1093f, 0x10959, 1⟩, ⟨0x10980, 0x109b7, 1⟩, ⟨0x109bc, 0x109cf, 1⟩,
  ⟨0x109d2, 0x10a03, 1⟩, ⟨0x10a05, 0x10a06, 1⟩, ⟨0x10a0c, 0x10a13, 1⟩, ⟨0x10a15, 0x10a17, 1⟩,
  ⟨0x10a19, 0x10a35, 1⟩, ⟨0x10a38, 0x10a3a, 1⟩, ⟨0x10a3f, 0x10a48, 1⟩, ⟨0x10a50, 0x10a58, 1⟩,
  ⟨0x10a60, 0x10a9f, 1⟩, ⟨0x10ac0, 0x10ae6, 1⟩, ⟨0x10aeb, 0x10af6, 1⟩, ⟨0x10b00, 0x10b35, 1⟩,
  ⟨0x10b39, 0x10b55, 1⟩, ⟨0x10b58, 0x10b72, 1⟩, ⟨0x10b78, 0x10b91, 1⟩, ⟨0x10b99, 0x10b9c, 1⟩,
  ⟨0x10ba9, 0x10baf, 1⟩, ⟨0x10c00, 0x10c48, 1⟩, ⟨0x10c80, 0x10cb2, 1⟩, ⟨0x10cc0, 0x10cf2, 1⟩,
  ⟨0x10cfa, 0x10d27, 1⟩, ⟨0x10d30, 0x10d39, 1⟩, ⟨0x10d40, 0x10d65, 1⟩, ⟨0x10d69, 0x10d85, 1⟩,
  ⟨0x10d8e, 0x10d8f, 1⟩, ⟨0x10e60, 0x10e7e, 1⟩, ⟨0x10e80, 0x10ea9, 1⟩, ⟨0x10eab, 0x10ead, 1⟩,
  ⟨0x10eb0, 0x10eb1, 1⟩, ⟨0x10ec2, 0x10ec7, 1⟩, ⟨0x10ed0, 0x10ed8, 1⟩, ⟨0x10efa, 0x10f27, 1⟩,
  ⟨0x10f30, 0x10f59, 1⟩, ⟨0x10f70, 0x10f89, 1⟩, ⟨0x10fb0, 0x10fcb, 1⟩, ⟨0x10fe0, 0x10ff6, 1⟩,
  ⟨0x11000, 0x1104d, 1⟩, ⟨0x11052, 0x11075, 1⟩, ⟨0x1107f, 0x110bc, 1⟩, ⟨0x110be, 0x110c2, 1⟩,
  ⟨0x110d0, 0x110e8, 1⟩, ⟨0x110f0, 0x110f9, 1⟩, ⟨0x11100, 0x11134, 1⟩, ⟨0x11136, 0x11147, 1⟩,
  ⟨0x11150, 0x11176, 1⟩, ⟨0x11180, 0x111df, 1⟩, ⟨0x111e1, 0x111f4, 1⟩, ⟨0x11200, 0x11211, 1⟩,
  ⟨0x11213, 0x11241, 1⟩, ⟨0x11280, 0x11286, 1⟩, ⟨0x11288, 0x11288, 1⟩, ⟨0x1128a, 0x1128d, 1⟩,
  ⟨0x1128f, 0x1129d, 1⟩, ⟨0x1129f, 0x112a9, 1⟩, ⟨0x112b0, 0x112ea, 1⟩, ⟨0x112f0, 0x112f9, 1⟩,
  ⟨0x11300, 0x11303, 1⟩, ⟨0x11305, 0x1130c, 1⟩, ⟨0x1130f, 0x11310, 1⟩, ⟨0x11313, 0x11328, 1⟩,
  ⟨0x1132a, 0x11330, 1⟩, ⟨0x11332, 0x11333, 1⟩, ⟨0x11335, 0x11339, 1⟩, ⟨0x1133b, 0x11344, 1⟩,
  ⟨0x11347, 0x11348, 1⟩, ⟨0x1134b, 0x1134d, 1⟩, ⟨0x11350, 0x11350, 1⟩, ⟨0x11357, 0x11357, 1⟩,
  ⟨0x1135d, 0x11363, 1⟩, ⟨0x11366, 0x1136c, 1⟩, ⟨0x11370, 0x11374, 1⟩, ⟨0x11380, 0x11389, 1⟩,
  ⟨0x1138b, 0x1138b, 1⟩, ⟨0x1138e, 0x1138e, 1⟩, ⟨0x11390, 0x113b5, 1⟩, ⟨0x113b7, 0x113c0, 1⟩,
  ⟨0x113c2, 0x113c2, 1⟩, ⟨0x113c5, 0x113c5, 1⟩, ⟨0x113c7, 0x113ca, 1⟩, ⟨0x113cc, 0x113d5, 1⟩,
  ⟨0x113d7, 0x113d8, 1⟩, ⟨0x113e1, 0x113e2, 1⟩, ⟨0x11400, 0x1145b, 1⟩, ⟨0x1145d, 0x11461, 1⟩,
  ⟨0x11480, 0x114c7, 1⟩, ⟨0x114d0, 0x114d9, 1⟩, ⟨0x11580, 0x115b5, 1⟩, ⟨0x115b8, 0x115dd, 1⟩,
  ⟨0x11600, 0x11644, 1⟩, ⟨0x11650, 0x11659, 1⟩, ⟨0x11660, 0x1166c, 1⟩, ⟨0x11680, 0x116b9, 1⟩,
  ⟨0x116c0, 0x116c9, 1⟩, ⟨0x116d0, 0x116e3, 1⟩, ⟨0x11700, 0x1171a, 1⟩, ⟨0x1171d, 0x1172b, 1⟩,
  ⟨0x11730, 0x11746, 1⟩, ⟨0x11800, 0x1183b, 1⟩, ⟨0x118a0, 0x118f2, 1⟩, ⟨0x118ff, 0x11906, 1⟩,
  ⟨0x11909, 0x11909, 1⟩, ⟨0x1190c, 0x11913, 1⟩, ⟨0x11915, 0x11916, 1⟩, ⟨0x11918, 0x11935, 1⟩,
  ⟨0x11937, 0x11938, 1⟩, ⟨0x1193b, 0x11946, 1⟩, ⟨0x11950, 0x11959, 1⟩, ⟨0x119a0, 0x119a7, 1⟩,
  ⟨0x119aa, 0x119d7, 1⟩, ⟨0x119da, 0x119e4, 1⟩, ⟨0x11a00, 0x11a47, 1⟩, ⟨0x11a50, 0x11aa2, 1⟩,
  ⟨0x11ab0, 0x11af8, 1⟩, ⟨0x11b00, 0x11b09, 1⟩, ⟨0x11b60, 0x11b67, 1⟩, ⟨0x11bc0, 0x11be1, 1⟩,
  ⟨0x11bf0, 0x11bf9, 1⟩, ⟨0x11c00, 0x11c08, 1⟩, ⟨0x11c0a, 0x11c36, 1⟩, ⟨0x11c38, 0x11c45, 1⟩,
  ⟨0x11c50, 0x11c6c, 1⟩, ⟨0x11c70, 0x11c8f, 1⟩, ⟨0x11c92, 0x11ca7, 1⟩, ⟨0x11ca9, 0x11cb6, 1⟩,
  ⟨0x11d00, 0x11d06, 1⟩, ⟨0x11d08, 0x11d09, 1⟩, ⟨0x11d0b, 0x11d36, 1⟩, ⟨0x11d3a, 0x11d3a, 1⟩,
  ⟨0x11d3c, 0x11d3d, 1⟩, ⟨0x11d3f, 0x11d47, 1⟩, ⟨0x11d50, 0x11d59, 1⟩, ⟨0x11d60, 0x11d65, 1⟩,
  ⟨0x11d67, 0x11d68, 1⟩, ⟨0x11d6a, 0x11d8e, 1⟩, ⟨0x11d90, 0x11d91, 1⟩, ⟨0x11d93, 0x11d98, 1⟩,
  ⟨0x11da0, 0x11da9, 1⟩, ⟨0x11db0, 0x11ddb, 1⟩, ⟨0x11de0, 0x11de9, 1⟩, ⟨0x11ee0, 0x11ef8, 1⟩,
  ⟨0x11f00, 0x11f10, 1⟩, ⟨0x11f12, 0x11f3a, 1⟩, ⟨0x11f3e, 0x11f5a, 1⟩, ⟨0x11fb0, 0x11fb0, 1⟩,
  ⟨0x11fc0, 0x11ff1, 1⟩, ⟨0x11fff, 0x12399, 1⟩, ⟨0x12400, 0x1246e, 1⟩, ⟨0x12470, 0x12474, 1⟩,
  ⟨0x12480, 0x12543, 1⟩, ⟨0x12f90, 0x12ff2, 1⟩, ⟨0x13000, 0x1342f, 1⟩, ⟨0x13440, 0x13455, 1⟩,
  ⟨0x13460, 0x143fa, 1⟩, ⟨0x14400, 0x14646, 1⟩, ⟨0x16100, 0x16139, 1⟩, ⟨0x16800, 0x16a38, 1⟩,
  ⟨0x16a40, 0x16a5e, 1⟩, ⟨0x16a60, 0x16a69, 1⟩, ⟨0x16a6e, 0x16abe, 1⟩, ⟨0x16ac0, 0x16ac9, 1⟩,
  ⟨0x16ad0, 0x16aed, 1⟩, ⟨0x16af0, 0x16af5, 1⟩, ⟨0x16b00, 0x16b45, 1⟩, ⟨0x16b50, 0x16b59, 1⟩,
  ⟨0x16b5b, 0x16b61, 1⟩, ⟨0x16b63, 0x16b77, 1⟩, ⟨0x16b7d, 0x16b8f, 1⟩, ⟨0x16d40, 0x16d79, 1⟩,
  ⟨0x16e40, 0x16e9a, 1⟩, ⟨0x16ea0, 0x16eb8, 1⟩, ⟨0x16ebb, 0x16ed3, 1⟩, ⟨0x16f00, 0x16f4a, 1⟩,
  ⟨0x16f4f, 0x16f87, 1⟩, ⟨0x16f8f, 0x16f9f, 1⟩, ⟨0x16fe0, 0x16fe4, 1⟩, ⟨0x16ff0, 0x16ff6, 1⟩,
  ⟨0x17000, 0x18cd5, 1⟩, ⟨0x18cff, 0x18d1e, 1⟩, ⟨0x18d80, 0x18df2, 1⟩, ⟨0x1aff0, 0x1aff3, 1⟩,
  ⟨0x1aff5, 0x1affb, 1⟩, ⟨0x1affd, 0x1affe, 1⟩, ⟨0x1b000, 0x1b122, 1⟩, ⟨0x1b132, 0x1b132, 1⟩,
  ⟨0x1b150, 0x1b152, 1⟩, ⟨0x1b155, 0x1b155, 1⟩, ⟨0x1b164, 0x1b167, 1⟩, ⟨0x1b170, 0x1b2fb, 1⟩,
  ⟨0x1bc00, 0x1bc6a, 1⟩, ⟨0x1bc70, 0x1bc7c, 1⟩, ⟨0x1bc80, 0x1bc88, 1⟩, ⟨0x1bc90, 0x1bc99, 1⟩,
  ⟨0x1bc9c, 0x1bc9f, 1⟩, ⟨0x1cc00, 0x1ccfc, 1⟩, ⟨0x1cd00, 0x1ceb3, 1⟩, ⟨0x1ceba, 0x1ced0, 1⟩,
  ⟨0x1cee0, 0x1cef0, 1⟩, ⟨0x1cf00, 0x1cf2d, 1⟩, ⟨0x1cf30, 0x1cf46, 1⟩, ⟨0x1cf50, 0x1cfc3, 1⟩,
  ⟨0x1d000, 0x1d0f5, 1⟩, ⟨0x1d100, 0x1d126, 1⟩, ⟨0x1d129, 0x1d172, 1⟩, ⟨0x1d17b, 0x1d1ea, 1⟩,
  ⟨0x1d200, 0x1d245, 1⟩, ⟨0x1d2c0, 0x1d2d3, 1⟩, ⟨0x1d2e0, 0x1d2f3, 1⟩, ⟨0x1d300, 0x1d356, 1⟩,
  ⟨0x1d360, 0x1d378, 1⟩, ⟨0x1d400, 0x1d454, 1⟩, ⟨0x1d456, 0x1d49c, 1⟩, ⟨0x1d49e, 0x1d49f, 1⟩,
  ⟨0x1d4a2, 0x1d4a2, 1⟩, ⟨0x1d4a5, 0x1d4a6, 1⟩, ⟨0x1d4a9, 0x1d4ac, 1⟩, ⟨0x1d4ae, 0x1d4b9, 1⟩,
  ⟨0x1d4bb, 0x1d4bb, 1⟩, ⟨0x1d4bd, 0x1d4c3, 1⟩, ⟨0x1d4c5, 0x1d505, 1⟩, ⟨0x1d507, 0x1d50a, 1⟩,
  ⟨0x1d50d, 0x1d514, 1⟩, ⟨0x1d516, 0x1d51c, 1⟩, ⟨0x1d51e, 0x1d539, 1⟩, ⟨0x1d53b, 0x1d53e, 1⟩,
  ⟨0x1d540, 0x1d544, 1⟩, ⟨0x1d546, 0x1d546, 1⟩, ⟨0x1d54a, 0x1d550, 1⟩, ⟨0x1d552, 0x1d6a5, 1⟩,
  ⟨0x1d6a8, 0x1d7cb, 1⟩, ⟨0x1d7ce, 0x1da8b, 1⟩, ⟨0x1da9b, 0x1da9f, 1⟩, ⟨0x1daa1, 0x1daaf, 1⟩,
  ⟨0x1df00, 0x1df1e, 1⟩, ⟨0x1df25, 0x1df2a, 1⟩, ⟨0x1e000, 0x1e006, 1⟩, ⟨0x1e008, 0x1e018, 1⟩,
  ⟨0x1e01b, 0x1e021, 1⟩, ⟨0x1e023, 0x1e024, 1⟩, ⟨0x1e026, 0x1e02a, 1⟩, ⟨0x1e030, 0x1e06d, 1⟩,
  ⟨0x1e08f, 0x1e08f, 1⟩, ⟨0x1e100, 0x1e12c, 1⟩, ⟨0x1e130, 0x1e13d, 1⟩, ⟨0x1e140, 0x1e149, 1⟩,
  ⟨0x1e14e, 0x1e14f, 1⟩, ⟨0x1e290, 0x1e2ae, 1⟩, ⟨0x1e2c0, 0x1e2f9, 1⟩, ⟨0x1e2ff, 0x1e2ff, 1⟩,
  ⟨0x1e4d0, 0x1e4f9, 1⟩, ⟨0x1e5d0, 0x1e5fa, 1⟩, ⟨0x1e5ff, 0x1e5ff, 1⟩, ⟨0x1e6c0, 0x1e6de, 1⟩,
  ⟨0x1e6e0, 0x1e6f5, 1⟩, ⟨0x1e6fe, 0x1e6ff, 1⟩, ⟨0x1e7e0, 0x1e7e6, 1⟩, ⟨0x1e7e8, 0x1e7eb, 1⟩,
  ⟨0x1e7ed, 0x1e7ee, 1⟩, ⟨0x1e7f0, 0x1e7fe, 1⟩, ⟨0x1e800, 0x1e8c4, 1⟩, ⟨0x1e8c7, 0x1e8d6, 1⟩,
  ⟨0x1e900, 0x1e94b, 1⟩, ⟨0x1e950, 0x1e959, 1⟩, ⟨0x1e95e, 0x1e95f, 1⟩, ⟨0x1ec71, 0x1ecb4, 1⟩,
  ⟨0x1ed01, 0x1ed3d, 1⟩, ⟨0x1ee00, 0x1ee03, 1⟩, ⟨0x1ee05, 0x1ee1f, 1⟩, ⟨0x1ee21, 0x1ee22, 1⟩,
  ⟨0x1ee24, 0x1ee24, 1⟩, ⟨0x1ee27, 0x1ee27, 1⟩, ⟨0x1ee29, 0x1ee32, 1⟩, ⟨0x1ee34, 0x1ee37, 1⟩,
  ⟨0x1ee39, 0x1ee39, 1⟩, ⟨0x1ee3b, 0x1ee3b, 1⟩, ⟨0x1ee42, 0x1ee42, 1⟩, ⟨0x1ee47, 0x1ee4b, 2⟩,
  ⟨0x1ee4d, 0x1ee4f, 1⟩, ⟨0x1ee51, 0x1ee52, 1⟩, ⟨0x1ee54, 0x1ee54, 1⟩, ⟨0x1ee57, 0x1ee5f, 2⟩,
  ⟨0x1ee61, 0x1ee62, 1⟩, ⟨0x1ee64, 0x1ee64, 1⟩, ⟨0x1ee67, 0x1ee6a, 1⟩, ⟨0x1ee6c, 0x1ee72, 1⟩,
  ⟨0x1ee74, 0x1ee77, 1⟩, ⟨0x1ee79, 0x1ee7c, 1⟩, ⟨0x1ee7e, 0x1ee7e, 1⟩, ⟨0x1ee80, 0x1ee89, 1⟩,
  ⟨0x1ee8b, 0x1ee9b, 1⟩, ⟨0x1eea1, 0x1eea3, 1⟩, ⟨0x1eea5, 0x1eea9, 1⟩, ⟨0x1eeab, 0x1eebb, 1⟩,
  ⟨0x1eef0, 0x1eef1, 1⟩, ⟨0x1f000, 0x1f02b, 1⟩, ⟨0x1f030, 0x1f093, 1⟩, ⟨0x1f0a0, 0x1f0ae, 1⟩,
  ⟨0x1f0b1, 0x1f0bf, 1⟩, ⟨0x1f0c1, 0x1f0cf, 1⟩, ⟨0x1f0d1, 0x1f0f5, 1⟩, ⟨0x1f100, 0x1f1ad, 1⟩,
  ⟨0x1f1e6, 0x1f202, 1⟩, ⟨0x1f210, 0x1f23b, 1⟩, ⟨0x1f240, 0x1f248, 1⟩, ⟨0x1f250, 0x1f251, 1⟩,
  ⟨0x1f260, 0x1f265, 1⟩, ⟨0x1f300, 0x1f6d8, 1⟩, ⟨0x1f6dc, 0x1f6ec, 1⟩, ⟨0x1f6f0, 0x1f6fc, 1⟩,
  ⟨0x1f700, 0x1f7d9, 1⟩, ⟨0x1f7e0, 0x1f7eb, 1⟩, ⟨0x1f7f0, 0x1f7f0, 1⟩, ⟨0x1f800, 0x1f80b, 1⟩,
  ⟨0x1f810, 0x1f847, 1⟩, ⟨0x1f850, 0x1f859, 1⟩, ⟨0x1f860, 0x1f887, 1⟩, ⟨0x1f890, 0x1f8ad, 1⟩,
  ⟨0x1f8b0, 0x1f8bb, 1⟩, ⟨0x1f8c0, 0x1f8c1, 1⟩, ⟨0x1f8d0, 0x1f8d8, 1⟩, ⟨0x1f900, 0x1fa57, 1⟩,
  ⟨0x1fa60, 0x1fa6d, 1⟩, ⟨0x1fa70, 0x1fa7c, 1⟩, ⟨0x1fa80, 0x1fa8a, 1⟩, ⟨0x1fa8e, 0x1fac6, 1⟩,
  ⟨0x1fac8, 0x1fac8, 1⟩, ⟨0x1facd, 0x1fadc, 1⟩, ⟨0x1fadf, 0x1faea, 1⟩, ⟨0x1faef, 0x1faf8, 1⟩,
  ⟨0x1fb00, 0x1fb92, 1⟩, ⟨0x1fb94, 0x1fbfa, 1⟩, ⟨0x20000, 0x2a6df, 1⟩, ⟨0x2a700, 0x2b81d, 1⟩,
  ⟨0x2b820, 0x2cead, 1⟩, ⟨0x2ceb0, 0x2ebe0, 1⟩, ⟨0x2ebf0, 0x2ee5d, 1⟩, ⟨0x2f800, 0x2fa1d, 1⟩,
  ⟨0x30000, 0x3134a, 1⟩, ⟨0x31350, 0x33479, 1⟩, ⟨0xe0100, 0xe01ef, 1⟩]

/-- The marks with the property Grapheme_Extend; none lies below 128. -/
def extendingMarkSpans : List Span := [
  ⟨0x300, 0x36f, 1⟩, ⟨0x483, 0x489, 1⟩, ⟨0x591, 0x5bd, 1⟩, ⟨0x5bf, 0x5bf, 1⟩, ⟨0x5c1, 0x5c2, 1⟩,
  ⟨0x5c4, 0x5c5, 1⟩, ⟨0x5c7, 0x5c7, 1⟩, ⟨0x610, 0x61a, 1⟩, ⟨0x64b, 0x65f, 1⟩, ⟨0x670, 0x670, 1⟩,
  ⟨0x6d6, 0x6dc, 1⟩, ⟨0x6df, 0x6e4, 1⟩, ⟨0x6e7, 0x6e8, 1⟩, ⟨0x6ea, 0x6ed, 1⟩, ⟨0x711, 0x711, 1⟩,
  ⟨0x730, 0x74a, 1⟩, ⟨0x7a6, 0x7b0, 1⟩, ⟨0x7eb, 0x7f3, 1⟩, ⟨0x7fd, 0x7fd, 1⟩, ⟨0x816, 0x819, 1⟩,
  ⟨0x81b, 0x823, 1⟩, ⟨0x825, 0x827, 1⟩, ⟨0x829, 0x82d, 1⟩, ⟨0x859, 0x85b, 1⟩, ⟨0x897, 0x89f, 1⟩,
  ⟨0x8ca, 0x8e1, 1⟩, ⟨0x8e3, 0x902, 1⟩, ⟨0x93a, 0x93a, 1⟩, ⟨0x93c, 0x93c, 1⟩, ⟨0x941, 0x948, 1⟩,
  ⟨0x94d, 0x94d, 1⟩, ⟨0x951, 0x957, 1⟩, ⟨0x962, 0x963, 1⟩, ⟨0x981, 0x981, 1⟩, ⟨0x9bc, 0x9bc, 1⟩,
  ⟨0x9be, 0x9be, 1⟩, ⟨0x9c1, 0x9c4, 1⟩, ⟨0x9cd, 0x9cd, 1⟩, ⟨0x9d7, 0x9d7, 1⟩, ⟨0x9e2, 0x9e3, 1⟩,
  ⟨0x9fe, 0x9fe, 1⟩, ⟨0xa01, 0xa02, 1⟩, ⟨0xa3c, 0xa3c, 1⟩, ⟨0xa41, 0xa42, 1⟩, ⟨0xa47, 0xa48, 1⟩,
  ⟨0xa4b, 0xa4d, 1⟩, ⟨0xa51, 0xa51, 1⟩, ⟨0xa70, 0xa71, 1⟩, ⟨0xa75, 0xa75, 1⟩, ⟨0xa81, 0xa82, 1⟩,
  ⟨0xabc, 0xabc, 1⟩, ⟨0xac1, 0xac5, 1⟩, ⟨0xac7, 0xac8, 1⟩, ⟨0xacd, 0xacd, 1⟩, ⟨0xae2, 0xae3, 1⟩,
  ⟨0xafa, 0xaff, 1⟩, ⟨0xb01, 0xb01, 1⟩, ⟨0xb3c, 0xb3c, 1⟩, ⟨0xb3e, 0xb3f, 1⟩, ⟨0xb41, 0xb44, 1⟩,
  ⟨0xb4d, 0xb4d, 1⟩, ⟨0xb55, 0xb57, 1⟩, ⟨0xb62, 0xb63, 1⟩, ⟨0xb82, 0xb82, 1⟩, ⟨0xbbe, 0xbbe, 1⟩,
  ⟨0xbc0, 0xbc0, 1⟩, ⟨0xbcd, 0xbcd, 1⟩, ⟨0xbd7, 0xbd7, 1⟩, ⟨0xc00, 0xc00, 1⟩, ⟨0xc04, 0xc04, 1⟩,
  ⟨0xc3c, 0xc3c, 1⟩, ⟨0xc3e, 0xc40, 1⟩, ⟨0xc46, 0xc48, 1⟩, ⟨0xc4a, 0xc4d, 1⟩, ⟨0xc55, 0xc56, 1⟩,
  ⟨0xc62, 0xc63, 1⟩, ⟨0xc81, 0xc81, 1⟩, ⟨0xcbc, 0xcbc, 1⟩, ⟨0xcbf, 0xcc0, 1⟩, ⟨0xcc2, 0xcc2, 1⟩,
  ⟨0xcc6, 0xcc8, 1⟩, ⟨0xcca, 0xccd, 1⟩, ⟨0xcd5, 0xcd6, 1⟩, ⟨0xce2, 0xce3, 1⟩, ⟨0xd00, 0xd01, 1⟩,
  ⟨0xd3b, 0xd3c, 1⟩, ⟨0xd3e, 0xd3e, 1⟩, ⟨0xd41, 0xd44, 1⟩, ⟨0xd4d, 0xd4d, 1⟩, ⟨0xd57, 0xd57, 1⟩,
  ⟨0xd62, 0xd63, 1⟩, ⟨0xd81, 0xd81, 1⟩, ⟨0xdca, 0xdca, 1⟩, ⟨0xdcf, 0xdcf, 1⟩, ⟨0xdd2, 0xdd4, 1⟩,
  ⟨0xdd6, 0xdd6, 1⟩, ⟨0xddf, 0xddf, 1⟩, ⟨0xe31, 0xe31, 1⟩, ⟨0xe34, 0xe3a, 1⟩, ⟨0xe47, 0xe4e, 1⟩,
  ⟨0xeb1, 0xeb1, 1⟩, ⟨0xeb4, 0xebc, 1⟩, ⟨0xec8, 0xece, 1⟩, ⟨0xf18, 0xf19, 1⟩, ⟨0xf35, 0xf39, 2⟩,
  ⟨0xf71, 0xf7e, 1⟩, ⟨0xf80, 0xf84, 1⟩, ⟨0xf86, 0xf87, 1⟩, ⟨0xf8d, 0xf97, 1⟩, ⟨0xf99, 0xfbc, 1⟩,
  ⟨0xfc6, 0xfc6, 1⟩, ⟨0x102d, 0x1030, 1⟩, ⟨0x1032, 0x1037, 1⟩, ⟨0x1039, 0x103a, 1⟩, ⟨0x103d, 0x103e, 1⟩,
  ⟨0x1058, 0x1059, 1⟩, ⟨0x105e, 0x1060, 1⟩, ⟨0x1071, 0x1074, 1⟩, ⟨0x1082, 0x1082, 1⟩,
  ⟨0x1085, 0x1086, 1⟩, ⟨0x108d, 0x108d, 1⟩, ⟨0x109d, 0x109d, 1⟩, ⟨0x135d, 0x135f, 1⟩,
  ⟨0x1712, 0x1715, 1⟩, ⟨0x1732, 0x1734, 1⟩, ⟨0x1752, 0x1753, 1⟩, ⟨0x1772, 0x1773, 1⟩,
  ⟨0x17b4, 0x17b5, 1⟩, ⟨0x17b7, 0x17bd, 1⟩, ⟨0x17c6, 0x17c6, 1⟩, ⟨0x17c9, 0x17d3, 1⟩,
  ⟨0x17dd, 0x17dd, 1⟩, ⟨0x180b, 0x180d, 1⟩, ⟨0x180f, 0x180f, 1⟩, ⟨0x1885, 0x1886, 1⟩,
  ⟨0x18a9, 0x18a9, 1⟩, ⟨0x1920, 0x1922, 1⟩, ⟨0x1927, 0x1928, 1⟩, ⟨0x1932, 0x1932, 1⟩,
  ⟨0x1939, 0x193b, 1⟩, ⟨0x1a17, 0x1a18, 1⟩, ⟨0x1a1b, 0x1a1b, 1⟩, ⟨0x1a56, 0x1a56, 1⟩,
  ⟨0x1a58, 0x1a5e, 1⟩, ⟨0x1a60, 0x1a60, 1⟩, ⟨0x1a62, 0x1a62, 1⟩, ⟨0x1a65, 0x1a6c, 1⟩,
  ⟨0x1a73, 0x1a7c, 1⟩, ⟨0x1a7f, 0x1a7f, 1⟩, ⟨0x1ab0, 0x1add, 1⟩, ⟨0x1ae0, 0x1aeb, 1⟩,
  ⟨0x1b00, 0x1b03, 1⟩, ⟨0x1b34, 0x1b3d, 1⟩, ⟨0x1b42, 0x1b44, 1⟩, ⟨0x1b6b, 0x1b73, 1⟩,
  ⟨0x1b80, 0x1b81, 1⟩, ⟨0x1ba2, 0x1ba5, 1⟩, ⟨0x1ba8, 0x1bad, 1⟩, ⟨0x1be6, 0x1be6, 1⟩,
  ⟨0x1be8, 0x1be9, 1⟩, ⟨0x1bed, 0x1bed, 1⟩, ⟨0x1bef, 0x1bf3, 1⟩, ⟨0x1c2c, 0x1c33, 1⟩,
  ⟨0x1c36, 0x1c37, 1⟩, ⟨0x1cd0, 0x1cd2, 1⟩, ⟨0x1cd4, 0x1ce0, 1⟩, ⟨0x1ce2, 0x1ce8, 1⟩,
  ⟨0x1ced, 0x1ced, 1⟩, ⟨0x1cf4, 0x1cf4, 1⟩, ⟨0x1cf8, 0x1cf9, 1⟩, ⟨0x1dc0, 0x1dff, 1⟩,
  ⟨0x20d0, 0x20f0, 1⟩, ⟨0x2cef, 0x2cf1, 1⟩, ⟨0x2d7f, 0x2d7f, 1⟩, ⟨0x2de0, 0x2dff, 1⟩,
  ⟨0x302a, 0x302f, 1⟩, ⟨0x3099, 0x309a, 1⟩, ⟨0xa66f, 0xa672, 1⟩, ⟨0xa674, 0xa67d, 1⟩,
  ⟨0xa69e, 0xa69f, 1⟩, ⟨0xa6f0, 0xa6f1, 1⟩, ⟨0xa802, 0xa802, 1⟩, ⟨0xa806, 0xa806, 1⟩,
  ⟨0xa80b, 0xa80b, 1⟩, ⟨0xa825, 0xa826, 1⟩, ⟨0xa82c, 0xa82c, 1⟩, ⟨0xa8c4, 0xa8c5, 1⟩,
  ⟨0xa8e0, 0xa8f1, 1⟩, ⟨0xa8ff, 0xa8ff, 1⟩, ⟨0xa926, 0xa92d, 1⟩, ⟨0xa947, 0xa951, 1⟩,
  ⟨0xa953, 0xa953, 1⟩, ⟨0xa980, 0xa982, 1⟩, ⟨0xa9b3, 0xa9b3, 1⟩, ⟨0xa9b6, 0xa9b9, 1⟩,
  ⟨0xa9bc, 0xa9bd, 1⟩, ⟨0xa9c0, 0xa9c0, 1⟩, ⟨0xa9e5, 0xa9e5, 1⟩, ⟨0xaa29, 0xaa2e, 1⟩,
  ⟨0xaa31, 0xaa32, 1⟩, ⟨0xaa35, 0xaa36, 1⟩, ⟨0xaa43, 0xaa43, 1⟩, ⟨0xaa4c, 0xaa4c, 1⟩,
  ⟨0xaa7c, 0xaa7c, 1⟩, ⟨0xaab0, 0xaab0, 1⟩, ⟨0xaab2, 0xaab4, 1⟩, ⟨0xaab7, 0xaab8, 1⟩,
  ⟨0xaabe, 0xaabf, 1⟩, ⟨0xaac1, 0xaac1, 1⟩, ⟨0xaaec, 0xaaed, 1⟩, ⟨0xaaf6, 0xaaf6, 1⟩,
  ⟨0xabe5, 0xabe5, 1⟩, ⟨0xabe8, 0xabe8, 1⟩, ⟨0xabed, 0xabed, 1⟩, ⟨0xfb1e, 0xfb1e, 1⟩,
  ⟨0xfe00, 0xfe0f, 1⟩, ⟨0xfe20, 0xfe2f, 1⟩, ⟨0x101fd, 0x101fd, 1⟩, ⟨0x102e0, 0x102e0, 1⟩,
  ⟨0x10376, 0x1037a, 1⟩, ⟨0x10a01, 0x10a03, 1⟩, ⟨0x10a05, 0x10a06, 1⟩, ⟨0x10a0c, 0x10a0f, 1⟩,
  ⟨0x10a38, 0x10a3a, 1⟩, ⟨0x10a3f, 0x10a3f, 1⟩, ⟨0x10ae5, 0x10ae6, 1⟩, ⟨0x10d24, 0x10d27, 1⟩,
  ⟨0x10d69, 0x10d6d, 1⟩, ⟨0x10eab, 0x10eac, 1⟩, ⟨0x10efa, 0x10eff, 1⟩, ⟨0x10f46, 0x10f50, 1⟩,
  ⟨0x10f82, 0x10f85, 1⟩, ⟨0x11001, 0x11001, 1⟩, ⟨0x11038, 0x11046, 1⟩, ⟨0x11070, 0x11070, 1⟩,
  ⟨0x11073, 0x11074, 1⟩, ⟨0x1107f, 0x11081, 1⟩, ⟨0x110b3, 0x110b6, 1⟩, ⟨0x110b9, 0x110ba, 1⟩,
  ⟨0x110c2, 0x110c2, 1⟩, ⟨0x11100, 0x11102, 1⟩, ⟨0x11127, 0x1112b, 1⟩, ⟨0x1112d, 0x11134, 1⟩,
  ⟨0x11173, 0x11173, 1⟩, ⟨0x11180, 0x11181, 1⟩, ⟨0x111b6, 0x111be, 1⟩, ⟨0x111c0, 0x111c0, 1⟩,
  ⟨0x111c9, 0x111cc, 1⟩, ⟨0x111cf, 0x111cf, 1⟩, ⟨0x1122f, 0x11231, 1⟩, ⟨0x11234, 0x11237, 1⟩,
  ⟨0x1123e, 0x1123e, 1⟩, ⟨0x11241, 0x11241, 1⟩, ⟨0x112df, 0x112df, 1⟩, ⟨0x112e3, 0x112ea, 1⟩,
  ⟨0x11300, 0x11301, 1⟩, ⟨0x1133b, 0x1133c, 1⟩, ⟨0x1133e, 0x1133e, 1⟩, ⟨0x11340, 0x11340, 1⟩,
  ⟨0x1134d, 0x1134d, 1⟩, ⟨0x11357, 0x11357, 1⟩, ⟨0x11366, 0x1136c, 1⟩, ⟨0x11370, 0x11374, 1⟩,
  ⟨0x113b8, 0x113b8, 1⟩, ⟨0x113bb, 0x113c0, 1⟩, ⟨0x113c2, 0x113c2, 1⟩, ⟨0x113c5, 0x113c5, 1⟩,
  ⟨0x113c7, 0x113c9, 1⟩, ⟨0x113ce, 0x113d0, 1⟩, ⟨0x113d2, 0x113d2, 1⟩, ⟨0x113e1, 0x113e2, 1⟩,
  ⟨0x11438, 0x1143f, 1⟩, ⟨0x11442, 0x11444, 1⟩, ⟨0x11446, 0x11446, 1⟩, ⟨0x1145e, 0x1145e, 1⟩,
  ⟨0x114b0, 0x114b0, 1⟩, ⟨0x114b3, 0x114b8, 1⟩, ⟨0x114ba, 0x114ba, 1⟩, ⟨0x114bd, 0x114bd, 1⟩,
  ⟨0x114bf, 0x114c0, 1⟩, ⟨0x114c2, 0x114c3, 1⟩, ⟨0x115af, 0x115af, 1⟩, ⟨0x115b2, 0x115b5, 1⟩,
  ⟨0x115bc, 0x115bd, 1⟩, ⟨0x115bf, 0x115c0, 1⟩, ⟨0x115dc, 0x115dd, 1⟩, ⟨0x11633, 0x1163a, 1⟩,
  ⟨0x1163d, 0x1163d, 1⟩, ⟨0x1163f, 0x11640, 1⟩, ⟨0x116ab, 0x116ab, 1⟩, ⟨0x116ad, 0x116ad, 1⟩,
  ⟨0x116b0, 0x116b7, 1⟩, ⟨0x1171d, 0x1171d, 1⟩, ⟨0x1171f, 0x1171f, 1⟩, ⟨0x11722, 0x11725, 1⟩,
  ⟨0x11727, 0x1172b, 1⟩, ⟨0x1182f, 0x11837, 1⟩, ⟨0x11839, 0x1183a, 1⟩, ⟨0x11930, 0x11930, 1⟩,
  ⟨0x1193b, 0x1193e, 1⟩, ⟨0x11943, 0x11943, 1⟩, ⟨0x119d4, 0x119d7, 1⟩, ⟨0x119da, 0x119db, 1⟩,
  ⟨0x119e0, 0x119e0, 1⟩, ⟨0x11a01, 0x11a0a, 1⟩, ⟨0x11a33, 0x11a38, 1⟩, ⟨0x11a3b, 0x11a3e, 1⟩,
  ⟨0x11a47, 0x11a47, 1⟩, ⟨0x11a51, 0x11a56, 1⟩, ⟨0x11a59, 0x11a5b, 1⟩, ⟨0x11a8a, 0x11a96, 1⟩,
  ⟨0x11a98, 0x11a99, 1⟩, ⟨0x11b60, 0x11b60, 1⟩, ⟨0x11b62, 0x11b64, 1⟩, ⟨0x11b66, 0x11b66, 1⟩,
  ⟨0x11c30, 0x11c36, 1⟩, ⟨0x11c38, 0x11c3d, 1⟩, ⟨0x11c3f, 0x11c3f, 1⟩, ⟨0x11c92, 0x11ca7, 1⟩,
  ⟨0x11caa, 0x11cb0, 1⟩, ⟨0x11cb2, 0x11cb3, 1⟩, ⟨0x11cb5, 0x11cb6, 1⟩, ⟨0x11d31, 0x11d36, 1⟩,
  ⟨0x11d3a, 0x11d3a, 1⟩, ⟨0x11d3c, 0x11d3d, 1⟩, ⟨0x11d3f, 0x11d45, 1⟩, ⟨0x11d47, 0x11d47, 1⟩,
  ⟨0x11d90, 0x11d91, 1⟩, ⟨0x11d95, 0x11d95, 1⟩, ⟨0x11d97, 0x11d97, 1⟩, ⟨0x11ef3, 0x11ef4, 1⟩,
  ⟨0x11f00, 0x11f01, 1⟩, ⟨0x11f36, 0x11f3a, 1⟩, ⟨0x11f40, 0x11f42, 1⟩, ⟨0x11f5a, 0x11f5a, 1⟩,
  ⟨0x13440, 0x13440, 1⟩, ⟨0x13447, 0x13455, 1⟩, ⟨0x1611e, 0x16129, 1⟩, ⟨0x1612d, 0x1612f, 1⟩,
  ⟨0x16af0, 0x16af4, 1⟩, ⟨0x16b30, 0x16b36, 1⟩, ⟨0x16f4f, 0x16f4f, 1⟩, ⟨0x16f8f, 0x16f92, 1⟩,
  ⟨0x16fe4, 0x16fe4, 1⟩, ⟨0x16ff0, 0x16ff1, 1⟩, ⟨0x1bc9d, 0x1bc9e, 1⟩, ⟨0x1cf00, 0x1cf2d, 1⟩,
  ⟨0x1cf30, 0x1cf46, 1⟩, ⟨0x1d165, 0x1d169, 1⟩, ⟨0x1d16d, 0x1d172, 1⟩, ⟨0x1d17b, 0x1d182, 1⟩,
  ⟨0x1d185, 0x1d18b, 1⟩, ⟨0x1d1aa, 0x1d1ad, 1⟩, ⟨0x1d242, 0x1d244, 1⟩, ⟨0x1da00, 0x1da36, 1⟩,
  ⟨0x1da3b, 0x1da6c, 1⟩, ⟨0x1da75, 0x1da75, 1⟩, ⟨0x1da84, 0x1da84, 1⟩, ⟨0x1da9b, 0x1da9f, 1⟩,
  ⟨0x1daa1, 0x1daaf, 1⟩, ⟨0x1e000, 0x1e006, 1⟩, ⟨0x1e008, 0x1e018, 1⟩, ⟨0x1e01b, 0x1e021, 1⟩,
  ⟨0x1e023, 0x1e024, 1⟩, ⟨0x1e026, 0x1e02a, 1⟩, ⟨0x1e08f, 0x1e08f, 1⟩, ⟨0x1e130, 0x1e136, 1⟩,
  ⟨0x1e2ae, 0x1e2ae, 1⟩, ⟨0x1e2ec, 0x1e2ef, 1⟩, ⟨0x1e4ec, 0x1e4ef, 1⟩, ⟨0x1e5ee, 0x1e5ef, 1⟩,
  ⟨0x1e6e3, 0x1e6e3, 1⟩, ⟨0x1e6e6, 0x1e6e6, 1⟩, ⟨0x1e6ee, 0x1e6ef, 1⟩, ⟨0x1e6f5, 0x1e6f5, 1⟩,
  ⟨0x1e8d0, 0x1e8d6, 1⟩, ⟨0x1e944, 0x1e94a, 1⟩, ⟨0xe0100, 0xe01ef, 1⟩]

/-- Whether a character is of a graphic category. -/
def isGraphic (c : Char) : Bool :=
  if c.toNat < 128 then 0x20 < c.toNat && c.toNat < 0x7f
  else graphicSpans.any (·.contains c.toNat)

/-- Whether a character is a mark that attaches to the character before it. -/
def isExtendingMark (c : Char) : Bool :=
  if c.toNat < 128 then false else extendingMarkSpans.any (·.contains c.toNat)

/-- Whether a character is a letter that only fills the place of a missing one. These are the letters with the
property Default_Ignorable_Code_Point. -/
def isFiller (c : Char) : Bool :=
  [0x115f, 0x1160, 0x3164, 0xffa0].contains c.toNat

/-- Whether a reader can tell what a character is when it is shown as itself. -/
def isLegible (c : Char) : Bool :=
  isGraphic c && !isFiller c && !isExtendingMark c

end ProtoSwift.Unicode
