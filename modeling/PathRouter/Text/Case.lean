import PathRouter.Text.CodePointSet

/-!
# Case maps

The lower and upper case of single code points, after version 14 of the
Unicode character database.  Where the full map of a code point has several
members, its first one is taken, so that both maps go from code points to code
points.

Two code points may be spellings of one letter although their lower cases
differ, such as the two lower-case sigmas.  The table of other spellings pairs
each such lower-case code point with its equals.
-/

namespace PathRouter
namespace Text

/-- The runs of code points with a lower case of their own. -/
def lowerRuns : Array CaseRun :=
  #[
    ⟨0x41, 1, 26, 32⟩, ⟨0xc0, 1, 23, 32⟩, ⟨0xd8, 1, 7, 32⟩, ⟨0x100, 2, 24, 1⟩,
    ⟨0x130, 1, 1, -199⟩, ⟨0x132, 2, 3, 1⟩, ⟨0x139, 2, 8, 1⟩, ⟨0x14a, 2, 23, 1⟩,
    ⟨0x178, 1, 1, -121⟩, ⟨0x179, 2, 3, 1⟩, ⟨0x181, 1, 1, 210⟩, ⟨0x182, 2, 2, 1⟩,
    ⟨0x186, 1, 1, 206⟩, ⟨0x187, 1, 1, 1⟩, ⟨0x189, 1, 2, 205⟩, ⟨0x18b, 1, 1, 1⟩,
    ⟨0x18e, 1, 1, 79⟩, ⟨0x18f, 1, 1, 202⟩, ⟨0x190, 1, 1, 203⟩, ⟨0x191, 1, 1, 1⟩,
    ⟨0x193, 1, 1, 205⟩, ⟨0x194, 1, 1, 207⟩, ⟨0x196, 1, 1, 211⟩,
    ⟨0x197, 1, 1, 209⟩, ⟨0x198, 1, 1, 1⟩, ⟨0x19c, 1, 1, 211⟩,
    ⟨0x19d, 1, 1, 213⟩, ⟨0x19f, 1, 1, 214⟩, ⟨0x1a0, 2, 3, 1⟩,
    ⟨0x1a6, 1, 1, 218⟩, ⟨0x1a7, 1, 1, 1⟩, ⟨0x1a9, 1, 1, 218⟩, ⟨0x1ac, 1, 1, 1⟩,
    ⟨0x1ae, 1, 1, 218⟩, ⟨0x1af, 1, 1, 1⟩, ⟨0x1b1, 1, 2, 217⟩, ⟨0x1b3, 2, 2, 1⟩,
    ⟨0x1b7, 1, 1, 219⟩, ⟨0x1b8, 1, 1, 1⟩, ⟨0x1bc, 1, 1, 1⟩, ⟨0x1c4, 1, 1, 2⟩,
    ⟨0x1c5, 1, 1, 1⟩, ⟨0x1c7, 1, 1, 2⟩, ⟨0x1c8, 1, 1, 1⟩, ⟨0x1ca, 1, 1, 2⟩,
    ⟨0x1cb, 2, 9, 1⟩, ⟨0x1de, 2, 9, 1⟩, ⟨0x1f1, 1, 1, 2⟩, ⟨0x1f2, 2, 2, 1⟩,
    ⟨0x1f6, 1, 1, -97⟩, ⟨0x1f7, 1, 1, -56⟩, ⟨0x1f8, 2, 20, 1⟩,
    ⟨0x220, 1, 1, -130⟩, ⟨0x222, 2, 9, 1⟩, ⟨0x23a, 1, 1, 10795⟩,
    ⟨0x23b, 1, 1, 1⟩, ⟨0x23d, 1, 1, -163⟩, ⟨0x23e, 1, 1, 10792⟩,
    ⟨0x241, 1, 1, 1⟩, ⟨0x243, 1, 1, -195⟩, ⟨0x244, 1, 1, 69⟩, ⟨0x245, 1, 1, 71⟩,
    ⟨0x246, 2, 5, 1⟩, ⟨0x370, 2, 2, 1⟩, ⟨0x376, 1, 1, 1⟩, ⟨0x37f, 1, 1, 116⟩,
    ⟨0x386, 1, 1, 38⟩, ⟨0x388, 1, 3, 37⟩, ⟨0x38c, 1, 1, 64⟩, ⟨0x38e, 1, 2, 63⟩,
    ⟨0x391, 1, 17, 32⟩, ⟨0x3a3, 1, 9, 32⟩, ⟨0x3cf, 1, 1, 8⟩, ⟨0x3d8, 2, 12, 1⟩,
    ⟨0x3f4, 1, 1, -60⟩, ⟨0x3f7, 1, 1, 1⟩, ⟨0x3f9, 1, 1, -7⟩, ⟨0x3fa, 1, 1, 1⟩,
    ⟨0x3fd, 1, 3, -130⟩, ⟨0x400, 1, 16, 80⟩, ⟨0x410, 1, 32, 32⟩,
    ⟨0x460, 2, 17, 1⟩, ⟨0x48a, 2, 27, 1⟩, ⟨0x4c0, 1, 1, 15⟩, ⟨0x4c1, 2, 7, 1⟩,
    ⟨0x4d0, 2, 48, 1⟩, ⟨0x531, 1, 38, 48⟩, ⟨0x10a0, 1, 38, 7264⟩,
    ⟨0x10c7, 1, 1, 7264⟩, ⟨0x10cd, 1, 1, 7264⟩, ⟨0x13a0, 1, 80, 38864⟩,
    ⟨0x13f0, 1, 6, 8⟩, ⟨0x1c90, 1, 43, -3008⟩, ⟨0x1cbd, 1, 3, -3008⟩,
    ⟨0x1e00, 2, 75, 1⟩, ⟨0x1e9e, 1, 1, -7615⟩, ⟨0x1ea0, 2, 48, 1⟩,
    ⟨0x1f08, 1, 8, -8⟩, ⟨0x1f18, 1, 6, -8⟩, ⟨0x1f28, 1, 8, -8⟩,
    ⟨0x1f38, 1, 8, -8⟩, ⟨0x1f48, 1, 6, -8⟩, ⟨0x1f59, 2, 4, -8⟩,
    ⟨0x1f68, 1, 8, -8⟩, ⟨0x1f88, 1, 8, -8⟩, ⟨0x1f98, 1, 8, -8⟩,
    ⟨0x1fa8, 1, 8, -8⟩, ⟨0x1fb8, 1, 2, -8⟩, ⟨0x1fba, 1, 2, -74⟩,
    ⟨0x1fbc, 1, 1, -9⟩, ⟨0x1fc8, 1, 4, -86⟩, ⟨0x1fcc, 1, 1, -9⟩,
    ⟨0x1fd8, 1, 2, -8⟩, ⟨0x1fda, 1, 2, -100⟩, ⟨0x1fe8, 1, 2, -8⟩,
    ⟨0x1fea, 1, 2, -112⟩, ⟨0x1fec, 1, 1, -7⟩, ⟨0x1ff8, 1, 2, -128⟩,
    ⟨0x1ffa, 1, 2, -126⟩, ⟨0x1ffc, 1, 1, -9⟩, ⟨0x2126, 1, 1, -7517⟩,
    ⟨0x212a, 1, 1, -8383⟩, ⟨0x212b, 1, 1, -8262⟩, ⟨0x2132, 1, 1, 28⟩,
    ⟨0x2160, 1, 16, 16⟩, ⟨0x2183, 1, 1, 1⟩, ⟨0x24b6, 1, 26, 26⟩,
    ⟨0x2c00, 1, 48, 48⟩, ⟨0x2c60, 1, 1, 1⟩, ⟨0x2c62, 1, 1, -10743⟩,
    ⟨0x2c63, 1, 1, -3814⟩, ⟨0x2c64, 1, 1, -10727⟩, ⟨0x2c67, 2, 3, 1⟩,
    ⟨0x2c6d, 1, 1, -10780⟩, ⟨0x2c6e, 1, 1, -10749⟩, ⟨0x2c6f, 1, 1, -10783⟩,
    ⟨0x2c70, 1, 1, -10782⟩, ⟨0x2c72, 1, 1, 1⟩, ⟨0x2c75, 1, 1, 1⟩,
    ⟨0x2c7e, 1, 2, -10815⟩, ⟨0x2c80, 2, 50, 1⟩, ⟨0x2ceb, 2, 2, 1⟩,
    ⟨0x2cf2, 1, 1, 1⟩, ⟨0xa640, 2, 23, 1⟩, ⟨0xa680, 2, 14, 1⟩,
    ⟨0xa722, 2, 7, 1⟩, ⟨0xa732, 2, 31, 1⟩, ⟨0xa779, 2, 2, 1⟩,
    ⟨0xa77d, 1, 1, -35332⟩, ⟨0xa77e, 2, 5, 1⟩, ⟨0xa78b, 1, 1, 1⟩,
    ⟨0xa78d, 1, 1, -42280⟩, ⟨0xa790, 2, 2, 1⟩, ⟨0xa796, 2, 10, 1⟩,
    ⟨0xa7aa, 1, 1, -42308⟩, ⟨0xa7ab, 1, 1, -42319⟩, ⟨0xa7ac, 1, 1, -42315⟩,
    ⟨0xa7ad, 1, 1, -42305⟩, ⟨0xa7ae, 1, 1, -42308⟩, ⟨0xa7b0, 1, 1, -42258⟩,
    ⟨0xa7b1, 1, 1, -42282⟩, ⟨0xa7b2, 1, 1, -42261⟩, ⟨0xa7b3, 1, 1, 928⟩,
    ⟨0xa7b4, 2, 8, 1⟩, ⟨0xa7c4, 1, 1, -48⟩, ⟨0xa7c5, 1, 1, -42307⟩,
    ⟨0xa7c6, 1, 1, -35384⟩, ⟨0xa7c7, 2, 2, 1⟩, ⟨0xa7d0, 1, 1, 1⟩,
    ⟨0xa7d6, 2, 2, 1⟩, ⟨0xa7f5, 1, 1, 1⟩, ⟨0xff21, 1, 26, 32⟩,
    ⟨0x10400, 1, 40, 40⟩, ⟨0x104b0, 1, 36, 40⟩, ⟨0x10570, 1, 11, 39⟩,
    ⟨0x1057c, 1, 15, 39⟩, ⟨0x1058c, 1, 7, 39⟩, ⟨0x10594, 1, 2, 39⟩,
    ⟨0x10c80, 1, 51, 64⟩, ⟨0x118a0, 1, 32, 32⟩, ⟨0x16e40, 1, 32, 32⟩,
    ⟨0x1e900, 1, 34, 34⟩]

/-- The runs of code points with an upper case of their own. -/
def upperRuns : Array CaseRun :=
  #[
    ⟨0x61, 1, 26, -32⟩, ⟨0xb5, 1, 1, 743⟩, ⟨0xdf, 1, 1, -140⟩,
    ⟨0xe0, 1, 23, -32⟩, ⟨0xf8, 1, 7, -32⟩, ⟨0xff, 1, 1, 121⟩,
    ⟨0x101, 2, 24, -1⟩, ⟨0x131, 1, 1, -232⟩, ⟨0x133, 2, 3, -1⟩,
    ⟨0x13a, 2, 8, -1⟩, ⟨0x149, 1, 1, 371⟩, ⟨0x14b, 2, 23, -1⟩,
    ⟨0x17a, 2, 3, -1⟩, ⟨0x17f, 1, 1, -300⟩, ⟨0x180, 1, 1, 195⟩,
    ⟨0x183, 2, 2, -1⟩, ⟨0x188, 1, 1, -1⟩, ⟨0x18c, 1, 1, -1⟩, ⟨0x192, 1, 1, -1⟩,
    ⟨0x195, 1, 1, 97⟩, ⟨0x199, 1, 1, -1⟩, ⟨0x19a, 1, 1, 163⟩,
    ⟨0x19e, 1, 1, 130⟩, ⟨0x1a1, 2, 3, -1⟩, ⟨0x1a8, 1, 1, -1⟩, ⟨0x1ad, 1, 1, -1⟩,
    ⟨0x1b0, 1, 1, -1⟩, ⟨0x1b4, 2, 2, -1⟩, ⟨0x1b9, 1, 1, -1⟩, ⟨0x1bd, 1, 1, -1⟩,
    ⟨0x1bf, 1, 1, 56⟩, ⟨0x1c5, 1, 1, -1⟩, ⟨0x1c6, 1, 1, -2⟩, ⟨0x1c8, 1, 1, -1⟩,
    ⟨0x1c9, 1, 1, -2⟩, ⟨0x1cb, 1, 1, -1⟩, ⟨0x1cc, 1, 1, -2⟩, ⟨0x1ce, 2, 8, -1⟩,
    ⟨0x1dd, 1, 1, -79⟩, ⟨0x1df, 2, 9, -1⟩, ⟨0x1f0, 1, 1, -422⟩,
    ⟨0x1f2, 1, 1, -1⟩, ⟨0x1f3, 1, 1, -2⟩, ⟨0x1f5, 1, 1, -1⟩, ⟨0x1f9, 2, 20, -1⟩,
    ⟨0x223, 2, 9, -1⟩, ⟨0x23c, 1, 1, -1⟩, ⟨0x23f, 1, 2, 10815⟩,
    ⟨0x242, 1, 1, -1⟩, ⟨0x247, 2, 5, -1⟩, ⟨0x250, 1, 1, 10783⟩,
    ⟨0x251, 1, 1, 10780⟩, ⟨0x252, 1, 1, 10782⟩, ⟨0x253, 1, 1, -210⟩,
    ⟨0x254, 1, 1, -206⟩, ⟨0x256, 1, 2, -205⟩, ⟨0x259, 1, 1, -202⟩,
    ⟨0x25b, 1, 1, -203⟩, ⟨0x25c, 1, 1, 42319⟩, ⟨0x260, 1, 1, -205⟩,
    ⟨0x261, 1, 1, 42315⟩, ⟨0x263, 1, 1, -207⟩, ⟨0x265, 1, 1, 42280⟩,
    ⟨0x266, 1, 1, 42308⟩, ⟨0x268, 1, 1, -209⟩, ⟨0x269, 1, 1, -211⟩,
    ⟨0x26a, 1, 1, 42308⟩, ⟨0x26b, 1, 1, 10743⟩, ⟨0x26c, 1, 1, 42305⟩,
    ⟨0x26f, 1, 1, -211⟩, ⟨0x271, 1, 1, 10749⟩, ⟨0x272, 1, 1, -213⟩,
    ⟨0x275, 1, 1, -214⟩, ⟨0x27d, 1, 1, 10727⟩, ⟨0x280, 1, 1, -218⟩,
    ⟨0x282, 1, 1, 42307⟩, ⟨0x283, 1, 1, -218⟩, ⟨0x287, 1, 1, 42282⟩,
    ⟨0x288, 1, 1, -218⟩, ⟨0x289, 1, 1, -69⟩, ⟨0x28a, 1, 2, -217⟩,
    ⟨0x28c, 1, 1, -71⟩, ⟨0x292, 1, 1, -219⟩, ⟨0x29d, 1, 1, 42261⟩,
    ⟨0x29e, 1, 1, 42258⟩, ⟨0x345, 1, 1, 84⟩, ⟨0x371, 2, 2, -1⟩,
    ⟨0x377, 1, 1, -1⟩, ⟨0x37b, 1, 3, 130⟩, ⟨0x390, 1, 1, 9⟩, ⟨0x3ac, 1, 1, -38⟩,
    ⟨0x3ad, 1, 3, -37⟩, ⟨0x3b0, 1, 1, -11⟩, ⟨0x3b1, 1, 17, -32⟩,
    ⟨0x3c2, 1, 1, -31⟩, ⟨0x3c3, 1, 9, -32⟩, ⟨0x3cc, 1, 1, -64⟩,
    ⟨0x3cd, 1, 2, -63⟩, ⟨0x3d0, 1, 1, -62⟩, ⟨0x3d1, 1, 1, -57⟩,
    ⟨0x3d5, 1, 1, -47⟩, ⟨0x3d6, 1, 1, -54⟩, ⟨0x3d7, 1, 1, -8⟩,
    ⟨0x3d9, 2, 12, -1⟩, ⟨0x3f0, 1, 1, -86⟩, ⟨0x3f1, 1, 1, -80⟩,
    ⟨0x3f2, 1, 1, 7⟩, ⟨0x3f3, 1, 1, -116⟩, ⟨0x3f5, 1, 1, -96⟩,
    ⟨0x3f8, 1, 1, -1⟩, ⟨0x3fb, 1, 1, -1⟩, ⟨0x430, 1, 32, -32⟩,
    ⟨0x450, 1, 16, -80⟩, ⟨0x461, 2, 17, -1⟩, ⟨0x48b, 2, 27, -1⟩,
    ⟨0x4c2, 2, 7, -1⟩, ⟨0x4cf, 1, 1, -15⟩, ⟨0x4d1, 2, 48, -1⟩,
    ⟨0x561, 1, 38, -48⟩, ⟨0x587, 1, 1, -82⟩, ⟨0x10d0, 1, 43, 3008⟩,
    ⟨0x10fd, 1, 3, 3008⟩, ⟨0x13f8, 1, 6, -8⟩, ⟨0x1c80, 1, 1, -6254⟩,
    ⟨0x1c81, 1, 1, -6253⟩, ⟨0x1c82, 1, 1, -6244⟩, ⟨0x1c83, 1, 2, -6242⟩,
    ⟨0x1c85, 1, 1, -6243⟩, ⟨0x1c86, 1, 1, -6236⟩, ⟨0x1c87, 1, 1, -6181⟩,
    ⟨0x1c88, 1, 1, 35266⟩, ⟨0x1d79, 1, 1, 35332⟩, ⟨0x1d7d, 1, 1, 3814⟩,
    ⟨0x1d8e, 1, 1, 35384⟩, ⟨0x1e01, 2, 75, -1⟩, ⟨0x1e96, 1, 1, -7758⟩,
    ⟨0x1e97, 1, 1, -7747⟩, ⟨0x1e98, 1, 1, -7745⟩, ⟨0x1e99, 1, 1, -7744⟩,
    ⟨0x1e9a, 1, 1, -7769⟩, ⟨0x1e9b, 1, 1, -59⟩, ⟨0x1ea1, 2, 48, -1⟩,
    ⟨0x1f00, 1, 8, 8⟩, ⟨0x1f10, 1, 6, 8⟩, ⟨0x1f20, 1, 8, 8⟩, ⟨0x1f30, 1, 8, 8⟩,
    ⟨0x1f40, 1, 6, 8⟩, ⟨0x1f50, 1, 1, -7083⟩, ⟨0x1f51, 1, 1, 8⟩,
    ⟨0x1f52, 1, 1, -7085⟩, ⟨0x1f53, 1, 1, 8⟩, ⟨0x1f54, 1, 1, -7087⟩,
    ⟨0x1f55, 1, 1, 8⟩, ⟨0x1f56, 1, 1, -7089⟩, ⟨0x1f57, 1, 1, 8⟩,
    ⟨0x1f60, 1, 8, 8⟩, ⟨0x1f70, 1, 2, 74⟩, ⟨0x1f72, 1, 4, 86⟩,
    ⟨0x1f76, 1, 2, 100⟩, ⟨0x1f78, 1, 2, 128⟩, ⟨0x1f7a, 1, 2, 112⟩,
    ⟨0x1f7c, 1, 2, 126⟩, ⟨0x1f80, 1, 8, -120⟩, ⟨0x1f88, 1, 8, -128⟩,
    ⟨0x1f90, 1, 8, -104⟩, ⟨0x1f98, 1, 8, -112⟩, ⟨0x1fa0, 1, 8, -56⟩,
    ⟨0x1fa8, 1, 8, -64⟩, ⟨0x1fb0, 1, 3, 8⟩, ⟨0x1fb3, 1, 1, -7202⟩,
    ⟨0x1fb4, 1, 1, -7214⟩, ⟨0x1fb6, 1, 1, -7205⟩, ⟨0x1fb7, 1, 1, -7206⟩,
    ⟨0x1fbc, 1, 1, -7211⟩, ⟨0x1fbe, 1, 1, -7205⟩, ⟨0x1fc2, 1, 1, 8⟩,
    ⟨0x1fc3, 1, 1, -7212⟩, ⟨0x1fc4, 1, 1, -7227⟩, ⟨0x1fc6, 1, 1, -7215⟩,
    ⟨0x1fc7, 1, 1, -7216⟩, ⟨0x1fcc, 1, 1, -7221⟩, ⟨0x1fd0, 1, 2, 8⟩,
    ⟨0x1fd2, 1, 1, -7225⟩, ⟨0x1fd3, 1, 1, -7226⟩, ⟨0x1fd6, 1, 1, -7229⟩,
    ⟨0x1fd7, 1, 1, -7230⟩, ⟨0x1fe0, 1, 2, 8⟩, ⟨0x1fe2, 1, 1, -7229⟩,
    ⟨0x1fe3, 1, 1, -7230⟩, ⟨0x1fe4, 1, 1, -7235⟩, ⟨0x1fe5, 1, 1, 7⟩,
    ⟨0x1fe6, 1, 1, -7233⟩, ⟨0x1fe7, 1, 1, -7234⟩, ⟨0x1ff2, 1, 1, 8⟩,
    ⟨0x1ff3, 1, 1, -7242⟩, ⟨0x1ff4, 1, 1, -7269⟩, ⟨0x1ff6, 1, 1, -7245⟩,
    ⟨0x1ff7, 1, 1, -7246⟩, ⟨0x1ffc, 1, 1, -7251⟩, ⟨0x214e, 1, 1, -28⟩,
    ⟨0x2170, 1, 16, -16⟩, ⟨0x2184, 1, 1, -1⟩, ⟨0x24d0, 1, 26, -26⟩,
    ⟨0x2c30, 1, 48, -48⟩, ⟨0x2c61, 1, 1, -1⟩, ⟨0x2c65, 1, 1, -10795⟩,
    ⟨0x2c66, 1, 1, -10792⟩, ⟨0x2c68, 2, 3, -1⟩, ⟨0x2c73, 1, 1, -1⟩,
    ⟨0x2c76, 1, 1, -1⟩, ⟨0x2c81, 2, 50, -1⟩, ⟨0x2cec, 2, 2, -1⟩,
    ⟨0x2cf3, 1, 1, -1⟩, ⟨0x2d00, 1, 38, -7264⟩, ⟨0x2d27, 1, 1, -7264⟩,
    ⟨0x2d2d, 1, 1, -7264⟩, ⟨0xa641, 2, 23, -1⟩, ⟨0xa681, 2, 14, -1⟩,
    ⟨0xa723, 2, 7, -1⟩, ⟨0xa733, 2, 31, -1⟩, ⟨0xa77a, 2, 2, -1⟩,
    ⟨0xa77f, 2, 5, -1⟩, ⟨0xa78c, 1, 1, -1⟩, ⟨0xa791, 2, 2, -1⟩,
    ⟨0xa794, 1, 1, 48⟩, ⟨0xa797, 2, 10, -1⟩, ⟨0xa7b5, 2, 8, -1⟩,
    ⟨0xa7c8, 2, 2, -1⟩, ⟨0xa7d1, 1, 1, -1⟩, ⟨0xa7d7, 2, 2, -1⟩,
    ⟨0xa7f6, 1, 1, -1⟩, ⟨0xab53, 1, 1, -928⟩, ⟨0xab70, 1, 80, -38864⟩,
    ⟨0xfb00, 1, 1, -64186⟩, ⟨0xfb01, 1, 1, -64187⟩, ⟨0xfb02, 1, 1, -64188⟩,
    ⟨0xfb03, 1, 1, -64189⟩, ⟨0xfb04, 1, 1, -64190⟩, ⟨0xfb05, 1, 1, -64178⟩,
    ⟨0xfb06, 1, 1, -64179⟩, ⟨0xfb13, 1, 1, -62927⟩, ⟨0xfb14, 1, 1, -62928⟩,
    ⟨0xfb15, 1, 1, -62929⟩, ⟨0xfb16, 1, 1, -62920⟩, ⟨0xfb17, 1, 1, -62931⟩,
    ⟨0xff41, 1, 26, -32⟩, ⟨0x10428, 1, 40, -40⟩, ⟨0x104d8, 1, 36, -40⟩,
    ⟨0x10597, 1, 11, -39⟩, ⟨0x105a3, 1, 15, -39⟩, ⟨0x105b3, 1, 7, -39⟩,
    ⟨0x105bb, 1, 2, -39⟩, ⟨0x10cc0, 1, 51, -64⟩, ⟨0x118c0, 1, 32, -32⟩,
    ⟨0x16e60, 1, 32, -32⟩, ⟨0x1e922, 1, 34, -34⟩]

/-- The code points with further spellings, in ascending order. -/
def otherSpellings : Array (CodePoint × List CodePoint) :=
  #[
    (0x69, [0x131]), (0x73, [0x17f]), (0xb5, [0x3bc]), (0x131, [0x69]),
    (0x17f, [0x73]), (0x345, [0x3b9, 0x1fbe]), (0x390, [0x1fd3]),
    (0x3b0, [0x1fe3]), (0x3b2, [0x3d0]), (0x3b5, [0x3f5]), (0x3b8, [0x3d1]),
    (0x3b9, [0x345, 0x1fbe]), (0x3ba, [0x3f0]), (0x3bc, [0xb5]),
    (0x3c0, [0x3d6]), (0x3c1, [0x3f1]), (0x3c2, [0x3c3]), (0x3c3, [0x3c2]),
    (0x3c6, [0x3d5]), (0x3d0, [0x3b2]), (0x3d1, [0x3b8]), (0x3d5, [0x3c6]),
    (0x3d6, [0x3c0]), (0x3f0, [0x3ba]), (0x3f1, [0x3c1]), (0x3f5, [0x3b5]),
    (0x432, [0x1c80]), (0x434, [0x1c81]), (0x43e, [0x1c82]), (0x441, [0x1c83]),
    (0x442, [0x1c84, 0x1c85]), (0x44a, [0x1c86]), (0x463, [0x1c87]),
    (0x1c80, [0x432]), (0x1c81, [0x434]), (0x1c82, [0x43e]), (0x1c83, [0x441]),
    (0x1c84, [0x442, 0x1c85]), (0x1c85, [0x442, 0x1c84]), (0x1c86, [0x44a]),
    (0x1c87, [0x463]), (0x1c88, [0xa64b]), (0x1e61, [0x1e9b]),
    (0x1e9b, [0x1e61]), (0x1fbe, [0x345, 0x3b9]), (0x1fd3, [0x390]),
    (0x1fe3, [0x3b0]), (0xa64b, [0x1c88]), (0xfb05, [0xfb06]),
    (0xfb06, [0xfb05])]

/-- The lower case of a code point among the first 128; all others stay. -/
def asciiLower (c : CodePoint) : CodePoint :=
  if 0x41 ≤ c ∧ c ≤ 0x5a then c + 0x20 else c

/-- The lower case of a code point. -/
def lower (c : CodePoint) : CodePoint :=
  if c < 0x80 then asciiLower c else CaseRun.mapOf lowerRuns c

/-- The upper case of a code point. -/
def upper (c : CodePoint) : CodePoint :=
  if c < 0x80 then (if 0x61 ≤ c ∧ c ≤ 0x7a then c - 0x20 else c)
  else CaseRun.mapOf upperRuns c

/-- The other spellings of a lower-case code point. -/
def otherSpellingsOf (c : CodePoint) : List CodePoint :=
  match countAtMost (fun i => (otherSpellings[i]?.map Prod.fst).getD 0) c
      0 otherSpellings.size with
  | 0 => []
  | i + 1 =>
      match otherSpellings[i]? with
      | some (d, others) => if d = c then others else []
      | none => []

end Text
end PathRouter
